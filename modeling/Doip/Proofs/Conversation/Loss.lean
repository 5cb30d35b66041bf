import Doip.Proofs.Conversation.Request

/-! What becomes of a request whose connection is lost while frames still wait in its queue. An acknowledgement
in the queue is found whether or not the loss is recorded, and so is an answer in front of it. An answer behind
it is found only if the caller looked between the two: the state is tested before the queue is read again
(`delivered_before_loss`). -/

namespace Doip

def answerLeads : List (Nat × Sign) → Bool
  | (_, .answer _) :: _ => true
  | _ => false

theorem Conversation.run_arrivals {w : Worker} {conn id : Nat} (c : Conversation) (as : List Arrival) :
    Conversation.run w conn id c (as.map .arrive) =
      { c with connections := c.connections.modify conn (as.foldl Connection.arrive) } := by
  induction as generalizing c with
  | nil =>
    have hid : c.connections.modify conn (fun k => k) = c.connections := List.modify_id _ _
    simp only [Conversation.run, List.map_nil, List.foldl_nil, hid]
  | cons a as ih =>
    rw [List.map_cons, Conversation.run_cons, ih]
    simp only [Happening.event, Conversation.apply, Conversation.modifyConnection, List.modify_modify_eq,
      List.foldl_cons]
    rfl

namespace Exchange

variable {x : Exchange} {log : Log} {c : Conversation} {k : Connection} {s : Stream} {w : Worker} {wait : Wait}
variable {as : List Arrival} {seen : List (Nat × Sign)} {t t' : Nat} {answer : Bytes}

def arriving (codec : Codec) (log : Log) (as : List Arrival) : List Message :=
  ((codec.drain (log.buffer ++ Arrival.bytesOf as)).frames.filter Stream.forwards).take queueDepth

/-- The signs that the caller has not looked at when it looks for the first time after some arrivals. -/
def unseen (x : Exchange) (log : Log) (as : List Arrival) : List (Nat × Sign) :=
  (signsIn x.server x.settings.client (arriving x.settings.codec log as)).map (log.time, ·)

/-- The connection of an exchange behind its loss: the receiver has ended and left its frames in the queue. -/
structure Lost (x : Exchange) (log : Log) (as : List Arrival) (c : Conversation) (k : Connection)
    (s : Stream) : Prop where
  running : c.running = true
  connection : c.connections[x.conn]? = some k
  faulted : k.state = .faulted
  server : k.server = x.server
  settings : k.settings = x.settings
  stream : k.stream = some s
  ended : s.receiving = false
  queue : s.queue = arriving x.settings.codec log as

theorem Open.lose (ho : x.Open log c k s) (hlast : log.last = .look)
    (hlost : (as.foldl Connection.arrive k).state = .faulted) :
    ∃ s', x.Lost log as { c with connections := c.connections.modify x.conn (as.foldl Connection.arrive) }
      (as.foldl Connection.arrive k) s' ∧ (as.foldl Connection.arrive k).early = k.early := by
  have hkept : s.Kept k.settings.codec := by
    rw [ho.settings]
    exact ho.kept
  obtain ⟨hqueue, -, hrec⟩ := Stream.arriveAll_spec hkept ho.receiving k.settings.client as
  have hempty : s.queue = [] := ho.read (by rw [hlast]; rfl)
  have heq := Connection.arrivals_eq ho.stream as
  -- the connection was activated, so only the recorded loss can have made it faulted
  have hended : (Stream.arriveAll k.settings.codec k.settings.client s as).2 = true := by
    by_contra hno
    rw [heq] at hlost
    simp [hno, ho.activated] at hlost
  rw [heq] at hlost ⊢
  refine ⟨_, ⟨ho.running, ?_, hlost, ho.server, ho.settings, rfl, ?_, ?_⟩, rfl⟩
  · rw [List.getElem?_modify_eq, ho.connection, ← heq]
    rfl
  · rw [hrec, hended]
    rfl
  · rw [hqueue, hempty, ho.buffer, ho.settings]
    rfl

theorem Lost.unseen_eq (hl : x.Lost log as c k s) :
    x.unseen log as = (signsIn k.server k.settings.client s.queue).map (log.time, ·) := by
  rw [unseen, hl.queue, hl.server, hl.settings]

theorem settleRequest_running (hrun : c.running = true) (result : Except RequestError Response) :
    Conversation.settleRequest x.data c result = (c.unlock, .returned (.request result)) := if_pos hrun

theorem map_snd_answers (time : Nat) (ds : List Bytes) :
    ((ds.map Sign.answer).map (time, ·)).map (·.2) = ds.map .answer := by
  simp

theorem unseen_positive {aside : List Bytes} (hl : x.Lost log as c k s) (hseen : seen.map (·.2) = aside.map .answer)
    (hack : ackBefore x.ackTimeout (seen ++ x.unseen log as) = some (t, .positive)) :
    ∃ more rest, Stream.search k.selectAcknowledgement s.queue = (some .positive, more, rest) ∧
      ∃ before later, before.map (·.2) = (aside ++ more).map .answer ∧
        seen ++ x.unseen log as = (before ++ [(log.time, .acknowledgement .positive)]) ++ later := by
  rw [ackBefore_append_of_none (ackBefore_answers (answers_of_map hseen) _), hl.unseen_eq] at hack
  rcases k.search_acknowledgement s.queue with ⟨more, hqueue, hsearch⟩ | ⟨more, o, rest, hqueue, hsearch⟩
  · rw [hqueue, ackBefore_answers (answers_of_map (map_snd_answers log.time more))] at hack
    cases hack
  · have hmore := map_snd_answers log.time more
    have hlt : log.time < x.ackTimeout := by
      by_contra hge
      rw [ackBefore_late fun p hp => ?_] at hack
      · cases hack
      · obtain ⟨sign, -, rfl⟩ := List.mem_map.1 hp
        exact Nat.not_lt.1 hge
    rw [hqueue, List.map_append, ackBefore_append_of_none (ackBefore_answers (answers_of_map hmore) _),
      List.map_cons, ackBefore_cons hlt] at hack
    cases hack
    refine ⟨more, rest, hsearch, seen ++ (more.map Sign.answer).map (log.time, ·),
      (signsIn k.server k.settings.client rest).map (log.time, ·), ?_, ?_⟩
    · rw [List.map_append, hseen, hmore, List.map_append]
    · rw [hl.unseen_eq, hqueue]
      simp

theorem head_answer {before later : List (Nat × Sign)} {ds : List Bytes} {time : Nat} {o : AckOutcome}
    (hbefore : before.map (·.2) = ds.map .answer)
    (hanswer : firstAnswer ((before ++ [(time, .acknowledgement o)]) ++ later) = some (t', answer)) :
    (match ds.head? with
      | some d => Except.ok d
      | none => .error RequestError.connectionLost) =
      if answerLeads ((before ++ [(time, .acknowledgement o)]) ++ later) then .ok answer
      else .error .connectionLost := by
  have hfirst := firstAnswer_before hbefore time o
  cases before with
  | nil =>
    obtain rfl : ds = [] := List.map_eq_nil_iff.1 hbefore.symm
    rfl
  | cons p ps =>
    cases ds with
    | nil => cases hbefore
    | cons d ds =>
      obtain ⟨⟨t₁, d₁⟩, hd, rfl⟩ := Option.map_eq_some_iff.1 hfirst
      rw [firstAnswer_append hd] at hanswer
      cases hanswer
      obtain ⟨t₂, sign⟩ := p
      obtain rfl : sign = .answer answer := (List.cons.inj hbefore).1
      rfl

theorem startResponse_lost (hrun : c.running = true) (hk : c.connections[x.conn]? = some k)
    (hst : k.state = .faulted) (hserver : k.server = x.server) (hset : k.settings = x.settings) :
    (Conversation.startResponse w x.id x.data c x.conn).2 =
      .returned (x.outcome (match k.early.head? with
        | some d => .ok d
        | none => .error .connectionLost)) := by
  unfold Conversation.startResponse
  rw [hk]
  cases hearly : k.early with
  | cons d ds =>
    have hk' := Conversation.getElem?_modifyConnection hk fun _ => { k with early := ds }
    simp only [Connection.beginResponse, hearly]
    rw [responseOf_eq hk' hserver hset, settleRequest_running (by exact hrun)]
    rfl
  | nil =>
    simp only [Connection.beginResponse, hearly, hst]
    rw [if_pos (by decide)]
    simp only
    rw [settleRequest_running (by exact hrun)]
    rfl

theorem Lost.look_acknowledging {aside : List Bytes} (hl : x.Lost log as c k s) (hcan : w.cancelled = false)
    (hearly : k.early = []) (hw : c.timer.wait? x.id = some wait) (hst : wait.stopped = false)
    (hseen : seen.map (·.2) = aside.map .answer)
    (hack : ackBefore x.ackTimeout (seen ++ x.unseen log as) = some (t, .positive))
    (hanswer : firstAnswer (seen ++ x.unseen log as) = some (t', answer)) :
    (Conversation.afterRequestWait w x.id x.data x.conn
      (c.resumeWait w x.id "" x.conn (.acknowledgement aside))).2 =
      .returned (x.outcome (if answerLeads (seen ++ x.unseen log as) then .ok answer
        else .error .connectionLost)) := by
  obtain ⟨more, rest, hsearch, before, later, hbefore, hsplit⟩ := unseen_positive hl hseen hack
  let k' : Connection := { k.searched s k.selectAcknowledgement with early := aside ++ more }
  have hres : k.resume "" wait w.cancelled (.acknowledgement aside) =
      (k', .inr (.acknowledgement (.ok .positive))) := by
    simp [Connection.resume, hcan, Connection.poll_eq hl.stream hst, hsearch, Connection.faultOnLoss, hearly,
      Connection.searched, k']
  rw [Conversation.resumeWait_inr hw hl.connection hres]
  let c' : Conversation := { c.modifyConnection x.conn fun _ => k' with timer := c.timer.finish x.id }
  have hk : c'.connections[x.conn]? = some k' := Conversation.getElem?_modifyConnection hl.connection fun _ => k'
  have hrun : c'.running = true := hl.running
  refine (startResponse_lost hrun hk hl.faulted hl.server hl.settings).trans ?_
  rw [hsplit] at hanswer ⊢
  exact congrArg (fun r => Call.returned (x.outcome r)) (head_answer hbefore hanswer)

theorem Lost.look_responding (hl : x.Lost log as c k s) (hcan : w.cancelled = false)
    (hw : c.timer.wait? x.id = some wait) (hst : wait.stopped = false) (hnone : firstAnswer seen = none)
    (hanswer : firstAnswer (seen ++ x.unseen log as) = some (t', answer)) :
    (Conversation.afterRequestWait w x.id x.data x.conn (c.resumeWait w x.id "" x.conn .response)).2 =
      .returned (x.outcome (.ok answer)) := by
  rw [firstAnswer_append_of_none hnone, hl.unseen_eq] at hanswer
  rcases k.search_response s.queue with ⟨hall, -⟩ | ⟨acks, d, rest, hqueue, hacks, hsearch⟩
  · rw [firstAnswer_acknowledgements fun p hp => ?_] at hanswer
    · cases hanswer
    · obtain ⟨sign, hmem, rfl⟩ := List.mem_map.1 hp
      exact hall sign hmem
  · rw [hqueue, List.map_append, firstAnswer_append_of_none] at hanswer
    · cases hanswer
      have hres : k.resume "" wait w.cancelled .response =
          (k.searched s k.selectResponse, .inr (.response (.ok answer))) := by
        simp [Connection.resume, hcan, Connection.poll_eq hl.stream hst, hsearch, Connection.faultOnLoss]
      let c' : Conversation :=
        { c.modifyConnection x.conn fun _ => k.searched s k.selectResponse with timer := c.timer.finish x.id }
      have hk : c'.connections[x.conn]? = some (k.searched s k.selectResponse) :=
        Conversation.getElem?_modifyConnection hl.connection fun _ => k.searched s k.selectResponse
      have hrun : c'.running = true := hl.running
      rw [afterRequestWait_response, Conversation.resumeWait_inr hw hl.connection hres,
        Conversation.afterResponseWait, settleRequest_running hrun]
      exact congrArg (fun r => Call.returned (.request (.ok r))) (responseOf_eq hk hl.server hl.settings answer)
    · refine firstAnswer_acknowledgements fun p hp => ?_
      obtain ⟨sign, hmem, rfl⟩ := List.mem_map.1 hp
      exact hacks sign hmem

theorem Follows.look_lost (h : x.Follows log c) (hcan : w.cancelled = false) (hlast : log.last = .look)
    (hlost : (Conversation.run w x.conn x.id c (as.map .arrive)).connections[x.conn]?.map (·.state) =
      some .faulted)
    (hack : ackBefore x.ackTimeout (x.signs log ++ x.unseen log as) = some (t, .positive))
    (hanswer : firstAnswer (x.signs log ++ x.unseen log as) = some (t', answer))
    (hlt : t' < t + x.responseTimeout) :
    ((Conversation.run w x.conn x.id c (as.map .arrive)).advance w x.id).outcome? x.id =
      some (x.outcome (if (ackBefore x.ackTimeout (x.signs log)).isSome ||
        answerLeads (x.signs log ++ x.unseen log as) then .ok answer else .error .connectionLost)) := by
  obtain ⟨⟨call, inside⟩, ht, hstage⟩ := h
  have hrun : Conversation.run w x.conn x.id c (as.map .arrive) =
      { c with connections := c.connections.modify x.conn (as.foldl Connection.arrive) } :=
    Conversation.run_arrivals c as
  rw [hrun] at hlost ⊢
  have hread : ∀ s : Stream, s.queue = [] → x.waiting log s = [] := fun s hs => by rw [waiting, hs]; rfl
  rw [Conversation.outcome?_eq_some_iff (Conversation.getElem?_advance (by exact ht))]
  cases hstage with
  | writing ho hearly hw htime hlast' hsigns =>
    rw [hlast] at hlast'
    cases hlast'
  | acknowledging ho hearly hw hc hsigns hseen =>
    rename_i k s wait aside seen
    have hempty : s.queue = [] := ho.read (by rw [hlast]; rfl)
    rw [hread s hempty, List.append_nil] at hsigns
    subst hsigns
    rw [List.getElem?_modify_eq, ho.connection] at hlost
    obtain ⟨s', hl, hearly'⟩ := ho.lose hlast (Option.some.inj hlost)
    have hlook := hl.look_acknowledging hcan (hearly'.trans hearly) hw hc.stopped hseen hack hanswer
    rw [ackBefore_answers (answers_of_map hseen)]
    exact hlook
  | responding ho hw hc hsigns hack' hnone =>
    rename_i k s wait t₀ seen
    have hempty : s.queue = [] := ho.read (by rw [hlast]; rfl)
    rw [hread s hempty, List.append_nil] at hsigns
    subst hsigns
    rw [List.getElem?_modify_eq, ho.connection] at hlost
    obtain ⟨s', hl, -⟩ := ho.lose hlast (Option.some.inj hlost)
    rw [hack']
    exact hl.look_responding hcan hw hc.stopped hnone hanswer
  | done hd =>
    rename_i result
    -- an exchange that has ended has ended with the verdict on all signs, and only an acknowledged one with an answer
    have hall : verdict x.ackTimeout x.responseTimeout (x.signs log ++ x.unseen log as) = result := by
      refine hd _ fun p hp => ?_
      obtain ⟨sign, -, rfl⟩ := List.mem_map.1 hp
      exact Nat.le_refl _
    have hok : result = .ok answer := by
      rw [← hall, verdict, hack, hanswer]
      exact if_pos hlt
    have hseen : (ackBefore x.ackTimeout (x.signs log)).isSome := by
      have hverdict := hd.verdict_eq
      rw [hok, verdict] at hverdict
      cases hn : ackBefore x.ackTimeout (x.signs log) with
      | none => simp [hn] at hverdict
      | some p => rfl
    rw [hseen, hok]
    rfl

end Exchange

namespace Conversation

variable {w : Worker} {id conn : Nat} {data : Bytes} {inside : Bool} {c : Conversation} {k : Connection} {s : Stream}
variable {hs : List Happening} {as : List Arrival} {t t' : Nat} {answer : Bytes}

/-- The connection of a request is lost after a positive acknowledgement and an answer have been queued in time.
The next look at the queue returns the answer if the acknowledgement was looked at before the loss, or if an answer
was queued in front of it; otherwise the request ends with the loss and the answer stays in the queue. -/
theorem delivered_before_loss (h : Reachable c) (ht : c.threads[id]? = some ⟨.request data .queued, inside⟩)
    (hrun : c.running = true) (hfree : c.holder = none) (hslot : c.slot = some conn)
    (hk : c.connections[conn]? = some k) (hst : k.state = .activated) (hstr : k.stream = some s)
    (hrec : s.receiving = true) (hb : s.broken = false) (hcan : w.cancelled = false)
    (hfits : 4 + data.length ≤ k.settings.codec.limit.toNat) :
    let x := Exchange.of c id conn data k
    let start : Log := { buffer := s.buffer }
    let log := start.noteAll k.settings.codec hs
    let seen := log.signs k.server k.settings.client
    let all := seen ++ x.unseen log as
    let before := run w conn id (c.advance w id) (hs ++ as.map .arrive)
    x.Fair start hs → log.last = .look → before.connections[conn]?.map (·.state) = some .faulted →
    ackBefore c.settings.ackTimeout.toNat all = some (t, .positive) → firstAnswer all = some (t', answer) →
    t' < t + c.settings.responseTimeout.toNat →
    (before.advance w id).outcome? id = some (.request
      (if (ackBefore c.settings.ackTimeout.toNat seen).isSome || answerLeads all
        then .ok ⟨k.server, k.settings.client, answer⟩ else .error .connectionLost)) := by
  intro x start log seen all before hfair hlast hlost hack hanswer hlt
  have hfollows : x.Follows start (c.advance w id) :=
    follows_of_queued h ht hrun hfree hslot hk hst hstr hrec hb hfits
  have hend : x.Follows log (run w conn id (c.advance w id) hs) :=
    hfollows.run hcan hfair.orderly hfair.punctual
  have happend : before = run w conn id (run w conn id (c.advance w id) hs) (as.map .arrive) := by
    simp only [before, run, List.map_append, List.foldl_append]
  rw [happend] at hlost ⊢
  refine (hend.look_lost hcan hlast hlost hack hanswer hlt).trans ?_
  show some (x.outcome (if (ackBefore c.settings.ackTimeout.toNat seen).isSome || answerLeads all then _ else _)) = _
  split <;> rfl

def farewell (frames : List Message) : List Arrival := [.bytes (frames.flatMap Message.toBytes), .endOfStream]

/-- A client that has written its request and looked once, and to which the server then says farewell. -/
def parting (frames : List Message) : Conversation :=
  run {} 0 1 (requesting.advance {} 1) ([.look] ++ (farewell frames).map .arrive)

theorem parting_faulted (frames : List Message) :
    (parting frames).connections[0]?.map (·.state) = some .faulted := by
  let s : Stream := { askingStream [] with
    written := (askingStream []).written ++ Codec.encodePayload {} (.diagnosticMessage ⟨0x0E00, 0x1000, [0x3E, 0x00]⟩) }
  let k : Connection := { asking with state := .activated, stream := some s }
  have hk : (run {} 0 1 (requesting.advance {} 1) [.look]).connections[0]? = some k := by
    rw [requesting_eq]
    rfl
  have happend : parting frames =
      run {} 0 1 (run {} 0 1 (requesting.advance {} 1) [.look]) ((farewell frames).map .arrive) := by
    simp only [parting, run, List.map_append, List.foldl_append]
  have hkept : s.Kept {} := ⟨rfl, Nat.zero_le _, fun _ => rfl⟩
  obtain ⟨-, hlost, -⟩ := Stream.arriveAll_spec hkept rfl 0x0E00 (farewell frames)
  have hends : Arrival.endsIn (farewell frames) = true := rfl
  rw [hends, Bool.or_true] at hlost
  rw [happend, run_arrivals, List.getElem?_modify_eq, hk, Option.map_eq_map, Option.map_some, Option.map_some,
    Connection.arrivals_eq (k := k) rfl]
  simp only [k, asking, hlost]
  rfl

/-- With the acknowledgement in front the answer is lost, with the answer in front it is returned. -/
theorem answer_lost_behind_acknowledgement :
    (parting [acknowledged, answered]).connections[0]?.map (·.state) = some .faulted ∧
    ((parting [acknowledged, answered]).advance {} 1).outcome? 1 = some (.request (.error .connectionLost)) ∧
    ((parting [answered, acknowledged]).advance {} 1).outcome? 1 =
      some (.request (.ok ⟨0x1000, 0x0E00, [0x7E, 0x00]⟩)) := by
  have hreach : Reachable requesting :=
    ((Reachable.fresh _ _ _ _).applyAll {} _).applyAll {} _
  have ht : requesting.threads[1]? = some ⟨.request [0x3E, 0x00] .queued, false⟩ := by
    rw [requesting_eq]
    rfl
  have hk : requesting.connections[0]? = some { asking with state := .activated } := by
    rw [requesting_eq]
    rfl
  have hslot : requesting.slot = some 0 ∧ requesting.holder = none ∧ requesting.running = true := by
    rw [requesting_eq]
    exact ⟨rfl, rfl, rfl⟩
  have htimes : requesting.settings.ackTimeout.toNat = 2000 ∧ requesting.settings.responseTimeout.toNat = 5000 := by
    rw [requesting_eq]
    exact ⟨rfl, rfl⟩
  have hans : Codec.Admits {} answered := Codec.admits_of {} (by decide) (by decide) 2
  have hadm : Codec.Admits {} acknowledged := Codec.admits_of {} (by decide) (by decide) 2
  let x := Exchange.of requesting 1 0 [0x3E, 0x00] { asking with state := .activated }
  let log : Log := Log.noteAll {} { buffer := [] } [.look]
  have hfair : x.Fair { buffer := [] } [.look] := by
    refine ⟨⟨trivial, trivial⟩, ⟨fun outcome => List.not_mem_nil, fun t data hack => ?_⟩⟩
    cases hack
  have hunseen : ∀ frames, (∀ m ∈ frames, Codec.Admits {} m) →
      x.unseen log (farewell frames) =
        (signsIn 0x1000 0x0E00 ((frames.filter Stream.forwards).take queueDepth)).map (0, ·) := by
    intro frames hall
    have hbytes : ([] : Bytes) ++ Arrival.bytesOf (farewell frames) = frames.flatMap Message.toBytes :=
      List.append_nil _
    have hdrain : Codec.drain {} ([] ++ Arrival.bytesOf (farewell frames)) = { frames } := by
      rw [hbytes, Codec.drain_frames hall]
    show (signsIn 0x1000 0x0E00 (Exchange.arriving {} log (farewell frames))).map (0, ·) = _
    simp only [Exchange.arriving, log, Log.noteAll, List.foldl_cons, List.foldl_nil, Log.note, hdrain]
  have hlook : ∀ frames, ackBefore 2000 (x.unseen log (farewell frames)) = some (0, .positive) →
      firstAnswer (x.unseen log (farewell frames)) = some (0, [0x7E, 0x00]) →
      ((parting frames).advance {} 1).outcome? 1 = some (.request
        (if answerLeads (x.unseen log (farewell frames)) then .ok ⟨0x1000, 0x0E00, [0x7E, 0x00]⟩
          else .error .connectionLost)) := by
    intro frames hack hanswer
    have hdelivered := @delivered_before_loss {} 1 0 [0x3E, 0x00] false requesting
      { asking with state := .activated } (askingStream []) [.look] (farewell frames) 0 0 [0x7E, 0x00]
      hreach ht hslot.2.2 hslot.2.1 hslot.1 hk rfl rfl rfl rfl rfl (by decide)
    rw [htimes.1, htimes.2] at hdelivered
    exact hdelivered hfair rfl (parting_faulted frames) hack hanswer (by decide)
  refine ⟨parting_faulted _, ?_, ?_⟩
  · have hsigns := hunseen [acknowledged, answered] (by simp [hans, hadm])
    rw [hlook _ (by rw [hsigns]; rfl) (by rw [hsigns]; rfl), hsigns]
    rfl
  · have hsigns := hunseen [answered, acknowledged] (by simp [hans, hadm])
    rw [hlook _ (by rw [hsigns]; rfl) (by rw [hsigns]; rfl), hsigns]
    rfl

end Conversation
end Doip
