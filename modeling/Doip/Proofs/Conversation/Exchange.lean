import Doip.Proofs.Conversation.Log

/-! The exchange behind a request, step by step (`Stage`). It writes the request, waits for an acknowledgement,
sets aside the answers that come too early, waits for an answer, and is done. At every stage the signs noted so
far are those the call has looked at and those that still wait in its queue. -/

namespace Doip

/-- One exchange: its call, its connection, and what was asked of whom. -/
structure Exchange where
  id : Nat
  conn : Nat
  data : Bytes
  server : Address
  settings : ConnectionSettings
  ackTimeout : Nat
  responseTimeout : Nat

namespace Exchange

variable (x : Exchange)

def signs (log : Log) : List (Nat × Sign) := log.signs x.server x.settings.client

/-- The signs that wait in a stream's queue; they came just now. -/
def waiting (log : Log) (s : Stream) : List (Nat × Sign) :=
  (signsIn x.server x.settings.client s.queue).map (log.time, ·)

def outcome (result : Except RequestError Bytes) : Outcome :=
  .request (result.map fun data => ⟨x.server, x.settings.client, data⟩)

/-- The connection of an exchange that has not lost it, in a conversation that nobody shuts down. -/
structure Open (log : Log) (c : Conversation) (k : Connection) (s : Stream) : Prop where
  running : c.running = true
  ackTimeout : c.settings.ackTimeout.toNat = x.ackTimeout
  responseTimeout : c.settings.responseTimeout.toNat = x.responseTimeout
  connection : c.connections[x.conn]? = some k
  activated : k.state = .activated
  server : k.server = x.server
  settings : k.settings = x.settings
  stream : k.stream = some s
  receiving : s.receiving = true
  whole : s.broken = false
  kept : s.Kept x.settings.codec
  buffer : s.buffer = log.buffer
  room : s.queue.length ≤ log.unread
  read : log.last.isArrival = false → s.queue = []
  past : ∀ p ∈ x.signs log, p.1 ≤ log.time

/-- A wait that ends at a deadline. Only the passing of time lets it expire. -/
structure Clock (deadline : Nat) (log : Log) (wait : Wait) : Prop where
  stopped : wait.stopped = false
  remaining : wait.remaining = deadline - log.time
  late : wait.expired = true → deadline ≤ log.time
  due : deadline < log.time → wait.expired = true
  fresh : log.last.isPass = false → wait.expired = false

/-- Where the call of an exchange stands, given what was noted. -/
inductive Stage (log : Log) (c : Conversation) : Call → Prop
  | writing {k : Connection} {s : Stream} {frame : Bytes} (hopen : x.Open log c k s)
      (hearly : k.early = []) (hw : c.timer.wait? x.id = none) (htime : log.time = 0)
      (hlast : log.last.isArrival = true) (hsigns : x.signs log = x.waiting log s) :
      Stage log c (.request x.data (.writing x.conn frame))
  | acknowledging {k : Connection} {s : Stream} {wait : Wait} {aside : List Bytes} {seen : List (Nat × Sign)}
      (hopen : x.Open log c k s) (hearly : k.early = []) (hw : c.timer.wait? x.id = some wait)
      (hclock : Clock x.ackTimeout log wait) (hsigns : x.signs log = seen ++ x.waiting log s)
      (hseen : seen.map (·.2) = aside.map .answer) :
      Stage log c (.request x.data (.waiting x.conn (.acknowledgement aside)))
  | responding {k : Connection} {s : Stream} {wait : Wait} {t : Nat} {seen : List (Nat × Sign)}
      (hopen : x.Open log c k s) (hw : c.timer.wait? x.id = some wait)
      (hclock : Clock (t + x.responseTimeout) log wait) (hsigns : x.signs log = seen ++ x.waiting log s)
      (hack : ackBefore x.ackTimeout seen = some (t, .positive)) (hnone : firstAnswer seen = none) :
      Stage log c (.request x.data (.waiting x.conn .response))
  | done {result : Except RequestError Bytes}
      (hdecided : Decided x.ackTimeout x.responseTimeout log.time (x.signs log) result) :
      Stage log c (.returned (x.outcome result))

variable {x} {log : Log} {c : Conversation} {k : Connection} {s : Stream} {wait : Wait} {deadline : Nat}

/-! Arrivals and the passing of time. -/

theorem Open.queue_arrive (ho : x.Open log c k s) {bs : Bytes}
    (hal : log.Allows x.settings.codec (.arrive (.bytes bs))) :
    (s.digest x.settings.codec x.settings.client bs).queue =
      s.queue ++ (x.settings.codec.drain (log.buffer ++ bs)).frames.filter Stream.forwards := by
  obtain ⟨-, -, hroom⟩ := hal
  rw [← ho.buffer] at hroom ⊢
  refine Stream.digest_queue ?_
  have hqueue := ho.room
  rw [List.length_append]
  omega

theorem Open.arrive (ho : x.Open log c k s) {bs : Bytes}
    (hal : log.Allows x.settings.codec (.arrive (.bytes bs))) :
    x.Open (log.note x.settings.codec (.arrive (.bytes bs)))
      (c.modifyConnection x.conn (·.arrive (.bytes bs)))
      { k with stream := some (s.digest x.settings.codec x.settings.client bs) }
      (s.digest x.settings.codec x.settings.client bs) := by
  have hqueue := ho.queue_arrive hal
  obtain ⟨-, hfault, hroom⟩ := hal
  rw [← ho.buffer] at hfault
  have harrive : k.arrive (.bytes bs) =
      { k with stream := some (s.digest x.settings.codec x.settings.client bs) } := by
    simp [Connection.arrive, ho.stream, ho.settings, Stream.arrive_whole ho.kept ho.receiving hfault]
  refine { ho with
    connection := ?_, stream := rfl, kept := ho.kept.digest _ hfault, buffer := ?_, room := ?_,
    read := fun h => (by cases h), past := fun p hp => ?_ }
  · rw [← harrive]
    exact Conversation.getElem?_modifyConnection ho.connection _
  · show (x.settings.codec.drain (s.buffer ++ bs)).rest = (x.settings.codec.drain (log.buffer ++ bs)).rest
    rw [ho.buffer]
  · rw [hqueue, List.length_append]
    exact Nat.add_le_add_right ho.room _
  · rw [signs, Log.signs_bytes] at hp
    rcases List.mem_append.1 hp with hp | hp
    · exact ho.past p hp
    · obtain ⟨sign, -, rfl⟩ := List.mem_map.1 hp
      exact Nat.le_refl _

theorem Open.signs_arrive (ho : x.Open log c k s) {bs : Bytes}
    (hal : log.Allows x.settings.codec (.arrive (.bytes bs))) {seen : List (Nat × Sign)}
    (hsigns : x.signs log = seen ++ x.waiting log s) :
    x.signs (log.note x.settings.codec (.arrive (.bytes bs))) =
      seen ++ x.waiting (log.note x.settings.codec (.arrive (.bytes bs)))
        (s.digest x.settings.codec x.settings.client bs) := by
  have hqueue := ho.queue_arrive hal
  rw [signs, Log.signs_bytes]
  rw [signs] at hsigns
  rw [hsigns, List.append_assoc, waiting, waiting, hqueue]
  have hnew := signsIn_forwards x.server x.settings.client (x.settings.codec.drain (log.buffer ++ bs)).frames
  simp only [signsIn, List.filterMap_append, List.map_append] at hnew ⊢
  rw [hnew]
  rfl

theorem Open.pass (ho : x.Open log c k s) {ms : Nat} (hal : log.Allows x.settings.codec (.pass ms)) :
    x.Open (log.note x.settings.codec (.pass ms)) (c.apply {} (.elapse ms)) k s :=
  { ho with
    read := fun _ => ho.read hal
    past := fun p hp => Nat.le_trans (ho.past p hp) (Nat.le_add_right _ _) }

theorem Clock.arrive (hc : Clock deadline log wait) {bs : Bytes} (hal : log.last.isPass = false) (codec : Codec) :
    Clock deadline (log.note codec (.arrive (.bytes bs))) wait :=
  ⟨hc.stopped, hc.remaining, hc.late, hc.due, fun _ => hc.fresh hal⟩

theorem Clock.pass (hc : Clock deadline log wait) (ms : Nat) (codec : Codec) :
    Clock deadline (log.note codec (.pass ms)) (wait.elapse ms) := by
  have hrem := hc.remaining
  refine ⟨hc.stopped, ?_, fun h => ?_, fun h => ?_, fun h => by cases h⟩
  · show wait.remaining - ms = deadline - (log.time + ms)
    omega
  · show deadline ≤ log.time + ms
    rcases Bool.or_eq_true_iff.1 h with h | h
    · have := hc.late h
      omega
    · have := of_decide_eq_true h
      omega
  · have hlt : deadline < log.time + ms := h
    by_cases hd : deadline < log.time
    · exact Bool.or_eq_true_iff.2 (.inl (hc.due hd))
    · exact Bool.or_eq_true_iff.2 (.inr (decide_eq_true (by omega)))

/-! Looks. -/

theorem Open.put (ho : x.Open log c k s) {k' : Connection} {rest : List Message} (hrest : rest <:+ s.queue)
    (hstream : k'.stream = some { s with queue := rest }) (hstate : k'.state = k.state)
    (hserver : k'.server = k.server) (hset : k'.settings = k.settings) (timer : Timer) :
    x.Open log { c.modifyConnection x.conn fun _ => k' with timer } k' { s with queue := rest } :=
  { ho with
    connection := Conversation.getElem?_modifyConnection ho.connection _
    activated := hstate.trans ho.activated
    server := hserver.trans ho.server
    settings := hset.trans ho.settings
    stream := hstream
    kept := ho.kept.of_le rfl hrest.length_le fun h => ⟨h, rfl⟩
    room := Nat.le_trans hrest.length_le ho.room
    read := fun h => List.suffix_nil.1 (ho.read h ▸ hrest) }

theorem Open.look (ho : x.Open log c k s) (hq : s.queue = []) : x.Open (log.note x.settings.codec .look) c k s :=
  { ho with
    room := by rw [hq]; exact Nat.le_refl _
    read := fun _ => hq }

theorem Clock.look (hc : Clock deadline log wait) (he : wait.expired = false) (codec : Codec) :
    Clock deadline (log.note codec .look) wait :=
  ⟨hc.stopped, hc.remaining, hc.late, hc.due, fun _ => he⟩

/-- While signs wait in the queue, no time has passed since they came, so the deadline is not over. -/
theorem Open.time_le (ho : x.Open log c k s) (hc : Clock deadline log wait) (hne : x.waiting log s ≠ []) :
    log.time ≤ deadline := by
  by_contra hlt
  -- only the passing of time lets the wait expire, and time passes only after a look
  have hpass : log.last.isPass = true := by
    by_contra hp
    have hfresh := hc.fresh (by simpa using hp)
    rw [hc.due (by omega)] at hfresh
    cases hfresh
  refine hne ?_
  have hread := ho.read (by cases hl : log.last <;> simp_all [Happening.isPass, Happening.isArrival])
  rw [waiting, hread]
  rfl

theorem Stage.settled {result : Except RequestError Bytes} {response : Except RequestError Response}
    (hd : Decided x.ackTimeout x.responseTimeout log.time (x.signs log) result) (hrun : c.running = true)
    (hr : response = result.map fun data => ⟨x.server, x.settings.client, data⟩) :
    x.Stage log (Conversation.settleRequest x.data c response).1
      (Conversation.settleRequest x.data c response).2 := by
  have hsettle : Conversation.settleRequest x.data c response = (c.unlock, .returned (.request response)) :=
    if_pos hrun
  rw [hsettle, hr]
  exact .done hd

theorem responseOf_eq (hk : c.connections[x.conn]? = some k) (hserver : k.server = x.server)
    (hset : k.settings = x.settings) (bs : Bytes) :
    c.responseOf x.conn bs = ⟨x.server, x.settings.client, bs⟩ := by
  simp only [Conversation.responseOf, hk, hserver, hset]

theorem Open.waiting_eq (ho : x.Open log c k s) :
    x.waiting log s = (signsIn k.server k.settings.client s.queue).map (log.time, ·) := by
  rw [waiting, ho.server, ho.settings]

variable {w : Worker} {t : Nat} {seen : List (Nat × Sign)}

theorem look_responding (hcan : w.cancelled = false) (ho : x.Open log c k s)
    (hw : c.timer.wait? x.id = some wait) (hc : Clock (t + x.responseTimeout) log wait)
    (hsigns : x.signs log = seen ++ x.waiting log s)
    (hack : ackBefore x.ackTimeout seen = some (t, .positive)) (hnone : firstAnswer seen = none)
    (hp : Punctual x.ackTimeout x.responseTimeout (x.signs log)) :
    x.Stage (log.note x.settings.codec .look)
      (Conversation.afterResponseWait x.data x.conn (c.resumeWait w x.id "" x.conn .response)).1
      (Conversation.afterResponseWait x.data x.conn (c.resumeWait w x.id "" x.conn .response)).2 := by
  have hsofar : ackBefore x.ackTimeout (x.signs log) = some (t, .positive) := by
    rw [hsigns]
    exact ackBefore_append hack _
  have hpoll := Connection.poll_eq ho.stream hc.stopped k.selectResponse
  rcases k.search_response s.queue with ⟨hall, hsearch⟩ | ⟨acks, d, rest, hqueue, hacks, hsearch⟩
  -- no answer waits: the time is over or the wait goes on with an empty queue
  · have hwaiting : firstAnswer (x.waiting log s) = none := by
      rw [ho.waiting_eq]
      refine firstAnswer_acknowledgements fun p hp => ?_
      obtain ⟨sign, hmem, rfl⟩ := List.mem_map.1 hp
      exact hall sign hmem
    have hfirst : firstAnswer (x.signs log) = none := by
      rw [hsigns, firstAnswer_append_of_none hnone, hwaiting]
    cases hexp : wait.expired with
    | true =>
      have hres : k.resume "" wait w.cancelled .response =
          (k.searched s k.selectResponse, .inr (.response (.error .timeout))) := by
        simp [Connection.resume, hcan, hpoll, hsearch, ho.receiving, hexp, Connection.faultOnLoss]
      rw [Conversation.resumeWait_inr hw ho.connection hres]
      exact .settled (decided_unanswered hsofar hfirst (hc.late hexp)) ho.running rfl
    | false =>
      have hres : k.resume "" wait w.cancelled .response = (k.searched s k.selectResponse, .inl .response) := by
        simp [Connection.resume, hcan, hpoll, hsearch, ho.receiving, hexp]
      have hsearched : (k.searched s k.selectResponse).stream = some { s with queue := [] } := by
        rw [Connection.searched, hsearch]
      rw [Conversation.resumeWait_inl hw ho.connection hres]
      have hopen := ho.put List.nil_suffix hsearched rfl rfl rfl c.timer
      refine .responding (hopen.look rfl) hw (hc.look hexp _) ?_ hsofar hfirst
      exact (List.append_nil _).symm
  · have hhead : firstAnswer (x.waiting log s) = some (log.time, d) := by
      rw [ho.waiting_eq, hqueue, List.map_append, firstAnswer_append_of_none]
      · rfl
      · refine firstAnswer_acknowledgements fun p hp => ?_
        obtain ⟨sign, hmem, rfl⟩ := List.mem_map.1 hp
        exact hacks sign hmem
    have hfirst : firstAnswer (x.signs log) = some (log.time, d) := by
      rw [hsigns, firstAnswer_append_of_none hnone, hhead]
    have hle := ho.time_le hc fun hempty => by rw [hempty] at hhead; cases hhead
    have hne : log.time ≠ t + x.responseTimeout := by
      intro heq
      exact hp.answer t d hsofar (heq ▸ firstAnswer_mem hfirst)
    have hres : k.resume "" wait w.cancelled .response =
        (k.searched s k.selectResponse, .inr (.response (.ok d))) := by
      simp [Connection.resume, hcan, hpoll, hsearch, Connection.faultOnLoss]
    rw [Conversation.resumeWait_inr hw ho.connection hres]
    have hk := Conversation.getElem?_modifyConnection ho.connection fun _ => k.searched s k.selectResponse
    exact .settled (decided_answered hsofar hfirst (by omega)) ho.running
      (congrArg Except.ok (responseOf_eq hk ho.server ho.settings d))

/-- Behind a positive acknowledgement the exchange takes the first answer set aside, or goes for one. -/
theorem start_response (hcan : w.cancelled = false) (ho : x.Open log c k s) (hw : c.timer.wait? x.id = none)
    (hsigns : x.signs log = seen ++ x.waiting log s)
    (hack : ackBefore x.ackTimeout seen = some (log.time, .positive))
    (hearly : (firstAnswer seen).map (·.2) = k.early.head?)
    (hp : Punctual x.ackTimeout x.responseTimeout (x.signs log)) :
    x.Stage (log.note x.settings.codec .look) (Conversation.startResponse w x.id x.data c x.conn).1
      (Conversation.startResponse w x.id x.data c x.conn).2 := by
  unfold Conversation.startResponse
  rw [ho.connection]
  cases hk : k.early with
  | cons d ds =>
    rw [hk] at hearly
    obtain ⟨⟨t', d'⟩, hfirst, hd⟩ := Option.map_eq_some_iff.1 hearly
    obtain rfl : d = d' := hd.symm
    have hsofar : ackBefore x.ackTimeout (x.signs log) = some (log.time, .positive) := by
      rw [hsigns]
      exact ackBefore_append hack _
    have hanswer : firstAnswer (x.signs log) = some (t', d) := by
      rw [hsigns]
      exact firstAnswer_append hfirst _
    have hle : t' ≤ log.time := ho.past _ (firstAnswer_mem hanswer)
    have hne : t' ≠ log.time + x.responseTimeout := by
      intro heq
      exact hp.answer _ d hsofar (heq ▸ firstAnswer_mem hanswer)
    have hk' := Conversation.getElem?_modifyConnection ho.connection fun _ => { k with early := ds }
    simp only [Connection.beginResponse, hk]
    exact .settled (decided_answered hsofar hanswer (by omega)) ho.running
      (congrArg Except.ok (responseOf_eq hk' ho.server ho.settings d))
  | nil =>
    rw [hk] at hearly
    have hnone : firstAnswer seen = none := Option.map_eq_none_iff.1 hearly
    simp only [Connection.beginResponse, hk, ho.activated, ne_eq, not_true_eq_false, if_false]
    have hopen := ho.put (List.suffix_refl _) ho.stream rfl rfl rfl
      (c.timer.arm x.id x.responseTimeout)
    have hclock : Clock (log.time + x.responseTimeout) log { key := x.id, remaining := x.responseTimeout } :=
      ⟨rfl, (Nat.add_sub_cancel_left _ _).symm, fun h => (by cases h), fun h => absurd h (by omega), fun _ => rfl⟩
    rw [ho.responseTimeout]
    exact look_responding hcan hopen (Timer.wait?_arm hw _) hclock hsigns hack hnone hp

/-- The first acknowledgement in the queue stands behind answers only, and before whatever else waits. -/
theorem Open.signs_split (ho : x.Open log c k s) (hsigns : x.signs log = seen ++ x.waiting log s)
    {aside more : List Bytes} (hseen : seen.map (·.2) = aside.map .answer) {o : AckOutcome} {rest : List Message}
    (hqueue : signsIn k.server k.settings.client s.queue =
      more.map .answer ++ .acknowledgement o :: signsIn k.server k.settings.client rest) :
    ∃ before : List (Nat × Sign), before.map (·.2) = (aside ++ more).map .answer ∧
      x.signs log = (before ++ [(log.time, .acknowledgement o)]) ++ x.waiting log { s with queue := rest } := by
  refine ⟨seen ++ (more.map Sign.answer).map (log.time, ·), ?_, ?_⟩
  · rw [List.map_append, hseen, List.map_append]
    simp
  · rw [hsigns, ho.waiting_eq, hqueue, waiting, ho.server, ho.settings]
    simp

theorem Open.ack_in_time (ho : x.Open log c k s) (hc : Clock x.ackTimeout log wait)
    (hp : Punctual x.ackTimeout x.responseTimeout (x.signs log)) (hne : x.waiting log s ≠ [])
    {before later : List (Nat × Sign)} {answers : List Bytes} (hbefore : before.map (·.2) = answers.map .answer)
    {o : AckOutcome} (hsigns : x.signs log = (before ++ [(log.time, .acknowledgement o)]) ++ later) :
    ackBefore x.ackTimeout (before ++ [(log.time, .acknowledgement o)]) = some (log.time, o) := by
  have hmem : (log.time, .acknowledgement o) ∈ x.signs log := by
    rw [hsigns]
    simp
  have hle := ho.time_le hc hne
  have hne' : log.time ≠ x.ackTimeout := fun heq => hp.acknowledgement o (heq ▸ hmem)
  rw [ackBefore_append_of_none (ackBefore_answers (answers_of_map hbefore) _), ackBefore_cons (by omega)]

theorem look_acknowledging (hcan : w.cancelled = false) (ho : x.Open log c k s) (hearly : k.early = [])
    (hw : c.timer.wait? x.id = some wait) (hc : Clock x.ackTimeout log wait)
    (hsigns : x.signs log = seen ++ x.waiting log s) {aside : List Bytes}
    (hseen : seen.map (·.2) = aside.map .answer)
    (hp : Punctual x.ackTimeout x.responseTimeout (x.signs log)) :
    x.Stage (log.note x.settings.codec .look)
      (Conversation.afterRequestWait w x.id x.data x.conn
        (c.resumeWait w x.id "" x.conn (.acknowledgement aside))).1
      (Conversation.afterRequestWait w x.id x.data x.conn
        (c.resumeWait w x.id "" x.conn (.acknowledgement aside))).2 := by
  have hpoll := Connection.poll_eq ho.stream hc.stopped k.selectAcknowledgement
  rcases k.search_acknowledgement s.queue with ⟨more, hqueue, hsearch⟩ | ⟨more, o, rest, hqueue, hsearch⟩
  -- no acknowledgement waits: every sign so far is an answer, and all of them are set aside
  · have hall : (seen ++ x.waiting log s).map (·.2) = (aside ++ more).map .answer := by
      rw [ho.waiting_eq, hqueue, List.map_append, hseen, List.map_append]
      simp
    have hunacked : ackBefore x.ackTimeout (x.signs log) = none := by
      rw [hsigns]
      exact ackBefore_answers (answers_of_map hall) _
    cases hexp : wait.expired with
    | true =>
      have hres : k.resume "" wait w.cancelled (.acknowledgement aside) =
          ({ k.searched s k.selectAcknowledgement with early := k.early ++ aside ++ more },
            .inr (.acknowledgement (.error .timeout))) := by
        simp [Connection.resume, hcan, hpoll, hsearch, ho.receiving, hexp, Connection.faultOnLoss,
          Connection.searched]
      rw [Conversation.resumeWait_inr hw ho.connection hres]
      exact .settled (decided_unacknowledged hunacked (hc.late hexp)) ho.running rfl
    | false =>
      have hres : k.resume "" wait w.cancelled (.acknowledgement aside) =
          (k.searched s k.selectAcknowledgement, .inl (.acknowledgement (aside ++ more))) := by
        simp [Connection.resume, hcan, hpoll, hsearch, ho.receiving, hexp]
      have hsearched : (k.searched s k.selectAcknowledgement).stream = some { s with queue := [] } := by
        rw [Connection.searched, hsearch]
      rw [Conversation.resumeWait_inl hw ho.connection hres]
      have hopen := ho.put List.nil_suffix hsearched rfl rfl rfl c.timer
      refine .acknowledging (hopen.look rfl) hearly hw (hc.look hexp _) ?_ hall
      rw [← hsigns]
      exact (List.append_nil _).symm
  · obtain ⟨before, hbefore, hsplit⟩ := ho.signs_split hsigns hseen hqueue
    have hne : x.waiting log s ≠ [] := by
      rw [ho.waiting_eq, hqueue]
      simp
    have hacked := ho.ack_in_time hc hp hne hbefore hsplit
    have hres : k.resume "" wait w.cancelled (.acknowledgement aside) =
        ({ k.searched s k.selectAcknowledgement with early := k.early ++ aside ++ more },
          .inr (.acknowledgement (.ok o))) := by
      simp [Connection.resume, hcan, hpoll, hsearch, Connection.faultOnLoss, Connection.searched]
    rw [Conversation.resumeWait_inr hw ho.connection hres]
    cases o with
    | negative code =>
      have hrefused : ackBefore x.ackTimeout (x.signs log) = some (log.time, .negative code) := by
        rw [hsplit]
        exact ackBefore_append hacked _
      exact .settled (decided_refused hrefused) ho.running rfl
    | positive =>
      have hrest : rest <:+ s.queue := by
        have hsuffix := Stream.search_rest_suffix k.selectAcknowledgement s.queue
        rwa [hsearch] at hsuffix
      have hsearched : Connection.stream
          { k.searched s k.selectAcknowledgement with early := k.early ++ aside ++ more } =
            some { s with queue := rest } := by
        rw [Connection.searched, hsearch]
      have hopen := ho.put hrest hsearched rfl rfl rfl (c.timer.finish x.id)
      refine start_response hcan hopen (Timer.wait?_finish _ _) hsplit hacked ?_ hp
      rw [firstAnswer_before hbefore, hearly, List.nil_append]

/-! Every step. -/

theorem Open.write (ho : x.Open log c k s) (frame : Bytes) (timer : Timer) :
    x.Open log { c.modifyConnection x.conn fun _ => { k with stream := some (s.write frame) } with timer }
      { k with stream := some (s.write frame) } (s.write frame) := by
  have hwrite : s.write frame = { s with written := s.written ++ frame } := if_neg (by simp [ho.whole])
  have hkept := ho.kept.write frame
  rw [hwrite] at hkept ⊢
  exact { ho with
    connection := Conversation.getElem?_modifyConnection ho.connection _
    stream := rfl
    kept := hkept }

theorem afterRequestWait_response (w : Worker) (id : Nat) (data : Bytes) (conn : Nat) (text : String) :
    Conversation.afterRequestWait w id data conn (c.resumeWait w id text conn .response) =
      Conversation.afterResponseWait data conn (c.resumeWait w id text conn .response) := by
  unfold Conversation.resumeWait
  split
  · rename_i wait k _ _
    rcases hpoll : k.poll wait w.cancelled k.selectResponse with ⟨k', aside, _ | result⟩
    · have hres : k.resume text wait w.cancelled .response = (k', .inl .response) := by
        simp only [Connection.resume, hpoll]
      rw [hres]
      rfl
    · have hres : k.resume text wait w.cancelled .response =
          (k'.faultOnLoss result, .inr (.response result)) := by
        simp only [Connection.resume, hpoll]
      rw [hres]
      rfl
  · rfl

theorem Stage.look {call : Call} (h : x.Stage log c call) (hcan : w.cancelled = false) (inside : Bool)
    (hp : Punctual x.ackTimeout x.responseTimeout (x.signs log)) :
    x.Stage (log.note x.settings.codec .look) (Conversation.stepCall w x.id inside c call).1
      (Conversation.stepCall w x.id inside c call).2 := by
  cases h with
  | writing ho hearly hw htime hlast hsigns =>
    rename_i k s frame
    have hwrite : k.writeRequest frame = ({ k with stream := some (s.write frame) }, .ok ()) := by
      simp [Connection.writeRequest, Connection.write?, ho.stream, ho.whole]
    have hwaiting : x.waiting log (s.write frame) = x.waiting log s := by
      rw [waiting, waiting, Stream.write_queue]
    have hclock : Clock x.ackTimeout log { key := x.id, remaining := x.ackTimeout } :=
      ⟨rfl, by rw [htime]; rfl, fun h => (by cases h), fun h => absurd h (by omega), fun _ => rfl⟩
    have hnone : List.map (·.2) ([] : List (Nat × Sign)) = ([] : List Bytes).map .answer := rfl
    rw [← hwaiting] at hsigns
    have hlook := look_acknowledging hcan (ho.write frame (c.timer.arm x.id x.ackTimeout)) hearly
      (Timer.wait?_arm hw _) hclock hsigns hnone hp
    simp only [Conversation.stepCall, Conversation.stepRequest, ho.connection, hwrite, ho.ackTimeout]
    exact hlook
  | acknowledging ho hearly hw hc hsigns hseen => exact look_acknowledging hcan ho hearly hw hc hsigns hseen hp
  | responding ho hw hc hsigns hack hnone =>
    simp only [Conversation.stepCall, Conversation.stepRequest, afterRequestWait_response]
    exact look_responding hcan ho hw hc hsigns hack hnone hp
  | done hd => exact .done hd

theorem Stage.arrive {call : Call} (h : x.Stage log c call) {bs : Bytes}
    (hal : log.Allows x.settings.codec (.arrive (.bytes bs))) :
    x.Stage (log.note x.settings.codec (.arrive (.bytes bs)))
      (c.modifyConnection x.conn (·.arrive (.bytes bs))) call := by
  cases h with
  | @writing k s frame ho hearly hw htime hlast hsigns =>
    have hsigns' : x.signs log = [] ++ x.waiting log s := hsigns
    exact .writing (ho.arrive hal) hearly hw htime rfl (ho.signs_arrive hal hsigns')
  | acknowledging ho hearly hw hc hsigns hseen =>
    exact .acknowledging (ho.arrive hal) hearly hw (hc.arrive hal.1 _) (ho.signs_arrive hal hsigns) hseen
  | responding ho hw hc hsigns hack hnone =>
    exact .responding (ho.arrive hal) hw (hc.arrive hal.1 _) (ho.signs_arrive hal hsigns) hack hnone
  | done hd =>
    obtain ⟨later, hlater, htimes⟩ := Log.signs_note x.settings.codec x.server x.settings.client log
      (.arrive (.bytes bs))
    refine .done ?_
    rw [signs, hlater]
    exact hd.append htimes

theorem Stage.pass {call : Call} (h : x.Stage log c call) {ms : Nat}
    (hal : log.Allows x.settings.codec (.pass ms)) :
    x.Stage (log.note x.settings.codec (.pass ms)) { c with timer := c.timer.elapse ms } call := by
  have hw : (c.timer.elapse ms).wait? x.id = (c.timer.wait? x.id).map (Wait.elapse ms) :=
    Timer.wait?_elapse c.timer ms x.id
  have hempty : ∀ k s, x.Open log c k s → ∀ log' : Log, x.waiting log' s = [] := by
    intro k s ho log'
    rw [waiting, ho.read hal]
    rfl
  cases h with
  | writing ho hearly hw' htime hlast hsigns =>
    rw [show log.last.isArrival = false from hal] at hlast
    cases hlast
  | acknowledging ho hearly hw' hc hsigns hseen =>
    rw [hw'] at hw
    refine .acknowledging (ho.pass hal) hearly hw (hc.pass ms _) ?_ hseen
    rw [hempty _ _ ho] at hsigns ⊢
    exact hsigns
  | responding ho hw' hc hsigns hack hnone =>
    rw [hw'] at hw
    refine .responding (ho.pass hal) hw (hc.pass ms _) ?_ hack hnone
    rw [hempty _ _ ho] at hsigns ⊢
    exact hsigns
  | done hd => exact .done (hd.mono (Nat.le_add_right _ _))

end Exchange
end Doip
