import Doip.Proofs.Conversation.Exchange
import Doip.Proofs.Conversation.Pending

/-! What one request takes out of the queue of its connection, whatever arrives and whenever it looks. The frames
it has taken since it began explain where it stands (`Progress`) and how it ends (`Ended`), and what it leaves
is the end of the queue (`Progress.step`). -/

namespace Doip

namespace Sign

def outcome? : Sign → Option AckOutcome
  | acknowledgement outcome => some outcome
  | answer _ => none

def data? : Sign → Option Bytes
  | acknowledgement _ => none
  | answer data => some data

end Sign

/-- The signs a request has looked at explain its result. A request that was cut short claims nothing. -/
def Explains (signs : List Sign) : Except RequestError Response → Prop
  | .ok response =>
    signs.findSome? Sign.outcome? = some .positive ∧ signs.findSome? Sign.data? = some response.data
  | .error (.negativeAck code) => signs.findSome? Sign.outcome? = some (.negative code)
  | .error .ackTimeout => signs.findSome? Sign.outcome? = none
  | .error .timeout => signs.findSome? Sign.outcome? = some .positive ∧ signs.findSome? Sign.data? = none
  | .error _ => True

/-- A result that is drawn from frames of the server, or from their absence. -/
def tells : Except RequestError Response → Bool
  | .ok _ => true
  | .error (.negativeAck _) => true
  | .error .ackTimeout => true
  | .error .timeout => true
  | .error _ => false

/-- Where a request on a connection stands after some signs. -/
inductive Progress (conn : Nat) (early : List Bytes) (signs : List Sign) : Call → Prop
  | writing {data frame : Bytes} (hearly : early = []) (hsigns : signs = []) :
      Progress conn early signs (.request data (.writing conn frame))
  | acknowledging {data : Bytes} {aside : List Bytes} (hearly : early = []) (hsigns : signs = aside.map .answer) :
      Progress conn early signs (.request data (.waiting conn (.acknowledgement aside)))
  | responding {data : Bytes} (hack : signs.findSome? Sign.outcome? = some .positive)
      (hnone : signs.findSome? Sign.data? = none) :
      Progress conn early signs (.request data (.waiting conn .response))

/-- A request that has its result after some signs. -/
inductive Ended (signs : List Sign) : Call → Prop
  | closing {data : Bytes} {conn : Nat} {result : Except RequestError Response} (h : Explains signs result) :
      Ended signs (.request data (.closing conn result))
  | returned {result : Except RequestError Response} (h : Explains signs result) :
      Ended signs (.returned (.request result))

/-- A request has taken some frames from the front of a queue, which explain where it stands now. -/
def Serves (conn : Nat) (server client : Address) (seen queue : List Message) (r : Conversation × Call) : Prop :=
  ∃ (k : Connection) (taken : List Message), r.1.connections[conn]? = some k ∧ queue = taken ++ k.pending ∧
    (Progress conn k.early (signsIn server client (seen ++ taken)) r.2 ∨
      Ended (signsIn server client (seen ++ taken)) r.2)

variable {w : Worker} {wait : Wait} {id conn : Nat} {data : Bytes} {c : Conversation} {k : Connection}
variable {server client : Address} {seen taken queue : List Message} {aside : List Bytes}

theorem signsIn_append (server client : Address) (ms ms' : List Message) :
    signsIn server client (ms ++ ms') = signsIn server client ms ++ signsIn server client ms' :=
  List.filterMap_append

theorem findSome?_answers (ds : List Bytes) : (ds.map Sign.answer).findSome? Sign.outcome? = none := by
  rw [List.findSome?_eq_none_iff]
  intro sign hmem
  obtain ⟨d, -, rfl⟩ := List.mem_map.1 hmem
  rfl

theorem findSome?_data (ds : List Bytes) : (ds.map Sign.answer).findSome? Sign.data? = ds.head? := by
  cases ds <;> rfl

theorem findSome?_acknowledgements {signs : List Sign}
    (h : ∀ sign ∈ signs, ∃ outcome, sign = .acknowledgement outcome) :
    signs.findSome? Sign.data? = none := by
  rw [List.findSome?_eq_none_iff]
  intro sign hmem
  obtain ⟨o, rfl⟩ := h sign hmem
  rfl

/-! Searches. -/

namespace Connection

theorem search_taken {α : Type} (select : Message → Stream.Selection α) (ms : List Message) :
    ∃ taken, ms = taken ++ (Stream.search select ms).2.2 :=
  (Stream.search_rest_suffix select ms).imp fun _ h => h.symm

theorem searched_pending {α : Type} (k : Connection) (s : Stream) (select : Message → Stream.Selection α) :
    (k.searched s select).pending = (Stream.search select s.queue).2.2 := rfl

theorem write?_eq_some {k' : Connection} {frame : Bytes} (h : k.write? frame = some k') :
    ∃ s, k.stream = some s ∧ k' = { k with stream := some (s.write frame) } := by
  unfold write? at h
  split at h
  · cases h
  · rename_i s hs
    split at h
    · cases h
    · exact ⟨s, hs, (Option.some.inj h).symm⟩

theorem resume_acknowledgement (k : Connection) (wait : Wait) (shutDown : Bool) (hearly : k.early = [])
    (hseen : signsIn k.server k.settings.client seen = aside.map .answer) :
    ∃ (k' : Connection) (taken : List Message) (more : List Bytes), k.pending = taken ++ k'.pending ∧
      ((k.resume "" wait shutDown (.acknowledgement aside) = (k', .inl (.acknowledgement (aside ++ more))) ∧
          k'.early = [] ∧ signsIn k.server k.settings.client (seen ++ taken) = (aside ++ more).map .answer) ∨
        (∃ outcome, k.resume "" wait shutDown (.acknowledgement aside) =
            (k', .inr (.acknowledgement (.ok outcome))) ∧ k'.early = aside ++ more ∧
          signsIn k.server k.settings.client (seen ++ taken) =
            (aside ++ more).map .answer ++ [.acknowledgement outcome]) ∨
        ∃ e, k.resume "" wait shutDown (.acknowledgement aside) = (k', .inr (.acknowledgement (.error e))) ∧
          (e = .timeout → signsIn k.server k.settings.client (seen ++ taken) = (aside ++ more).map .answer)) := by
  cases hs : k.stream with
  | none =>
    refine ⟨{ k with early := k.early ++ aside ++ [], state := .faulted }, [], [], ?_,
      .inr (.inr ⟨.connectionLost, ?_, fun h => by cases h⟩)⟩
    · rfl
    · simp only [resume, poll_without_stream hs, faultOnLoss]
  | some s =>
    cases hstop : shutDown || wait.stopped with
    | true =>
      refine ⟨{ k with early := k.early ++ aside ++ [] }, [], [], rfl,
        .inr (.inr ⟨.cancelled, ?_, fun h => by cases h⟩)⟩
      simp only [resume, poll_cancelled hs hstop, faultOnLoss]
    | false =>
      obtain ⟨rfl, hst⟩ : shutDown = false ∧ wait.stopped = false := by simpa using hstop
      have hpoll := poll_eq hs hst k.selectAcknowledgement
      rcases k.search_acknowledgement s.queue with ⟨more, hsigns, hsearch⟩ | ⟨more, o, rest, hsigns, hsearch⟩
      · have hall : signsIn k.server k.settings.client (seen ++ s.queue) = (aside ++ more).map .answer := by
          rw [signsIn_append, hseen, hsigns, List.map_append]
        rw [hsearch] at hpoll
        have hrest : k.pending = s.queue ++ (k.searched s k.selectAcknowledgement).pending := by
          rw [searched_pending, hsearch, pending_eq hs, List.append_nil]
        cases hrec : s.receiving with
        | false =>
          refine ⟨{ k.searched s k.selectAcknowledgement with
            early := k.early ++ aside ++ more, state := .faulted }, s.queue, more, hrest,
            .inr (.inr ⟨.connectionLost, ?_, fun h => by cases h⟩)⟩
          simp only [resume, hpoll, hrec, if_true, faultOnLoss]
          rfl
        | true =>
          cases hexp : wait.expired with
          | true =>
            refine ⟨{ k.searched s k.selectAcknowledgement with early := k.early ++ aside ++ more }, s.queue, more,
              hrest, .inr (.inr ⟨.timeout, ?_, fun _ => hall⟩)⟩
            simp only [resume, hpoll, hrec, hexp, if_true, Bool.true_eq_false, if_false, faultOnLoss]
            rfl
          | false =>
            refine ⟨k.searched s k.selectAcknowledgement, s.queue, more, hrest, .inl ⟨?_, hearly, hall⟩⟩
            simp only [resume, hpoll, hrec, hexp, Bool.true_eq_false, Bool.false_eq_true, if_false]
      · obtain ⟨taken, htaken⟩ := search_taken k.selectAcknowledgement s.queue
        rw [hsearch] at htaken hpoll
        have hfound : signsIn k.server k.settings.client taken = more.map .answer ++ [.acknowledgement o] := by
          rw [htaken, signsIn_append, List.append_cons] at hsigns
          exact List.append_cancel_right hsigns
        refine ⟨{ k.searched s k.selectAcknowledgement with early := k.early ++ aside ++ more }, taken, more, ?_,
          .inr (.inl ⟨o, ?_, ?_, ?_⟩)⟩
        · rw [pending_eq hs, htaken]
          show taken ++ rest = taken ++ (k.searched s k.selectAcknowledgement).pending
          rw [searched_pending, hsearch]
        · simp only [resume, hpoll, faultOnLoss]
          rfl
        · simp only [hearly, List.nil_append]
        · rw [signsIn_append, hseen, hfound, List.map_append, List.append_assoc]

theorem resume_response (k : Connection) (wait : Wait) (shutDown : Bool)
    (hack : (signsIn k.server k.settings.client seen).findSome? Sign.outcome? = some .positive)
    (hnone : (signsIn k.server k.settings.client seen).findSome? Sign.data? = none) :
    ∃ (k' : Connection) (taken : List Message), k.pending = taken ++ k'.pending ∧
      (signsIn k.server k.settings.client (seen ++ taken)).findSome? Sign.outcome? = some .positive ∧
      ((k.resume "" wait shutDown .response = (k', .inl .response) ∧
          (signsIn k.server k.settings.client (seen ++ taken)).findSome? Sign.data? = none) ∨
        (∃ bs, k.resume "" wait shutDown .response = (k', .inr (.response (.ok bs))) ∧
          (signsIn k.server k.settings.client (seen ++ taken)).findSome? Sign.data? = some bs) ∨
        ∃ e, k.resume "" wait shutDown .response = (k', .inr (.response (.error e))) ∧
          (e = .timeout → (signsIn k.server k.settings.client (seen ++ taken)).findSome? Sign.data? = none)) := by
  have hacked : ∀ taken : List Message,
      (signsIn k.server k.settings.client (seen ++ taken)).findSome? Sign.outcome? = some .positive := by
    intro taken
    rw [signsIn_append, List.findSome?_append, hack, Option.some_or]
  cases hs : k.stream with
  | none =>
    refine ⟨{ k with state := .faulted }, [], rfl, hacked [], .inr (.inr ⟨.connectionLost, ?_, fun h => by cases h⟩)⟩
    simp only [resume, poll_without_stream hs, faultOnLoss]
  | some s =>
    cases hstop : shutDown || wait.stopped with
    | true =>
      refine ⟨k, [], rfl, hacked [], .inr (.inr ⟨.cancelled, ?_, fun h => by cases h⟩)⟩
      simp only [resume, poll_cancelled hs hstop, faultOnLoss]
    | false =>
      obtain ⟨rfl, hst⟩ : shutDown = false ∧ wait.stopped = false := by simpa using hstop
      have hpoll := poll_eq hs hst k.selectResponse
      rcases k.search_response s.queue with ⟨hall, hsearch⟩ | ⟨acks, bs, rest, hsigns, hacks, hsearch⟩
      · have hstill : (signsIn k.server k.settings.client (seen ++ s.queue)).findSome? Sign.data? = none := by
          rw [signsIn_append, List.findSome?_append, hnone, findSome?_acknowledgements hall, Option.or_none]
        rw [hsearch] at hpoll
        have hrest : k.pending = s.queue ++ (k.searched s k.selectResponse).pending := by
          rw [searched_pending, hsearch, pending_eq hs, List.append_nil]
        cases hrec : s.receiving with
        | false =>
          refine ⟨{ k.searched s k.selectResponse with state := .faulted }, s.queue, hrest, hacked _,
            .inr (.inr ⟨.connectionLost, ?_, fun h => by cases h⟩)⟩
          simp only [resume, hpoll, hrec, if_true, faultOnLoss]
        | true =>
          cases hexp : wait.expired with
          | true =>
            refine ⟨k.searched s k.selectResponse, s.queue, hrest, hacked _,
              .inr (.inr ⟨.timeout, ?_, fun _ => hstill⟩)⟩
            simp only [resume, hpoll, hrec, hexp, if_true, Bool.true_eq_false, if_false, faultOnLoss]
          | false =>
            refine ⟨k.searched s k.selectResponse, s.queue, hrest, hacked _, .inl ⟨?_, hstill⟩⟩
            simp only [resume, hpoll, hrec, hexp, Bool.true_eq_false, Bool.false_eq_true, if_false]
      · obtain ⟨taken, htaken⟩ := search_taken k.selectResponse s.queue
        rw [hsearch] at htaken hpoll
        have hfound : signsIn k.server k.settings.client taken = acks ++ [.answer bs] := by
          rw [htaken, signsIn_append, List.append_cons] at hsigns
          exact List.append_cancel_right hsigns
        refine ⟨k.searched s k.selectResponse, taken, ?_, hacked _, .inr (.inl ⟨bs, ?_, ?_⟩)⟩
        · rw [searched_pending, hsearch, pending_eq hs, htaken]
        · simp only [resume, hpoll, faultOnLoss]
        · rw [signsIn_append, hfound, List.findSome?_append, hnone, List.findSome?_append,
            findSome?_acknowledgements hacks]
          rfl

end Connection

/-! Steps of a request. -/

namespace Conversation

theorem settleRequest_serves (hk : c.connections[conn]? = some k) (hqueue : queue = taken ++ k.pending)
    (result : Except RequestError Response) (h : Explains (signsIn server client (seen ++ taken)) result) :
    Serves conn server client seen queue (settleRequest data c result) := by
  unfold settleRequest
  split
  · exact ⟨k, taken, hk, hqueue, .inr (.returned h)⟩
  · split
    · exact ⟨k, taken, hk, hqueue, .inr (.returned h)⟩
    · rename_i conn' _
      by_cases hconn : conn' = conn
      · subst hconn
        exact ⟨k.close, taken, getElem?_modifyConnection (by exact hk) _, hqueue, .inr (.closing h)⟩
      · exact ⟨k, taken, (getElem?_modifyConnection_of_ne hconn _).trans hk, hqueue, .inr (.closing h)⟩

theorem responseOf_data (c : Conversation) (conn : Nat) (bs : Bytes) : (c.responseOf conn bs).data = bs := by
  unfold responseOf
  split <;> rfl

theorem resumeWait_response_serves (hk : c.connections[conn]? = some k) (hqueue : queue = taken ++ k.pending)
    (hack : (signsIn k.server k.settings.client (seen ++ taken)).findSome? Sign.outcome? = some .positive)
    (hnone : (signsIn k.server k.settings.client (seen ++ taken)).findSome? Sign.data? = none) :
    Serves conn k.server k.settings.client seen queue
      (afterResponseWait data conn (c.resumeWait w id "" conn .response)) := by
  cases hw : c.timer.wait? id with
  | none =>
    have hstay : c.resumeWait w id "" conn .response = (c, .inl .response) := by simp only [resumeWait, hw]
    rw [hstay]
    exact ⟨k, taken, hk, hqueue, .inl (.responding hack hnone)⟩
  | some wait =>
    obtain ⟨k', more, hpending, hacked, hres⟩ := k.resume_response wait w.cancelled hack hnone
    have hqueue' : queue = (taken ++ more) ++ k'.pending := by rw [hqueue, hpending, List.append_assoc]
    rw [List.append_assoc] at hacked hres
    let c' : Conversation := { c.modifyConnection conn fun _ => k' with timer := c.timer.finish id }
    have hk' : c'.connections[conn]? = some k' := getElem?_modifyConnection hk fun _ => k'
    rcases hres with ⟨hres, hnone'⟩ | ⟨bs, hres, hbs⟩ | ⟨e, hres, hover⟩
    · rw [resumeWait_inl hw hk hres]
      exact ⟨k', taken ++ more, hk', hqueue', .inl (.responding hacked hnone')⟩
    · rw [resumeWait_inr hw hk hres]
      have hdata : (c'.responseOf conn bs).data = bs := responseOf_data c' conn bs
      exact settleRequest_serves hk' hqueue' (.ok (c'.responseOf conn bs)) ⟨hacked, by rw [hbs, hdata]⟩
    · rw [resumeWait_inr hw hk hres]
      refine settleRequest_serves hk' hqueue' (.error (.ofReceive e)) ?_
      cases e with
      | timeout => exact ⟨hacked, hover rfl⟩
      | connectionLost => trivial
      | cancelled => trivial

/-- Behind a positive acknowledgement the first answer set aside is taken, or the wait for one begins. -/
theorem startResponse_serves (hk : c.connections[conn]? = some k) (hqueue : queue = taken ++ k.pending)
    (hsigns : signsIn k.server k.settings.client (seen ++ taken) =
      k.early.map .answer ++ [.acknowledgement .positive]) :
    Serves conn k.server k.settings.client seen queue (startResponse w id data c conn) := by
  have hack : (signsIn k.server k.settings.client (seen ++ taken)).findSome? Sign.outcome? = some .positive := by
    rw [hsigns, List.findSome?_append, findSome?_answers]
    rfl
  have hdata : (signsIn k.server k.settings.client (seen ++ taken)).findSome? Sign.data? = k.early.head? := by
    rw [hsigns, List.findSome?_append, findSome?_data]
    exact Option.or_none
  unfold startResponse
  rw [hk]
  cases hearly : k.early with
  | cons bs rest =>
    simp only [Connection.beginResponse, hearly]
    refine settleRequest_serves (getElem?_modifyConnection hk fun _ => { k with early := rest }) hqueue _ ⟨hack, ?_⟩
    rw [hdata, hearly, responseOf_data]
    rfl
  | nil =>
    rw [hearly] at hdata
    by_cases hst : k.state = .activated
    · simp only [Connection.beginResponse, hearly, hst, ne_eq, not_true_eq_false, if_false]
      let c' : Conversation :=
        { c.modifyConnection conn fun _ => k with timer := c.timer.arm id c.settings.responseTimeout.toNat }
      have hk' : c'.connections[conn]? = some k := getElem?_modifyConnection hk fun _ => k
      exact resumeWait_response_serves hk' hqueue hack hdata
    · simp only [Connection.beginResponse, hearly, hst, ne_eq, not_false_eq_true, if_true]
      exact settleRequest_serves (getElem?_modifyConnection hk fun _ => k) hqueue _ trivial

theorem resumeWait_acknowledgement_serves (hk : c.connections[conn]? = some k)
    (hqueue : queue = taken ++ k.pending) (hearly : k.early = [])
    (hsigns : signsIn k.server k.settings.client (seen ++ taken) = aside.map .answer) :
    Serves conn k.server k.settings.client seen queue
      (afterRequestWait w id data conn (c.resumeWait w id "" conn (.acknowledgement aside))) := by
  cases hw : c.timer.wait? id with
  | none =>
    have hstay : c.resumeWait w id "" conn (.acknowledgement aside) = (c, .inl (.acknowledgement aside)) := by
      simp only [resumeWait, hw]
    rw [hstay]
    exact ⟨k, taken, hk, hqueue, .inl (.acknowledging hearly hsigns)⟩
  | some wait =>
    obtain ⟨k', got, more, hpending, hres⟩ := k.resume_acknowledgement wait w.cancelled hearly hsigns
    have hqueue' : queue = (taken ++ got) ++ k'.pending := by rw [hqueue, hpending, List.append_assoc]
    rw [List.append_assoc] at hres
    have hcont := Connection.Continues.resume k "" wait w.cancelled (.acknowledgement aside)
    let c' : Conversation := { c.modifyConnection conn fun _ => k' with timer := c.timer.finish id }
    have hk' : c'.connections[conn]? = some k' := getElem?_modifyConnection hk fun _ => k'
    rcases hres with ⟨hres, hearly', hsigns'⟩ | ⟨outcome, hres, hearly', hsigns'⟩ | ⟨e, hres, hnone⟩
    · rw [resumeWait_inl hw hk hres]
      exact ⟨k', taken ++ got, hk', hqueue', .inl (.acknowledging hearly' hsigns')⟩
    · rw [resumeWait_inr hw hk hres]
      cases outcome with
      | positive =>
        rw [hres] at hcont
        rw [← hcont.server, ← hcont.settings] at hsigns' ⊢
        rw [← hearly'] at hsigns'
        exact startResponse_serves hk' hqueue' hsigns'
      | negative code =>
        refine settleRequest_serves hk' hqueue' (.error (.negativeAck code)) ?_
        show (signsIn k.server k.settings.client (seen ++ (taken ++ got))).findSome? Sign.outcome? =
          some (.negative code)
        rw [hsigns', List.findSome?_append, findSome?_answers]
        rfl
    · rw [resumeWait_inr hw hk hres]
      cases e with
      | timeout =>
        refine settleRequest_serves hk' hqueue' (.error .ackTimeout) ?_
        show (signsIn k.server k.settings.client (seen ++ (taken ++ got))).findSome? Sign.outcome? = none
        rw [hnone rfl, findSome?_answers]
      | connectionLost => exact settleRequest_serves hk' hqueue' (.error .connectionLost) trivial
      | cancelled => exact settleRequest_serves hk' hqueue' (.error .cancelled) trivial

theorem progress_step (hk : c.connections[conn]? = some k) {call : Call}
    (h : Progress conn k.early (signsIn k.server k.settings.client seen) call) (inside : Bool) :
    Serves conn k.server k.settings.client seen k.pending (stepCall w id inside c call) := by
  rw [← List.append_nil seen] at h
  cases h with
  | @writing data frame hearly hsigns =>
    simp only [stepCall, stepRequest, hk]
    cases hwrite : k.write? frame with
    | none =>
      simp only [Connection.writeRequest, hwrite]
      exact settleRequest_serves (getElem?_modifyConnection hk fun _ => { k with state := .faulted })
        (List.nil_append _).symm _ trivial
    | some k' =>
      obtain ⟨s, hs, rfl⟩ := Connection.write?_eq_some hwrite
      let k' : Connection := { k with stream := some (s.write frame) }
      let c' : Conversation :=
        { c.modifyConnection conn fun _ => k' with timer := c.timer.arm id c.settings.ackTimeout.toNat }
      have hk' : c'.connections[conn]? = some k' := getElem?_modifyConnection hk fun _ => k'
      have hqueue : k.pending = [] ++ k'.pending := by
        rw [Connection.pending_eq hs]
        exact (Stream.write_queue s frame).symm
      have hserves : Serves conn k'.server k'.settings.client seen k.pending
          (afterRequestWait w id data conn (c'.resumeWait w id "" conn (.acknowledgement []))) :=
        resumeWait_acknowledgement_serves hk' hqueue hearly hsigns
      simp only [Connection.writeRequest, hwrite]
      exact hserves
  | acknowledging hearly hsigns =>
    exact resumeWait_acknowledgement_serves hk (List.nil_append _).symm hearly hsigns
  | responding hack hnone =>
    simp only [stepCall, stepRequest, Exchange.afterRequestWait_response]
    exact resumeWait_response_serves hk (List.nil_append _).symm hack hnone

theorem ended_step {signs : List Sign} {call : Call} (h : Ended signs call) (w : Worker) (id : Nat)
    (inside : Bool) (c : Conversation) : Ended signs (stepCall w id inside c call).2 := by
  cases h with
  | closing h => exact .returned h
  | returned h => exact .returned h

end Conversation
end Doip
