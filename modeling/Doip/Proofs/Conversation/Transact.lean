import Doip.Proofs.Conversation.Verdict
import Doip.Proofs.Conversation.Request
import Doip.Proofs.Payload.Diagnostic

/-! The steps of one request that nothing delays, from its call to its return, and what each leaves alone
(`Engaged`). -/

namespace Doip

namespace Conversation

variable {w : Worker} {conn : Nat} {c₀ c : Conversation} {k k' : Connection} {s : Stream}
variable {holder : Option Nat} {waits : List Wait} {wait : Wait} {p : Bytes} {call : Call}

theorem modifyConnection_self (hk : c.connections[conn]? = some k) : c.modifyConnection conn (fun _ => k) = c := by
  have hid : c.connections.modify conn (fun k => k) = c.connections := List.modify_id _ _
  rw [← modifyConnection_eq hk fun k => k, modifyConnection, hid]

/-- A conversation on which only one connection and the last call differ from an earlier one, whatever else has
changed. -/
structure Beside (c₀ c : Conversation) (conn : Nat) (k : Connection) (call : Call) : Prop where
  threads : c.threads = c₀.threads ++ [{ call := call }]
  connection : c.connections[conn]? = some k
  others : ∀ j, j ≠ conn → c.connections[j]? = c₀.connections[j]?

namespace Beside

theorem put (h : Beside c₀ c conn k call) {f : Connection → Connection} (hf : f k = k') :
    Beside c₀ (c.modifyConnection conn f) conn k' call where
  threads := h.threads
  connection := hf ▸ getElem?_modifyConnection h.connection f
  others := fun j hj => (getElem?_modifyConnection_of_ne (Ne.symm hj) f).trans (h.others j hj)

theorem returned {outcome : Outcome} (h : Beside c₀ c conn k (.returned outcome)) (w : Worker) :
    c.advance w c₀.threads.length = c := by
  refine advance_ended (fun t ht => ?_) w
  rw [h.threads, List.getElem?_concat_length, Option.some.injEq] at ht
  subst ht
  exact ⟨outcome, rfl⟩

end Beside

/-- A conversation on which only one connection, the waits and who has the slot differ from an earlier one. -/
structure Works (c₀ c : Conversation) (conn : Nat) (k : Connection) (waits : List Wait) : Prop where
  settings : c.settings = c₀.settings
  version : c.version = c₀.version
  running : c.running = true
  link : c.link = c₀.link
  line : c.line = []
  waits : c.timer.waits = waits
  connection : c.connections[conn]? = some k
  others : ∀ j, j ≠ conn → c.connections[j]? = c₀.connections[j]?

namespace Works

theorem put (h : Works c₀ c conn k waits) {f : Connection → Connection} (hf : f k = k') :
    Works c₀ (c.modifyConnection conn f) conn k' waits :=
  { h with
    connection := hf ▸ getElem?_modifyConnection h.connection f
    others := fun j hj => (getElem?_modifyConnection_of_ne (Ne.symm hj) f).trans (h.others j hj) }

theorem arm (h : Works c₀ c conn k []) (id timeout : Nat) :
    Works c₀ { c with timer := c.timer.arm id timeout } conn k [{ key := id, remaining := timeout }] :=
  { h with waits := by simp only [Timer.arm, h.waits, List.nil_append] }

theorem finish {id : Nat} (h : Works c₀ c conn k [wait]) (hkey : wait.key = id) :
    Works c₀ { c with timer := c.timer.finish id } conn k [] :=
  { h with waits := by simp [Timer.finish, h.waits, hkey] }

theorem wait? {id : Nat} (h : Works c₀ c conn k [wait]) (hkey : wait.key = id) : c.timer.wait? id = some wait := by
  simp [Timer.wait?, h.waits, hkey]

end Works

/-- A conversation on which only one connection, the lock and the waits differ from an earlier one. -/
structure Holds (c₀ c : Conversation) (conn : Nat) (k : Connection) (holder : Option Nat) (waits : List Wait) :
    Prop extends Works c₀ c conn k waits where
  slot : c.slot = some conn
  holder : c.holder = holder

namespace Holds

theorem put (h : Holds c₀ c conn k holder waits) {f : Connection → Connection} (hf : f k = k') :
    Holds c₀ (c.modifyConnection conn f) conn k' holder waits := ⟨h.toWorks.put hf, h.slot, h.holder⟩

theorem lock (h : Holds c₀ c conn k none waits) (id : Nat) :
    c.tryLock id = some { c with holder := some id } ∧
      Holds c₀ { c with holder := some id } conn k (some id) waits :=
  ⟨if_pos (by rw [h.holder]; rfl), { h with holder := rfl }⟩

theorem unlock (h : Holds c₀ c conn k holder waits) : Holds c₀ c.unlock conn k none waits :=
  { h with
    holder := by simp only [Conversation.unlock, h.line, List.head?_nil]
    line := by simp only [Conversation.unlock, h.line, List.tail_nil] }

theorem arm (h : Holds c₀ c conn k holder []) (id timeout : Nat) :
    Holds c₀ { c with timer := c.timer.arm id timeout } conn k holder [{ key := id, remaining := timeout }] :=
  ⟨h.toWorks.arm id timeout, h.slot, h.holder⟩

theorem finish {id : Nat} (h : Holds c₀ c conn k holder [wait]) (hkey : wait.key = id) :
    Holds c₀ { c with timer := c.timer.finish id } conn k holder [] := ⟨h.toWorks.finish hkey, h.slot, h.holder⟩

theorem wait? {id : Nat} (h : Holds c₀ c conn k holder [wait]) (hkey : wait.key = id) :
    c.timer.wait? id = some wait := h.toWorks.wait? hkey

theorem resumes {id : Nat} {waiting : Waiting} {settled : Settled} (h : Holds c₀ c conn k holder [wait])
    (hkey : wait.key = id) (hlook : k.resume "" wait w.cancelled waiting = (k', .inr settled)) :
    ∃ c', c.resumeWait w id "" conn waiting = (c', .inr settled) ∧ Holds c₀ c' conn k' holder [] :=
  ⟨_, resumeWait_inr (h.wait? hkey) h.connection hlook, (h.put (f := fun _ => k') rfl).finish hkey⟩

theorem waitsOn {id : Nat} {waiting waiting' : Waiting} (h : Holds c₀ c conn k holder [wait]) (hkey : wait.key = id)
    (hlook : k.resume "" wait w.cancelled waiting = (k', .inl waiting')) :
    ∃ c', c.resumeWait w id "" conn waiting = (c', .inl waiting') ∧ Holds c₀ c' conn k' holder [wait] :=
  ⟨_, resumeWait_inl (h.wait? hkey) h.connection hlook, h.put (f := fun _ => k') rfl⟩

end Holds

/-- The last call stands at a point; all others are those of the earlier conversation. -/
structure Engaged (c₀ c : Conversation) (conn : Nat) (k : Connection) (holder : Option Nat) (waits : List Wait)
    (call : Call) : Prop where
  holds : Holds c₀ c conn k holder waits
  threads : c.threads = c₀.threads ++ [{ call := call }]

theorem Engaged.beside (h : Engaged c₀ c conn k holder waits call) : Beside c₀ c conn k call :=
  ⟨h.threads, h.holds.connection, h.holds.others⟩

theorem Engaged.put (h : Engaged c₀ c conn k holder waits call) {f : Connection → Connection} (hf : f k = k') :
    Engaged c₀ (c.modifyConnection conn f) conn k' holder waits call := ⟨h.holds.put hf, h.threads⟩

theorem Engaged.step (h : Engaged c₀ c conn k holder waits call) {c' : Conversation} {call' : Call}
    {holder' : Option Nat} {waits' : List Wait} (hstep : stepCall w c₀.threads.length false c call = (c', call'))
    (h' : Holds c₀ c' conn k' holder' waits') :
    Engaged c₀ (c.advance w c₀.threads.length) conn k' holder' waits' call' := by
  rw [advance_last h.threads, hstep]
  exact ⟨{ h' with }, rfl⟩

namespace Engaged

theorem elapse (h : Engaged c₀ c conn k holder waits call) (w : Worker) (ms : Nat) :
    Engaged c₀ (c.apply w (.elapse ms)) conn k holder (waits.map (Wait.elapse ms)) call :=
  ⟨{ h.holds with waits := congrArg (List.map (Wait.elapse ms)) h.holds.waits }, h.threads⟩

theorem returned {outcome : Outcome} (h : Engaged c₀ c conn k holder waits (.returned outcome)) (w : Worker) :
    c.advance w c₀.threads.length = c := h.beside.returned w

theorem enter (h : Engaged c₀ c conn k none [] (.request p .entered)) (hp : p ≠ []) (w : Worker) :
    Engaged c₀ (c.advance w c₀.threads.length) conn k none [] (.request p .submitting) := by
  have hne : p.isEmpty = false := List.isEmpty_eq_false_iff.2 hp
  have hstep : stepCall w c₀.threads.length false c (.request p .entered) = (c, .request p .submitting) := by
    simp only [stepCall, stepRequest, hne, h.holds.running, Bool.false_eq_true, if_false, if_true]
  exact h.step hstep h.holds

theorem submit (h : Engaged c₀ c conn k none [] (.request p .submitting)) (hw : w.cancelled = false) :
    Engaged c₀ (c.advance w c₀.threads.length) conn k none [] (.request p .queued) := by
  have htaken : w.submit false = .ok () := by simp [Worker.submit, hw]
  have hstep : stepCall w c₀.threads.length false c (.request p .submitting) = (c, .request p .queued) := by
    simp only [stepCall, stepRequest, htaken]
  exact h.step hstep h.holds

theorem frame (h : Engaged c₀ c conn k none [] (.request p .queued)) (hst : k.state = .activated)
    (hfits : 4 + p.length ≤ k.settings.codec.limit.toNat) (w : Worker) :
    Engaged c₀ (c.advance w c₀.threads.length) conn k.discardPending.1 (some c₀.threads.length) []
      (.request p (.writing conn (requestOn k p))) := by
  obtain ⟨hlock, hheld⟩ := h.holds.lock c₀.threads.length
  have hframe : k.discardPending.1.requestFrame p = .ok (requestOn k p) := requestFrame_of_fits hst hfits
  refine h.step ?_ (hheld.put (f := fun _ => k.discardPending.1) rfl)
  simp only [stepCall, stepRequest, hlock, startExchange_eq hheld.slot hheld.connection hst, hframe]

theorem resume_empty (hs : k.stream = some s) (hq : s.queue = []) (hr : s.receiving = true)
    (hstop : wait.stopped = false) (hexp : wait.expired = false) (aside : List Bytes) :
    k.resume "" wait false (.acknowledgement aside) = (k, .inl (.acknowledgement aside)) := by
  have hsame : k.searched s k.selectAcknowledgement = k := by
    obtain ⟨settings, server, state, closed, dial, stream, former, early⟩ := k
    obtain ⟨buffer, queue, receiving, attended, written, broken, shut⟩ := s
    simp only at hs hq
    subst hs hq
    rfl
  have hpoll := Connection.poll_eq hs hstop k.selectAcknowledgement
  simp only [hq, Stream.search, hr, hexp, hsame, Bool.true_eq_false, Bool.false_eq_true, if_false] at hpoll
  simp only [Connection.resume, hpoll, List.append_nil]

theorem write {id : Nat} {frame : Bytes} (hid : id = c₀.threads.length)
    (h : Engaged c₀ c conn k (some id) [] (.request p (.writing conn frame))) (hs : k.stream = some s)
    (hb : s.broken = false) (hq : s.queue = []) (hr : s.receiving = true) (hw : w.cancelled = false) :
    Engaged c₀ (c.advance w id) conn { k with stream := some { s with written := s.written ++ frame } } (some id)
      [{ key := id, remaining := c.settings.ackTimeout.toNat }]
      (.request p (.waiting conn (.acknowledgement []))) := by
  subst hid
  let k' : Connection := { k with stream := some { s with written := s.written ++ frame } }
  let wait : Wait := { key := c₀.threads.length, remaining := c.settings.ackTimeout.toNat }
  have hwhole : ¬ s.broken = true := by simp [hb]
  have hwritten : k.writeRequest frame = (k', .ok ()) := by
    unfold Connection.writeRequest Connection.write? Stream.write
    simp only [hs, if_neg hwhole]
    rfl
  have harmed := (h.holds.put (f := fun _ => k') rfl).arm c₀.threads.length c.settings.ackTimeout.toNat
  have hwait := harmed.wait? rfl
  have hlook : k'.resume "" wait w.cancelled (.acknowledgement []) = (k', .inl (.acknowledgement [])) := by
    rw [hw]
    exact resume_empty (s := { s with written := s.written ++ frame }) rfl hq hr rfl rfl []
  refine h.step ?_ (harmed.put (f := fun _ => k') rfl)
  simp only [stepCall, stepRequest, h.holds.connection, hwritten, beginWait]
  rw [resumeWait_inl hwait harmed.connection hlook]
  rfl

/-! Looks at a queue with frames that mean nothing between those that do. -/

variable {id : Nat} {acknowledgement response : Message} {d : Bytes} {noise rest : List Message}

/-- Frames that mean nothing to a request on a connection. -/
def Noise (k : Connection) (ms : List Message) : Prop := ∀ m ∈ ms, m.sign? k.server k.settings.client = none

theorem Noise.search (h : Noise k noise) (rest : List Message) :
    Stream.search k.selectResponse (noise ++ rest) = Stream.search k.selectResponse rest := by
  induction noise with
  | nil => rfl
  | cons m ms ih =>
    obtain ⟨hm, hms⟩ := List.forall_mem_cons.1 h
    simp only [List.cons_append, Stream.search, Connection.selectResponse_eq, hm]
    exact ih hms

theorem Noise.search_none (h : Noise k noise) : Stream.search k.selectResponse noise = (none, [], []) := by
  have hall := h.search []
  rwa [List.append_nil] at hall

theorem resume_acknowledged {outcome : AckOutcome} (hs : k.stream = some s) (hstop : wait.stopped = false)
    (hq : s.queue = acknowledgement :: rest) (hearly : k.early = [])
    (hack : acknowledgement.sign? k.server k.settings.client = some (.acknowledgement outcome)) :
    k.resume "" wait false (.acknowledgement []) =
      ({ k with stream := some { s with queue := rest } }, .inr (.acknowledgement (.ok outcome))) := by
  have hpoll := Connection.poll_eq hs hstop k.selectAcknowledgement
  simp only [hq, Stream.search, Connection.selectAcknowledgement_eq, hack, Connection.searched] at hpoll
  simp only [Connection.resume, hpoll, Connection.faultOnLoss, hearly, List.append_nil]

theorem resume_responded (hs : k.stream = some s) (hstop : wait.stopped = false) (hnoise : Noise k noise)
    (hq : s.queue = noise ++ [response])
    (hresponse : response.sign? k.server k.settings.client = some (.answer d)) :
    k.resume "" wait false .response =
      ({ k with stream := some { s with queue := [] } }, .inr (.response (.ok d))) := by
  have hpoll := Connection.poll_eq hs hstop k.selectResponse
  simp only [hq, hnoise.search, Stream.search, Connection.selectResponse_eq, hresponse, Connection.searched] at hpoll
  simp only [Connection.resume, hpoll, Connection.faultOnLoss]

/-- Without a response the wait goes on as long as it has time. -/
theorem resume_unanswered (hs : k.stream = some s) (hstop : wait.stopped = false) (hnoise : Noise k noise)
    (hq : s.queue = noise) (hr : s.receiving = true) :
    k.resume "" wait false .response =
      ({ k with stream := some { s with queue := [] } },
        if wait.expired then .inr (.response (.error .timeout)) else .inl .response) := by
  have hpoll := Connection.poll_eq hs hstop k.selectResponse
  obtain ⟨buffer, queue, receiving, attended, written, broken, shut⟩ := s
  simp only at hq hr
  subst hq hr
  simp only [hnoise.search_none, Connection.searched, Bool.true_eq_false, if_false] at hpoll
  cases hexp : wait.expired with
  | true => simp only [Connection.resume, hpoll, hexp, if_true, Connection.faultOnLoss]
  | false => simp only [Connection.resume, hpoll, hexp, Bool.false_eq_true, if_false]

theorem resume_still (hs : k.stream = some s) (hq : s.queue = []) :
    { k with stream := some { s with queue := [] } } = k := by
  rw [← hq, ← hs]

/-- Behind a positive acknowledgement the wait for the response begins with a look. -/
theorem startResponse_eq (h : Holds c₀ c conn k holder []) (hearly : k.early = []) (hst : k.state = .activated)
    (id : Nat) (p : Bytes) :
    ∃ c', startResponse w id p c conn = afterResponseWait p conn (c'.resumeWait w id "" conn .response) ∧
      Holds c₀ c' conn k holder [{ key := id, remaining := c₀.settings.responseTimeout.toNat }] := by
  have hbegin : k.beginResponse = (k, none) := by
    simp only [Connection.beginResponse, hearly, hst, ne_eq, not_true_eq_false, if_false]
  have hheld := (h.put (f := fun _ => k) rfl).arm id c.settings.responseTimeout.toNat
  refine ⟨{ c.modifyConnection conn fun _ => k with timer := c.timer.arm id c.settings.responseTimeout.toNat }, ?_, ?_⟩
  · unfold startResponse
    rw [h.connection]
    simp only [hbegin]
    rfl
  · rw [← h.settings]
    exact hheld

/-- The result of a request is returned with the lock given back. -/
theorem settleRequest_eq (h : Holds c₀ c conn k holder waits) (p : Bytes) (result : Except RequestError Response) :
    settleRequest p c result = (c.unlock, .returned (.request result)) := if_pos h.running

theorem responseOf_eq (h : Holds c₀ c conn k holder waits) (d : Bytes) :
    c.responseOf conn d = ⟨k.server, k.settings.client, d⟩ := by
  simp only [responseOf, h.connection]

/-- Behind a positive acknowledgement the response in the queue is returned. -/
theorem startResponse_found (h : Holds c₀ c conn k holder []) (hs : k.stream = some s) (hnoise : Noise k noise)
    (hq : s.queue = noise ++ [response]) (hearly : k.early = []) (hst : k.state = .activated)
    (hresponse : response.sign? k.server k.settings.client = some (.answer d)) (hw : w.cancelled = false) (id : Nat)
    (p : Bytes) :
    ∃ c', startResponse w id p c conn =
        (c', .returned (.request (.ok ⟨k.server, k.settings.client, d⟩))) ∧
      Holds c₀ c' conn { k with stream := some { s with queue := [] } } none [] := by
  obtain ⟨c₁, hbegun, h₁⟩ := startResponse_eq h hearly hst id p
  let wait : Wait := { key := id, remaining := c₀.settings.responseTimeout.toNat }
  have hlook := resume_responded hs (rfl : wait.stopped = false) hnoise hq hresponse
  rw [← hw] at hlook
  obtain ⟨c₂, hlooked, h₂⟩ := h₁.resumes rfl hlook
  refine ⟨c₂.unlock, ?_, h₂.unlock⟩
  rw [hbegun, hlooked]
  show settleRequest p c₂ (.ok (c₂.responseOf conn d)) = _
  rw [settleRequest_eq h₂, responseOf_eq h₂]

theorem startResponse_waits (h : Holds c₀ c conn k holder []) (hs : k.stream = some s) (hnoise : Noise k noise)
    (hq : s.queue = noise) (hr : s.receiving = true) (hearly : k.early = []) (hst : k.state = .activated)
    (hw : w.cancelled = false) (id : Nat) (p : Bytes) :
    ∃ c', startResponse w id p c conn = (c', .request p (.waiting conn .response)) ∧
      Holds c₀ c' conn { k with stream := some { s with queue := [] } } holder
        [{ key := id, remaining := c₀.settings.responseTimeout.toNat }] := by
  obtain ⟨c₁, hbegun, h₁⟩ := startResponse_eq h hearly hst id p
  let wait : Wait := { key := id, remaining := c₀.settings.responseTimeout.toNat }
  have hlook := resume_unanswered hs (rfl : wait.stopped = false) hnoise hq hr
  rw [← hw] at hlook
  obtain ⟨c₂, hlooked, h₂⟩ := h₁.waitsOn rfl hlook
  refine ⟨c₂, ?_, h₂⟩
  rw [hbegun, hlooked]
  rfl

theorem looks {waiting : Waiting} {settled : Settled}
    (h : Engaged c₀ c conn k (some id) [wait] (.request p (.waiting conn waiting))) (hkey : wait.key = id)
    (hlook : k.resume "" wait w.cancelled waiting = (k', .inr settled)) :
    ∃ c', stepCall w id false c (.request p (.waiting conn waiting)) = afterRequestWait w id p conn (c', .inr settled) ∧
      Holds c₀ c' conn k' (some id) [] := by
  obtain ⟨c', hlooked, h'⟩ := h.holds.resumes hkey hlook
  refine ⟨c', ?_, h'⟩
  simp only [stepCall, stepRequest, hlooked]

section Acknowledged

variable (hid : id = c₀.threads.length)
    (h : Engaged c₀ c conn k (some id) [wait] (.request p (.waiting conn (.acknowledgement []))))
    (hkey : wait.key = id) (hstop : wait.stopped = false) (hs : k.stream = some s) (hearly : k.early = [])
    (hw : w.cancelled = false)

include hid h hkey hstop hs hearly hw

/-- With a positive acknowledgement and a response behind it in the queue, the request returns the response. -/
theorem find (hnoise : Noise k noise) (hq : s.queue = acknowledgement :: (noise ++ [response]))
    (hst : k.state = .activated)
    (hack : acknowledgement.sign? k.server k.settings.client = some (.acknowledgement .positive))
    (hresponse : response.sign? k.server k.settings.client = some (.answer d)) :
    Engaged c₀ (c.advance w id) conn { k with stream := some { s with queue := [] } } none []
      (.returned (.request (.ok ⟨k.server, k.settings.client, d⟩))) := by
  have hlook := resume_acknowledged hs hstop hq hearly hack
  rw [← hw] at hlook
  obtain ⟨c', hstep, h'⟩ := looks h hkey hlook
  obtain ⟨c'', hresult, h''⟩ := startResponse_found (s := { s with queue := noise ++ [response] }) h' rfl hnoise rfl
    hearly hst hresponse hw id p
  subst hid
  exact h.step (hstep.trans hresult) h''

/-- With a positive acknowledgement in the queue and no response, the request waits for one. -/
theorem await (hnoise : Noise k noise) (hq : s.queue = acknowledgement :: noise) (hr : s.receiving = true)
    (hst : k.state = .activated)
    (hack : acknowledgement.sign? k.server k.settings.client = some (.acknowledgement .positive)) :
    Engaged c₀ (c.advance w id) conn { k with stream := some { s with queue := [] } } (some id)
      [{ key := id, remaining := c₀.settings.responseTimeout.toNat }] (.request p (.waiting conn .response)) := by
  have hlook := resume_acknowledged hs hstop hq hearly hack
  rw [← hw] at hlook
  obtain ⟨c', hstep, h'⟩ := looks h hkey hlook
  obtain ⟨c'', hresult, h''⟩ := startResponse_waits (s := { s with queue := noise }) h' rfl hnoise rfl hr hearly hst
    hw id p
  subst hid
  exact h.step (hstep.trans hresult) h''

/-- A negative acknowledgement ends the request; what is behind it stays in the queue. -/
theorem refuse {code : UInt8} (hq : s.queue = acknowledgement :: rest)
    (hack : acknowledgement.sign? k.server k.settings.client = some (.acknowledgement (.negative code))) :
    Engaged c₀ (c.advance w id) conn { k with stream := some { s with queue := rest } } none []
      (.returned (.request (.error (.negativeAck code)))) := by
  have hlook := resume_acknowledged hs hstop hq hearly hack
  rw [← hw] at hlook
  obtain ⟨c', hstep, h'⟩ := looks h hkey hlook
  subst hid
  exact h.step (hstep.trans (settleRequest_eq h' p _)) h'.unlock

end Acknowledged

section Responding

variable (hid : id = c₀.threads.length)
    (h : Engaged c₀ c conn k (some id) [wait] (.request p (.waiting conn .response)))
    (hkey : wait.key = id) (hstop : wait.stopped = false) (hs : k.stream = some s) (hw : w.cancelled = false)

include hid h hkey hstop hs hw

theorem respond (hq : s.queue = [response])
    (hresponse : response.sign? k.server k.settings.client = some (.answer d)) :
    Engaged c₀ (c.advance w id) conn { k with stream := some { s with queue := [] } } none []
      (.returned (.request (.ok ⟨k.server, k.settings.client, d⟩))) := by
  have hlook := resume_responded hs hstop (fun m hm => absurd hm List.not_mem_nil) hq hresponse
  rw [← hw] at hlook
  obtain ⟨c', hstep, h'⟩ := looks h hkey hlook
  subst hid
  refine h.step (hstep.trans ?_) h'.unlock
  show settleRequest p c' (.ok _) = _
  rw [settleRequest_eq h', responseOf_eq h']

theorem expire (hq : s.queue = []) (hr : s.receiving = true) (hexp : wait.expired = true) :
    Engaged c₀ (c.advance w id) conn k none [] (.returned (.request (.error .timeout))) := by
  have hlook := resume_unanswered hs hstop (fun m hm => absurd hm List.not_mem_nil) hq hr
  rw [resume_still hs hq, hexp, if_pos rfl, ← hw] at hlook
  obtain ⟨c', hstep, h'⟩ := looks h hkey hlook
  subst hid
  exact h.step (hstep.trans (settleRequest_eq h' p _)) h'.unlock

theorem idle (hq : s.queue = []) (hr : s.receiving = true) (hexp : wait.expired = false) : c.advance w id = c := by
  have hlook := resume_unanswered hs hstop (fun m hm => absurd hm List.not_mem_nil) hq hr
  rw [resume_still hs hq, hexp, if_neg Bool.false_ne_true, ← hw] at hlook
  have hsame : c.modifyConnection conn (fun _ => k) = c := modifyConnection_self h.holds.connection
  have hstep : stepCall w id false c (.request p (.waiting conn .response)) =
      (c, .request p (.waiting conn .response)) := by
    simp only [stepCall, stepRequest]
    rw [resumeWait_inl (h.holds.wait? hkey) h.holds.connection hlook, hsame]
    rfl
  subst hid
  rw [advance_last h.threads, hstep, ← h.threads]

end Responding

theorem lose (hid : id = c₀.threads.length)
    (h : Engaged c₀ c conn k (some id) [wait] (.request p (.waiting conn (.acknowledgement []))))
    (hkey : wait.key = id) (hstop : wait.stopped = false) (hs : k.stream = some s) (hq : s.queue = [])
    (hearly : k.early = []) (hr : s.receiving = false) (hw : w.cancelled = false) :
    Engaged c₀ (c.advance w id) conn { k with state := .faulted } none []
      (.returned (.request (.error .connectionLost))) := by
  have hlook : k.resume "" wait w.cancelled (.acknowledgement []) =
      ({ k with state := .faulted }, .inr (.acknowledgement (.error .connectionLost))) := by
    have hpoll := Connection.poll_eq hs hstop k.selectAcknowledgement
    obtain ⟨settings, server, state, closed, dial, stream, former, early⟩ := k
    obtain ⟨buffer, queue, receiving, attended, written, broken, shut⟩ := s
    simp only at hs hq hearly hr
    subst hs hq hearly hr
    simp only [Stream.search, Connection.searched, if_true] at hpoll
    simp only [hw, Connection.resume, hpoll, Connection.faultOnLoss, List.append_nil]
  obtain ⟨c', hstep, h'⟩ := looks h hkey hlook
  subst hid
  exact h.step (hstep.trans (settleRequest_eq h' p _)) h'.unlock

end Engaged
end Conversation
end Doip
