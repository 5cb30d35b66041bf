import Doip.Proofs.Connection.Usable
import Doip.Proofs.Conversation.Answers

/-! What one step of a request does to the connection that it uses (`Course`): it goes on there, or it has a result
(`Ends`). On a connection that is fit for use the result is a harmless one, and the connection stays usable; a result
that says that the connection was lost leaves it in another state than activated. -/

namespace Doip

/-- The results of a request that say nothing against its connection. -/
inductive Harmless : Except RequestError Response → Prop
  | ok (response : Response) : Harmless (.ok response)
  | payloadTooLarge (length limit : Nat) : Harmless (.error (.payloadTooLarge length limit))
  | negativeAck (code : UInt8) : Harmless (.error (.negativeAck code))
  | ackTimeout : Harmless (.error .ackTimeout)
  | timeout : Harmless (.error .timeout)
  | cancelled : Harmless (.error .cancelled)

inductive Under (conn : Nat) : RequestPoint → Prop
  | writing (frame : Bytes) : Under conn (.writing conn frame)
  | acknowledging (aside : List Bytes) : Under conn (.waiting conn (.acknowledgement aside))
  | responding : Under conn (.waiting conn .response)

/-- The result of a request that has used its connection. -/
structure Ends (fit : Prop) (k : Connection) (result : Except RequestError Response) : Prop where
  usable : fit → k.Usable
  harmless : fit → Harmless result
  lost : result = .error .connectionLost → k.state ≠ .activated
  small : ∀ length limit, result ≠ .error (.payloadTooLarge length limit)

theorem Ends.of {fit : Prop} {k : Connection} {result : Except RequestError Response} (husable : fit → k.Usable)
    (hharmless : Harmless result) (hlost : result ≠ .error .connectionLost)
    (hsmall : ∀ length limit, result ≠ .error (.payloadTooLarge length limit)) : Ends fit k result :=
  ⟨husable, fun _ => hharmless, fun h => absurd h hlost, hsmall⟩

theorem Ends.ok {α : Type} {fit : Prop} {k : Connection} {a : α} (h : k.Tells fit (.ok a)) (response : Response) :
    Ends fit k (.ok response) := .of h.usable (.ok response) (by simp) (by simp)

theorem Ends.ofReceive {α : Type} {fit : Prop} {k : Connection} {e : ReceiveError}
    (h : k.Tells fit (.error e : Except ReceiveError α)) : Ends fit k (.error (.ofReceive e)) := by
  cases e with
  | timeout => exact .of h.usable .timeout (by simp [RequestError.ofReceive]) (by simp [RequestError.ofReceive])
  | connectionLost =>
    exact ⟨h.usable, fun hfit => absurd rfl (h.found hfit), fun _ => h.lost rfl, by simp [RequestError.ofReceive]⟩
  | cancelled => exact .of h.usable .cancelled (by simp [RequestError.ofReceive]) (by simp [RequestError.ofReceive])

namespace Conversation

variable {w : Worker} {id conn : Nat} {data : Bytes} {c : Conversation} {k : Connection} {fit : Prop}
variable {slot : Option Nat} {point : RequestPoint}

/-- What a step of a request that uses a connection does: the slot is as before, and what becomes of the connection
is known before the request settles. -/
inductive Course (fit : Prop) (conn : Nat) (data : Bytes) (slot : Option Nat) : Conversation × Call → Prop
  | goes {c : Conversation} {point : RequestPoint} {k : Connection} (hunder : Under conn point)
      (hslot : c.slot = slot) (hk : c.connections[conn]? = some k) (husable : fit → k.Usable) :
      Course fit conn data slot (c, .request data point)
  | settles {c : Conversation} {result : Except RequestError Response} {k : Connection} (hslot : c.slot = slot)
      (hk : c.connections[conn]? = some k) (hends : Ends fit k result) :
      Course fit conn data slot (settleRequest data c result)

theorem responding_course (hk : c.connections[conn]? = some k) (hfit : fit → k.Usable) :
    Course fit conn data c.slot (afterResponseWait data conn (c.resumeWait w id "" conn .response)) := by
  cases hw : c.timer.wait? id with
  | none =>
    have hstay : c.resumeWait w id "" conn .response = (c, .inl .response) := by simp only [resumeWait, hw]
    rw [hstay]
    exact .goes .responding rfl hk hfit
  | some wait =>
    obtain ⟨k', ⟨hres, husable⟩ | ⟨result, hres, htells⟩⟩ := k.resume_response_tells hfit "" wait w.cancelled
    · rw [resumeWait_inl hw hk hres]
      exact .goes .responding rfl (getElem?_modifyConnection hk _) husable
    · rw [resumeWait_inr hw hk hres]
      cases result with
      | ok bs => exact .settles rfl (getElem?_modifyConnection hk _) (.ok htells _)
      | error e => exact .settles rfl (getElem?_modifyConnection hk _) (.ofReceive htells)

theorem startResponse_course (hk : c.connections[conn]? = some k) (hfit : fit → k.Usable) :
    Course fit conn data c.slot (startResponse w id data c conn) := by
  unfold startResponse
  simp only [hk]
  rcases Connection.beginResponse_tells hfit with hnone | ⟨k', result, hres, htells⟩
  · rw [hnone]
    let c' : Conversation :=
      { c.modifyConnection conn fun _ => k with timer := c.timer.arm id c.settings.responseTimeout.toNat }
    have hk' : c'.connections[conn]? = some k := getElem?_modifyConnection hk fun _ => k
    exact responding_course hk' hfit
  · rw [hres]
    cases result with
    | ok bs => exact .settles rfl (getElem?_modifyConnection hk _) (.ok htells _)
    | error e => exact .settles rfl (getElem?_modifyConnection hk _) (.ofReceive htells)

theorem acknowledging_course (hk : c.connections[conn]? = some k) (hfit : fit → k.Usable) (aside : List Bytes) :
    Course fit conn data c.slot
      (afterRequestWait w id data conn (c.resumeWait w id "" conn (.acknowledgement aside))) := by
  cases hw : c.timer.wait? id with
  | none =>
    have hstay : c.resumeWait w id "" conn (.acknowledgement aside) = (c, .inl (.acknowledgement aside)) := by
      simp only [resumeWait, hw]
    rw [hstay]
    exact .goes (.acknowledging aside) rfl hk hfit
  | some wait =>
    obtain ⟨k', ⟨aside', hres, husable⟩ | ⟨result, hres, htells⟩⟩ :=
      k.resume_acknowledgement_tells hfit "" wait w.cancelled aside
    · rw [resumeWait_inl hw hk hres]
      exact .goes (.acknowledging aside') rfl (getElem?_modifyConnection hk _) husable
    · rw [resumeWait_inr hw hk hres]
      let c' : Conversation := { c.modifyConnection conn fun _ => k' with timer := c.timer.finish id }
      have hk' : c'.connections[conn]? = some k' := getElem?_modifyConnection hk fun _ => k'
      cases result with
      | ok outcome =>
        cases outcome with
        | positive => exact startResponse_course hk' htells.usable
        | negative code => exact .settles rfl hk' (.of htells.usable (.negativeAck code) (by simp) (by simp))
      | error e =>
        cases e with
        | timeout => exact .settles rfl hk' (.of htells.usable .ackTimeout (by simp) (by simp))
        | connectionLost => exact .settles rfl hk' (.ofReceive htells)
        | cancelled => exact .settles rfl hk' (.ofReceive htells)

theorem stepRequest_course (hunder : Under conn point) (hk : c.connections[conn]? = some k) (hfit : fit → k.Usable)
    (hwrites : ∀ frame, point = .writing conn frame → fit → k.write? frame ≠ none) (w : Worker) (id : Nat)
    (inside : Bool) : Course fit conn data c.slot (stepRequest w id data inside c point) := by
  cases hunder with
  | writing frame =>
    simp only [stepRequest, hk, Connection.writeRequest]
    cases hwrite : k.write? frame with
    | none =>
      have hunfit : ¬ fit := fun hf => hwrites frame rfl hf hwrite
      exact .settles rfl (getElem?_modifyConnection hk fun _ => { k with state := .faulted })
        ⟨fun hf => absurd hf hunfit, fun hf => absurd hf hunfit, fun _ => by simp, by simp [RequestError.ofSend]⟩
    | some k' =>
      let c' : Conversation :=
        { c.modifyConnection conn fun _ => k' with timer := c.timer.arm id c.settings.ackTimeout.toNat }
      have hk' : c'.connections[conn]? = some k' := getElem?_modifyConnection hk fun _ => k'
      exact acknowledging_course hk' (fun hf => (hfit hf).write? hwrite) []
  | acknowledging aside => exact acknowledging_course hk hfit aside
  | responding =>
    simp only [stepRequest, Exchange.afterRequestWait_response]
    exact responding_course hk hfit

end Conversation
end Doip
