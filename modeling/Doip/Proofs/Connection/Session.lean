import Doip.Proofs.Connection.Kept

/-! One session of a connection: what its caller, its receivers and the network do to it from the end of one connect
to the next (`Doing`), and what the caller is told (`Told`). Nothing of it replaces the stream, so the stream stays
attended and its queue bounded (`Kept.performAll`). -/

namespace Doip.Connection

/-- What can happen to a connection in one session. -/
inductive Doing
  | arrive (a : Arrival)
  /-- Something arrives on a stream of an earlier session. -/
  | arriveFormer (i : Nat) (a : Arrival)
  | close
  | noticeClosed
  /-- The far end takes no more bytes. -/
  | sever
  | beginActivation
  | writeActivation
  | send (data : Bytes)
  /-- A wait takes a single frame out of the queue. -/
  | take (w : Wait) (shutDown : Bool)
  /-- The wait of a routing activation looks at the queue. -/
  | lookActivation (w : Wait) (shutDown : Bool)
  /-- The wait for an acknowledgement looks, with the responses it has set aside before. -/
  | lookAcknowledgement (w : Wait) (shutDown : Bool) (aside : List Bytes)
  | lookResponse (w : Wait) (shutDown : Bool)
  /-- A response is asked for. -/
  | beginResponse
  | discard

/-- What the caller gets to know. -/
inductive Told
  | nothing
  | written (whole : Bool)
  | sent (result : Except SendError Unit)
  | taken (result : Option (Except ReceiveError Message))
  | looked (progress : Waiting ⊕ Settled)
  | begun (result : Option (Except ReceiveError Bytes))
  | dropped (count : Nat)

def perform (c : Connection) : Doing → Connection × Told
  | .arrive a => (c.arrive a, .nothing)
  | .arriveFormer i a => (c.arriveFormer i a, .nothing)
  | .close => (c.close, .nothing)
  | .noticeClosed => (c.noticeClosed, .nothing)
  | .sever => ({ c with stream := c.stream.map fun s => { s with broken := true } }, .nothing)
  | .beginActivation => (c.beginActivation, .nothing)
  | .writeActivation =>
    match c.writeActivation with
    | .ok c => (c, .written true)
    | .error c => (c, .written false)
  | .send data => ((c.send data).1, .sent (c.send data).2)
  | .take w shutDown => ((c.poll w shutDown .accept).1, .taken (c.poll w shutDown .accept).2.2)
  | .lookActivation w shutDown =>
    ((c.resume "" w shutDown .activation).1, .looked (c.resume "" w shutDown .activation).2)
  | .lookAcknowledgement w shutDown aside =>
    ((c.resume "" w shutDown (.acknowledgement aside)).1,
      .looked (c.resume "" w shutDown (.acknowledgement aside)).2)
  | .lookResponse w shutDown =>
    ((c.resume "" w shutDown .response).1, .looked (c.resume "" w shutDown .response).2)
  | .beginResponse => (c.beginResponse.1, .begun c.beginResponse.2)
  | .discard => (c.discardPending.1, .dropped c.discardPending.2)

def performAll (c : Connection) (ds : List Doing) : Connection := ds.foldl (fun c d => (c.perform d).1) c

variable {c : Connection}

theorem Kept.arriveFormer (hc : c.Kept) (i : Nat) (a : Arrival) : (c.arriveFormer i a).Kept := by
  unfold Connection.arriveFormer
  split
  · exact hc
  · exact hc.same_stream rfl rfl

theorem Kept.send (hc : c.Kept) (data : Bytes) : (c.send data).1.Kept := by
  unfold Connection.send
  split
  · exact hc
  · exact (OwnerStep.writeRequest c _).kept hc

theorem Kept.perform (hc : c.Kept) (d : Doing) : (c.perform d).1.Kept := by
  cases d with
  | arrive a => exact (OutsideStep.arrive c a).kept hc
  | arriveFormer i a => exact hc.arriveFormer i a
  | close => exact (OwnerStep.close c).kept hc
  | noticeClosed => exact (OutsideStep.noticeClosed c).kept hc
  | sever => exact (OutsideStep.sever c).kept hc
  | beginActivation => exact (OwnerStep.beginActivation c).kept hc
  | writeActivation =>
    simp only [Connection.perform]
    split
    · rename_i hw
      exact (OwnerStep.writeActivation hw).kept hc
    · rename_i hw
      exact (OwnerStep.loseActivation hw).kept hc
  | send data => exact hc.send data
  | take w shutDown => exact hc.poll w shutDown _
  | lookActivation w shutDown => exact hc.resume "" w shutDown _
  | lookAcknowledgement w shutDown aside => exact hc.resume "" w shutDown _
  | lookResponse w shutDown => exact hc.resume "" w shutDown _
  | beginResponse => exact (OwnerStep.beginResponse c).kept hc
  | discard => exact (OwnerStep.discardPending c).kept hc

theorem Kept.performAll (hc : c.Kept) (ds : List Doing) : (c.performAll ds).Kept := by
  induction ds generalizing c with
  | nil => exact hc
  | cons d ds ih => exact ih (hc.perform d)

theorem kept_adopt (c : Connection) : c.adopt.Kept := by
  intro s hs
  cases hs
  exact Stream.Kept.fresh _

/-! The frames that wait, under what leaves the queue alone. -/

theorem pending_write? {c' : Connection} {frame : Bytes} (hw : c.write? frame = some c') : c'.pending = c.pending := by
  unfold write? at hw
  split at hw
  · cases hw
  · rename_i s hs
    split at hw
    · cases hw
    · cases hw
      rw [pending_eq hs]
      exact s.write_queue frame

theorem pending_arriveFormer (c : Connection) (i : Nat) (a : Arrival) : (c.arriveFormer i a).pending = c.pending := by
  unfold arriveFormer
  split <;> rfl

theorem pending_map (c : Connection) (f : Stream → Stream) (hf : ∀ s, (f s).queue = s.queue) :
    pending { c with stream := c.stream.map f } = c.pending := by
  unfold pending
  cases c.stream with
  | none => rfl
  | some s => exact hf s

theorem pending_noticeClosed (c : Connection) : c.noticeClosed.pending = c.pending := by
  unfold noticeClosed
  split
  · exact pending_map c _ fun _ => rfl
  · rfl

theorem pending_writeRequest (c : Connection) (frame : Bytes) : (c.writeRequest frame).1.pending = c.pending := by
  unfold writeRequest
  split
  · rename_i hw
    exact pending_write? hw
  · rfl

theorem pending_send (c : Connection) (data : Bytes) : (c.send data).1.pending = c.pending := by
  unfold send
  split
  · rfl
  · exact c.pending_writeRequest _

theorem pending_writeActivation (c : Connection) : (c.perform .writeActivation).1.pending = c.pending := by
  simp only [perform, writeActivation]
  cases hw : c.write? c.activationRequest with
  | none => rfl
  | some c' => exact pending_write? hw

theorem pending_beginResponse (c : Connection) : c.beginResponse.1.pending = c.pending := by
  unfold beginResponse
  split
  · rfl
  · split <;> rfl

/-! The waits of a session look at the queue, and beyond that they set the state or keep responses. -/

theorem faultOnLoss_eq {α : Type} (c : Connection) (result : Except ReceiveError α) :
    ∃ state, c.faultOnLoss result = { c with state } := by
  unfold faultOnLoss
  split
  · exact ⟨.faulted, rfl⟩
  · exact ⟨c.state, rfl⟩

theorem finishActivation_eq (c : Connection) (result : Except ReceiveError ActivationResponse) :
    ∃ state, (c.finishActivation result).1 = { c with state } := by
  unfold finishActivation
  split
  · split
    · exact ⟨.activated, rfl⟩
    · exact ⟨.faulted, rfl⟩
  · exact ⟨.faulted, rfl⟩

theorem lookActivation_eq (c : Connection) (w : Wait) (shutDown : Bool) :
    ∃ state, (c.resume "" w shutDown .activation).1 = { (c.poll w shutDown c.selectActivation).1 with state } := by
  rcases hp : c.poll w shutDown c.selectActivation with ⟨c', aside, _ | result⟩
  · exact ⟨c'.state, by simp only [resume, hp]⟩
  · simp only [resume, hp]
    exact c'.finishActivation_eq result

theorem lookAcknowledgement_eq (c : Connection) (w : Wait) (shutDown : Bool) (before : List Bytes) :
    ∃ state early, (c.resume "" w shutDown (.acknowledgement before)).1 =
      { (c.poll w shutDown c.selectAcknowledgement).1 with state, early } := by
  rcases hp : c.poll w shutDown c.selectAcknowledgement with ⟨c', aside, _ | result⟩
  · exact ⟨c'.state, c'.early, by simp only [resume, hp]⟩
  · simp only [resume, hp]
    obtain ⟨state, hstate⟩ := faultOnLoss_eq { c' with early := c'.early ++ before ++ aside } result
    exact ⟨state, _, hstate⟩

theorem lookResponse_eq (c : Connection) (w : Wait) (shutDown : Bool) :
    ∃ state, (c.resume "" w shutDown .response).1 = { (c.poll w shutDown c.selectResponse).1 with state } := by
  rcases hp : c.poll w shutDown c.selectResponse with ⟨c', aside, _ | result⟩
  · exact ⟨c'.state, by simp only [resume, hp]⟩
  · simp only [resume, hp]
    exact c'.faultOnLoss_eq result

end Doip.Connection
