import Doip.Proofs.Connection.Kept
import Doip.Proofs.Connection.Wait

/-! What a connection keeps while others are at it: its server and settings, whether it is closed, and its state
unless it is lost (`Persists`). A look of a request persists; one of a connect may set the state (`Belongs`). -/

namespace Doip.Connection

variable {k k' k'' : Connection} {α : Type} {w : Wait} {shutDown : Bool} {select : Message → Stream.Selection α}

/-- What may happen to a connection that nobody uses: it may be lost. -/
structure Persists (k k' : Connection) : Prop where
  server : k'.server = k.server
  settings : k'.settings = k.settings
  closed : k'.closed = k.closed
  bare : k.stream = none → k'.stream = none
  state : k'.state = k.state ∨ k'.state = .faulted

theorem Persists.refl (k : Connection) : k.Persists k := ⟨rfl, rfl, rfl, fun h => h, .inl rfl⟩

theorem Persists.trans (h : k.Persists k') (h' : k'.Persists k'') : k.Persists k'' := by
  refine ⟨h'.server.trans h.server, h'.settings.trans h.settings, h'.closed.trans h.closed,
    fun hs => h'.bare (h.bare hs), ?_⟩
  rcases h'.state with hsame | hlost
  · rw [hsame]
    exact h.state
  · exact .inr hlost

theorem arrive_persists (k : Connection) (a : Arrival) : k.Persists (k.arrive a) := by
  unfold arrive
  cases hs : k.stream with
  | none => exact .refl k
  | some s =>
    refine ⟨rfl, rfl, rfl, fun hnone => ?_, ?_⟩
    · rw [hs] at hnone
      cases hnone
    · simp only
      split
      · exact .inr rfl
      · exact .inl rfl

theorem OutsideStep.persists (h : OutsideStep k k') : k.Persists k' := by
  cases h with
  | dialled dial => exact ⟨rfl, rfl, rfl, fun h => h, .inl rfl⟩
  | arrive a => exact k.arrive_persists a
  | noticeClosed =>
    unfold Connection.noticeClosed
    split
    · exact ⟨rfl, rfl, rfl, fun h => by simp [h], .inl rfl⟩
    · exact .refl k
  | sever => exact ⟨rfl, rfl, rfl, fun h => by simp [h], .inl rfl⟩
  | stopped => exact ⟨rfl, rfl, rfl, fun h => by simp [h], .inl rfl⟩

/-! Looks at the queue. -/

/-- A wait that goes on has time left. -/
theorem unexpired_of_poll (h : (k.poll w shutDown select).2.2 = none) : w.expired = false := by
  cases hs : k.stream with
  | none =>
    rw [poll_without_stream hs] at h
    cases h
  | some s =>
    cases hw : shutDown || w.stopped with
    | true =>
      rw [poll_cancelled hs hw] at h
      cases h
    | false =>
      obtain ⟨rfl, hst⟩ : shutDown = false ∧ w.stopped = false := by simpa using hw
      rw [poll_eq hs hst] at h
      cases hexp : w.expired with
      | false => rfl
      | true =>
        simp only [hexp, if_true] at h
        split at h
        · cases h
        · split at h <;> cases h

/-- A wait that nobody stops does not end as stopped. -/
theorem poll_ne_cancelled (hw : w.stopped = false) (k : Connection) (select : Message → Stream.Selection α) :
    (k.poll w false select).2.2 ≠ some (.error .cancelled) := by
  intro h
  cases hs : k.stream with
  | none =>
    rw [poll_without_stream hs] at h
    cases h
  | some s =>
    rw [poll_eq hs hw] at h
    simp only at h
    split at h
    · cases h
    · split at h
      · cases h
      · split at h <;> cases h

theorem Persists.poll (k : Connection) (w : Wait) (shutDown : Bool) (select : Message → Stream.Selection α) :
    k.Persists (k.poll w shutDown select).1 := by
  rcases k.poll_connection w shutDown select with h | ⟨s, hs, h⟩
  · rw [h]
    exact .refl k
  · rw [h]
    exact ⟨rfl, rfl, rfl, fun hnone => (by rw [hs] at hnone; cases hnone), .inl rfl⟩

theorem Persists.faultOnLoss (k : Connection) (result : Except ReceiveError α) : k.Persists (k.faultOnLoss result) := by
  unfold Connection.faultOnLoss
  split
  · exact ⟨rfl, rfl, rfl, fun h => h, .inr rfl⟩
  · exact .refl k

/-- What a look of a request ends with, on a connection that is left behind: nobody has stopped it, and a loss is
recorded. -/
structure Honest (k : Connection) (result : Except ReceiveError α) : Prop where
  unstopped : result ≠ .error .cancelled
  lost : result = .error .connectionLost → k.state = .faulted

theorem honest_faultOnLoss {result : Except ReceiveError α} (h : result ≠ .error .cancelled) (k : Connection) :
    Honest (k.faultOnLoss result) result := by
  refine ⟨h, fun hlost => ?_⟩
  rw [hlost]
  rfl

theorem resume_acknowledgement_persists (hw : w.stopped = false) (k : Connection) (aside : List Bytes) :
    ∃ k', k.Persists k' ∧
      ((∃ aside', k.resume "" w false (.acknowledgement aside) = (k', .inl (.acknowledgement aside')) ∧
          w.expired = false) ∨
        ∃ result, k.resume "" w false (.acknowledgement aside) = (k', .inr (.acknowledgement result)) ∧
          k'.Honest result) := by
  have hp := Persists.poll k w false k.selectAcknowledgement
  have hne := poll_ne_cancelled hw k k.selectAcknowledgement
  rcases hpoll : k.poll w false k.selectAcknowledgement with ⟨k', more, _ | result⟩
  · rw [hpoll] at hp
    refine ⟨k', hp, .inl ⟨aside ++ more, ?_, unexpired_of_poll (by rw [hpoll])⟩⟩
    simp only [resume, hpoll]
  · rw [hpoll] at hp hne
    let k'' : Connection := { k' with early := k'.early ++ aside ++ more }
    have hearly : k'.Persists k'' := ⟨rfl, rfl, rfl, fun h => h, .inl rfl⟩
    refine ⟨k''.faultOnLoss result, (hp.trans hearly).trans (.faultOnLoss k'' result), .inr ⟨result, ?_, ?_⟩⟩
    · simp only [resume, hpoll]
      rfl
    · exact honest_faultOnLoss (fun h => hne (by rw [h])) k''

theorem resume_response_persists (hw : w.stopped = false) (k : Connection) :
    ∃ k', k.Persists k' ∧
      ((k.resume "" w false .response = (k', .inl .response) ∧ w.expired = false) ∨
        ∃ result, k.resume "" w false .response = (k', .inr (.response result)) ∧ k'.Honest result) := by
  have hp := Persists.poll k w false k.selectResponse
  have hne := poll_ne_cancelled hw k k.selectResponse
  rcases hpoll : k.poll w false k.selectResponse with ⟨k', more, _ | result⟩
  · rw [hpoll] at hp
    refine ⟨k', hp, .inl ⟨?_, unexpired_of_poll (by rw [hpoll])⟩⟩
    simp only [resume, hpoll]
  · rw [hpoll] at hp hne
    refine ⟨k'.faultOnLoss result, hp.trans (.faultOnLoss k' result), .inr ⟨result, ?_, ?_⟩⟩
    · simp only [resume, hpoll]
    · exact honest_faultOnLoss (fun h => hne (by rw [h])) k'

/-! Setting up. -/

/-- The same connection between the same two, closed or not as before. -/
structure Belongs (k k' : Connection) : Prop where
  server : k'.server = k.server
  settings : k'.settings = k.settings
  closed : k'.closed = k.closed

theorem Persists.belongs (h : k.Persists k') : k.Belongs k' := ⟨h.server, h.settings, h.closed⟩

theorem Belongs.trans (h : k.Belongs k') (h' : k'.Belongs k'') : k.Belongs k'' :=
  ⟨h'.server.trans h.server, h'.settings.trans h.settings, h'.closed.trans h.closed⟩

theorem finishActivation_belongs (k : Connection) (result : Except ReceiveError ActivationResponse) :
    k.Belongs (k.finishActivation result).1 ∧
      ((k.finishActivation result).2 = .ok () → (k.finishActivation result).1.state = .activated) := by
  unfold finishActivation
  split
  · split
    · exact ⟨⟨rfl, rfl, rfl⟩, fun _ => rfl⟩
    · exact ⟨⟨rfl, rfl, rfl⟩, fun h => by cases h⟩
  · exact ⟨⟨rfl, rfl, rfl⟩, fun h => by cases h⟩

theorem resume_activation_belongs (k : Connection) (text : String) (w : Wait) (shutDown : Bool) :
    ∃ k', k.Belongs k' ∧
      ((k.resume text w shutDown .activation = (k', .inl .activation) ∧ w.expired = false) ∨
        ∃ result, k.resume text w shutDown .activation = (k', .inr (.activation result)) ∧
          (result = .ok () → k'.state = .activated)) := by
  have hp := Persists.poll k w shutDown k.selectActivation
  rcases hpoll : k.poll w shutDown k.selectActivation with ⟨k', more, _ | result⟩
  · rw [hpoll] at hp
    refine ⟨k', hp.belongs, .inl ⟨?_, unexpired_of_poll (by rw [hpoll])⟩⟩
    simp only [resume, hpoll]
  · rw [hpoll] at hp
    obtain ⟨hb, hok⟩ := finishActivation_belongs k' result
    refine ⟨_, hp.belongs.trans hb, .inr ⟨_, ?_, hok⟩⟩
    simp only [resume, hpoll]

theorem finishConnect_belongs (k : Connection) (text : String) (result : Except TimerOutcome (Except String Unit)) :
    k.Belongs (k.finishConnect text result).1 := by
  unfold finishConnect
  split <;> exact ⟨rfl, rfl, rfl⟩

theorem resume_connect_belongs (k : Connection) (text : String) (w : Wait) (shutDown : Bool) :
    ∃ k', k.Belongs k' ∧
      ((k.resume text w shutDown .connect = (k', .inl .connect) ∧ w.expired = false) ∨
        ∃ result, k.resume text w shutDown .connect = (k', .inr (.connect result))) := by
  cases hpoll : w.poll shutDown k.dialled? with
  | none =>
    refine ⟨k, ⟨rfl, rfl, rfl⟩, .inl ⟨by simp only [resume, hpoll], ?_⟩⟩
    cases hexp : w.expired with
    | false => rfl
    | true =>
      simp only [Wait.poll, hexp, if_true] at hpoll
      split at hpoll
      · cases hpoll
      · split at hpoll <;> cases hpoll
  | some result =>
    refine ⟨_, k.finishConnect_belongs text result, .inr ⟨(k.finishConnect text result).2, ?_⟩⟩
    simp only [resume, hpoll]

/-! What is closed stays closed. -/

theorem resume_closed (k : Connection) (text : String) (wait : Wait) (shutDown : Bool) (waiting : Waiting) :
    (k.resume text wait shutDown waiting).1.closed = k.closed := by
  cases waiting with
  | connect =>
    obtain ⟨k', hk', ⟨hres, -⟩ | ⟨result, hres⟩⟩ := k.resume_connect_belongs text wait shutDown <;>
    · rw [hres]
      exact hk'.closed
  | activation =>
    obtain ⟨k', hk', ⟨hres, -⟩ | ⟨result, hres, -⟩⟩ := k.resume_activation_belongs text wait shutDown <;>
    · rw [hres]
      exact hk'.closed
  | acknowledgement aside =>
    have hp := (Persists.poll k wait shutDown k.selectAcknowledgement).closed
    simp only [resume]
    split <;> rename_i hpoll <;> rw [hpoll] at hp
    · exact hp
    · exact (Persists.faultOnLoss _ _).closed.trans hp
  | response =>
    have hp := (Persists.poll k wait shutDown k.selectResponse).closed
    simp only [resume]
    split <;> rename_i hpoll <;> rw [hpoll] at hp
    · exact hp
    · exact (Persists.faultOnLoss _ _).closed.trans hp

theorem write?_closed {k k' : Connection} {frame : Bytes} (h : k.write? frame = some k') : k'.closed = k.closed := by
  unfold write? at h
  split at h
  · cases h
  · split at h
    · cases h
    · cases h
      rfl

theorem OwnerStep.closed {k k' : Connection} (h : OwnerStep k k') (hk : k.closed = true) : k'.closed = true := by
  cases h with
  | close => rfl
  | abandon => rfl
  | finishDisconnect => exact hk
  | beginActivation => exact hk
  | discardPending => exact hk
  | writeActivation h =>
    unfold Connection.writeActivation at h
    split at h
    · rename_i hw
      cases h
      exact (write?_closed hw).trans hk
    · cases h
  | loseActivation h =>
    unfold Connection.writeActivation at h
    split at h
    · cases h
    · cases h
      exact hk
  | writeRequest frame =>
    unfold Connection.writeRequest
    split
    · rename_i hw
      exact (write?_closed hw).trans hk
    · exact hk
  | beginResponse =>
    unfold Connection.beginResponse
    split
    · exact hk
    · split <;> exact hk
  | resume text wait shutDown waiting => exact (resume_closed k text wait shutDown waiting).trans hk

end Doip.Connection
