import Doip.Proofs.Connection.Persists

/-! A connection that can be used: routing is activated on it, nobody has closed it, and its receiver runs. It stays
so under whatever the receiver does not take for its loss (`Usable.arrive`) and under the looks and writes of a
request, and a request that finds the connection lost has recorded it (`Tells`). -/

namespace Doip

/-- A receiver ends with what it takes for the loss of the connection, and with nothing else. -/
theorem Stream.arrive_receiving {codec : Codec} {s : Stream} (hs : s.Kept codec) (hr : s.receiving = true)
    (client : Address) (a : Arrival) :
    (s.arrive codec client a).1.receiving = !(s.arrive codec client a).2 := by
  cases a with
  | bytes bs =>
    cases hf : (codec.drain (s.buffer ++ bs)).fault with
    | none =>
      rw [arrive_whole hs hr hf]
      exact hr
    | some e =>
      rw [arrive_broken hs hr hf]
      rfl
  | endOfStream => simp [arrive, hr]
  | failure => simp [arrive, hr]

namespace Connection

structure Usable (k : Connection) : Prop where
  activated : k.state = .activated
  opened : k.closed = false
  receiving : ∃ s, k.stream = some s ∧ s.receiving = true

variable {α : Type} {k k' : Connection} {fit : Prop}

theorem Usable.map_stream (h : k.Usable) (hstate : k'.state = k.state) (hclosed : k'.closed = k.closed)
    (f : Stream → Stream) (hstr : k'.stream = k.stream.map f) (hf : ∀ s, (f s).receiving = s.receiving) :
    k'.Usable := by
  obtain ⟨s, hs, hr⟩ := h.receiving
  exact ⟨hstate.trans h.activated, hclosed.trans h.opened, f s, by rw [hstr, hs]; rfl, (hf s).trans hr⟩

/-- What arrives leaves a connection usable, unless the receiver takes it for the loss. -/
theorem Usable.arrive (h : k.Usable) (hkept : k.Kept) {a : Arrival}
    (hsafe : ∀ s, k.stream = some s → (s.arrive k.settings.codec k.settings.client a).2 = false) :
    (k.arrive a).Usable := by
  obtain ⟨s, hs, hr⟩ := h.receiving
  have hstays := Stream.arrive_receiving (hkept s hs) hr k.settings.client a
  simp only [Connection.arrive, hs, hsafe s hs] at hstays ⊢
  exact ⟨h.activated, h.opened, _, rfl, hstays⟩

theorem Usable.noticeClosed (h : k.Usable) : k.noticeClosed.Usable := by
  rw [Connection.noticeClosed, h.opened]
  exact h

theorem Usable.write? (h : k.Usable) {frame : Bytes} (hw : k.write? frame = some k') : k'.Usable := by
  obtain ⟨s, hs, hr⟩ := h.receiving
  simp only [Connection.write?, hs] at hw
  split at hw
  · cases hw
  · cases hw
    exact ⟨h.activated, h.opened, _, rfl, (s.write_receiving frame).trans hr⟩

theorem Usable.discardPending (h : k.Usable) : k.discardPending.1.Usable :=
  h.map_stream rfl rfl (fun s => { s with queue := [] }) rfl fun _ => rfl

theorem Usable.poll (h : k.Usable) (w : Wait) (shutDown : Bool) (select : Message → Stream.Selection α) :
    (k.poll w shutDown select).1.Usable ∧ (k.poll w shutDown select).2.2 ≠ some (.error .connectionLost) := by
  obtain ⟨s, hs, hr⟩ := h.receiving
  cases hw : shutDown || w.stopped with
  | true =>
    rw [poll_cancelled hs hw]
    exact ⟨h, by simp⟩
  | false =>
    obtain ⟨rfl, hst⟩ : shutDown = false ∧ w.stopped = false := by simpa using hw
    rw [poll_eq hs hst]
    refine ⟨⟨h.activated, h.opened, _, rfl, hr⟩, ?_⟩
    simp only [hr]
    cases (Stream.search select s.queue).1 <;> cases w.expired <;> simp

/-- What an operation of a request comes to. On a connection fit for use it does not find it lost, and where it does,
the loss is recorded. -/
structure Tells (fit : Prop) (k : Connection) (result : Except ReceiveError α) : Prop where
  usable : fit → k.Usable
  found : fit → result ≠ .error .connectionLost
  lost : result = .error .connectionLost → k.state ≠ .activated

theorem tells_faultOnLoss {result : Except ReceiveError α} (husable : fit → k.Usable)
    (hfound : fit → result ≠ .error .connectionLost) : Tells fit (k.faultOnLoss result) result := by
  refine ⟨fun hfit => ?_, hfound, fun hlost => ?_⟩
  · unfold Connection.faultOnLoss
    split
    · exact absurd rfl (hfound hfit)
    · exact husable hfit
  · rw [hlost]
    nofun

theorem resume_acknowledgement_tells (hfit : fit → k.Usable) (text : String) (w : Wait) (shutDown : Bool)
    (aside : List Bytes) :
    ∃ k', (∃ aside', k.resume text w shutDown (.acknowledgement aside) = (k', .inl (.acknowledgement aside')) ∧
        (fit → k'.Usable)) ∨
      ∃ result, k.resume text w shutDown (.acknowledgement aside) = (k', .inr (.acknowledgement result)) ∧
        Tells fit k' result := by
  have hpolls := fun hf => (hfit hf).poll w shutDown k.selectAcknowledgement
  rcases hpoll : k.poll w shutDown k.selectAcknowledgement with ⟨k', more, _ | result⟩
  · rw [hpoll] at hpolls
    exact ⟨k', .inl ⟨aside ++ more, by simp only [resume, hpoll], fun hf => (hpolls hf).1⟩⟩
  · rw [hpoll] at hpolls
    let k'' : Connection := { k' with early := k'.early ++ aside ++ more }
    have hearly : fit → k''.Usable := fun hf => ⟨(hpolls hf).1.activated, (hpolls hf).1.opened, (hpolls hf).1.receiving⟩
    refine ⟨k''.faultOnLoss result, .inr ⟨result, ?_, tells_faultOnLoss hearly fun hf hlost => ?_⟩⟩
    · simp only [resume, hpoll]
      rfl
    · exact (hpolls hf).2 (congrArg some hlost)

theorem resume_response_tells (hfit : fit → k.Usable) (text : String) (w : Wait) (shutDown : Bool) :
    ∃ k', (k.resume text w shutDown .response = (k', .inl .response) ∧ (fit → k'.Usable)) ∨
      ∃ result, k.resume text w shutDown .response = (k', .inr (.response result)) ∧ Tells fit k' result := by
  have hpolls := fun hf => (hfit hf).poll w shutDown k.selectResponse
  rcases hpoll : k.poll w shutDown k.selectResponse with ⟨k', more, _ | result⟩
  · rw [hpoll] at hpolls
    exact ⟨k', .inl ⟨by simp only [resume, hpoll], fun hf => (hpolls hf).1⟩⟩
  · rw [hpoll] at hpolls
    refine ⟨k'.faultOnLoss result, .inr ⟨result, ?_, tells_faultOnLoss (fun hf => (hpolls hf).1) fun hf hlost => ?_⟩⟩
    · simp only [resume, hpoll]
    · exact (hpolls hf).2 (congrArg some hlost)

theorem beginResponse_tells (hfit : fit → k.Usable) :
    k.beginResponse = (k, none) ∨ ∃ k' result, k.beginResponse = (k', some result) ∧ Tells fit k' result := by
  unfold beginResponse
  cases k.early with
  | cons data rest =>
    refine .inr ⟨_, _, rfl, fun hf => ?_, fun _ => nofun, nofun⟩
    exact ⟨(hfit hf).activated, (hfit hf).opened, (hfit hf).receiving⟩
  | nil =>
    simp only
    split
    · rename_i hstate
      exact .inr ⟨_, _, rfl, hfit, fun hf => absurd (hfit hf).activated hstate, fun _ => hstate⟩
    · exact .inl rfl

end Connection
end Doip
