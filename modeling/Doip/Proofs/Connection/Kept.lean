import Doip.Proofs.Connection.Wait

/-! What can become of a connection, one operation at a time: by the calls of its owner (`OwnerStep`) and from
outside (`OutsideStep`). Under all of it the current stream stays attended, its queue keeps its bound and its
buffer holds no whole frame (`Kept`). -/

namespace Doip

namespace Stream

variable {codec : Codec} {s s' : Stream}

/-- A stream with no more in its queue and the same buffer is kept as well. -/
theorem Kept.of_le (hs : s.Kept codec) (ha : s'.attended = s.attended)
    (hq : s'.queue.length ≤ s.queue.length)
    (hr : s'.receiving = true → s.receiving = true ∧ s'.buffer = s.buffer) : s'.Kept codec := by
  refine ⟨ha.trans hs.attended, Nat.le_trans hq hs.room, fun h => ?_⟩
  obtain ⟨hrec, hbuf⟩ := hr h
  rw [hbuf]
  exact hs.cut hrec

theorem Kept.write (hs : s.Kept codec) (frame : Bytes) : (s.write frame).Kept codec := by
  unfold Stream.write
  split
  · exact hs
  · exact hs.of_le rfl (Nat.le_refl _) fun h => ⟨h, rfl⟩

theorem Kept.stopped (hs : s.Kept codec) : Kept codec { s with receiving := false } :=
  hs.of_le rfl (Nat.le_refl _) fun h => by cases h

end Stream

namespace Connection

/-- What the calls on a conversation do to a connection. -/
inductive OwnerStep : Connection → Connection → Prop
  | close (k : Connection) : OwnerStep k k.close
  | finishDisconnect (k : Connection) : OwnerStep k k.finishDisconnect
  | abandon (k : Connection) : OwnerStep k k.abandon
  | beginActivation (k : Connection) : OwnerStep k k.beginActivation
  | writeActivation {k k' : Connection} : k.writeActivation = .ok k' → OwnerStep k k'
  | loseActivation {k k' : Connection} : k.writeActivation = .error k' → OwnerStep k k'
  | writeRequest (k : Connection) (frame : Bytes) : OwnerStep k (k.writeRequest frame).1
  | discardPending (k : Connection) : OwnerStep k k.discardPending.1
  | beginResponse (k : Connection) : OwnerStep k k.beginResponse.1
  | resume (k : Connection) (endpoint : String) (w : Wait) (shutDown : Bool) (waiting : Waiting) :
      OwnerStep k (k.resume endpoint w shutDown waiting).1

/-- What network, receivers and worker do to a connection. -/
inductive OutsideStep : Connection → Connection → Prop
  | dialled (k : Connection) (dial : Dial) : OutsideStep k { k with dial }
  | arrive (k : Connection) (a : Arrival) : OutsideStep k (k.arrive a)
  | noticeClosed (k : Connection) : OutsideStep k k.noticeClosed
  | sever (k : Connection) :
      OutsideStep k { k with stream := k.stream.map fun s => { s with broken := true } }
  | stopped (k : Connection) :
      OutsideStep k { k with stream := k.stream.map fun s => { s with receiving := false } }

def Kept (k : Connection) : Prop := ∀ s, k.stream = some s → s.Kept k.settings.codec

variable {k k' : Connection}

theorem Kept.fresh (settings : ConnectionSettings) (server : Address) (closed : Bool) :
    Kept (beginConnect { settings, server, closed }) := by
  intro s hs
  cases hs

/-- A connection with the same settings whose stream is gone or is made from its stream is kept. -/
theorem Kept.map_stream (hk : k.Kept) (hset : k'.settings = k.settings) (f : Stream → Stream)
    (hstr : k'.stream = k.stream.map f) (hf : ∀ s, s.Kept k.settings.codec → (f s).Kept k.settings.codec) :
    k'.Kept := by
  intro s hs
  rw [hstr] at hs
  obtain ⟨s', hs', rfl⟩ := Option.map_eq_some_iff.1 hs
  rw [hset]
  exact hf s' (hk s' hs')

theorem Kept.same_stream (hk : k.Kept) (hset : k'.settings = k.settings) (hstr : k'.stream = k.stream) :
    k'.Kept :=
  hk.map_stream hset id (by simpa using hstr) fun _ h => h

theorem Kept.without_stream (hstr : k'.stream = none) : k'.Kept := by
  intro s hs
  rw [hstr] at hs
  cases hs

theorem Kept.write? (hk : k.Kept) {frame : Bytes} (hw : k.write? frame = some k') : k'.Kept := by
  unfold Connection.write? at hw
  split at hw
  · cases hw
  · rename_i s hs
    split at hw
    · cases hw
    · cases hw
      refine hk.map_stream rfl (fun s => s.write frame) (by rw [hs]; rfl) fun s h => h.write frame

theorem Kept.searched {α : Type} (hk : k.Kept) {s : Stream} (hs : k.stream = some s)
    (select : Message → Stream.Selection α) : (k.searched s select).Kept := by
  intro s' hs'
  cases hs'
  exact (hk s hs).of_le rfl (Stream.search_rest_suffix select s.queue).length_le fun h => ⟨h, rfl⟩

theorem Kept.poll {α : Type} (hk : k.Kept) (w : Wait) (shutDown : Bool)
    (select : Message → Stream.Selection α) : (k.poll w shutDown select).1.Kept := by
  rcases k.poll_connection w shutDown select with h | ⟨s, hs, h⟩
  · rwa [h]
  · rw [h]
    exact hk.searched hs select

theorem Kept.faultOnLoss {α : Type} (hk : k.Kept) (result : Except ReceiveError α) :
    (k.faultOnLoss result).Kept := by
  unfold Connection.faultOnLoss
  split
  · exact hk.same_stream rfl rfl
  · exact hk

theorem Kept.finishActivation (hk : k.Kept) (result : Except ReceiveError ActivationResponse) :
    (k.finishActivation result).1.Kept := by
  unfold Connection.finishActivation
  split
  · split
    · exact hk.same_stream rfl rfl
    · exact hk.same_stream rfl rfl
  · exact hk.same_stream rfl rfl

theorem Kept.finishConnect (hk : k.Kept) (endpoint : String)
    (result : Except TimerOutcome (Except String Unit)) : (k.finishConnect endpoint result).1.Kept := by
  unfold Connection.finishConnect
  split
  · intro s hs
    cases hs
    exact Stream.Kept.fresh _
  · exact hk.same_stream rfl rfl
  · exact hk.same_stream rfl rfl
  · exact hk.same_stream rfl rfl

theorem Kept.resume (hk : k.Kept) (endpoint : String) (w : Wait) (shutDown : Bool) (waiting : Waiting) :
    (k.resume endpoint w shutDown waiting).1.Kept := by
  unfold Connection.resume
  cases waiting with
  | connect =>
    simp only
    split
    · exact hk
    · exact hk.finishConnect endpoint _
  | activation =>
    have hp := hk.poll w shutDown k.selectActivation
    simp only
    split
    · rename_i h
      rwa [h] at hp
    · rename_i h
      rw [h] at hp
      exact Kept.finishActivation hp _
  | acknowledgement before =>
    have hp := hk.poll w shutDown k.selectAcknowledgement
    simp only
    split
    · rename_i h
      rwa [h] at hp
    · rename_i c aside result h
      rw [h] at hp
      have hearly : Kept { c with early := c.early ++ before ++ aside } := hp.same_stream rfl rfl
      exact hearly.faultOnLoss result
  | response =>
    have hp := hk.poll w shutDown k.selectResponse
    simp only
    split
    · rename_i h
      rwa [h] at hp
    · rename_i h
      rw [h] at hp
      exact hp.faultOnLoss _

theorem OwnerStep.kept (h : OwnerStep k k') (hk : k.Kept) : k'.Kept := by
  cases h with
  | close => exact hk.same_stream rfl rfl
  | finishDisconnect => exact Kept.without_stream rfl
  | abandon => exact Kept.without_stream rfl
  | beginActivation => exact hk.same_stream rfl rfl
  | writeActivation h =>
    unfold Connection.writeActivation at h
    split at h
    · rename_i hw
      cases h
      exact hk.write? hw
    · cases h
  | loseActivation h =>
    unfold Connection.writeActivation at h
    split at h
    · cases h
    · cases h
      exact hk.same_stream rfl rfl
  | writeRequest frame =>
    unfold Connection.writeRequest
    split
    · rename_i hw
      exact hk.write? hw
    · exact hk.same_stream rfl rfl
  | discardPending =>
    exact hk.map_stream rfl (fun s => { s with queue := [] }) rfl
      fun s h => h.of_le rfl (Nat.zero_le _) fun hr => ⟨hr, rfl⟩
  | beginResponse =>
    unfold Connection.beginResponse
    split
    · exact hk.same_stream rfl rfl
    · split <;> exact hk
  | resume endpoint w shutDown waiting => exact hk.resume endpoint w shutDown waiting

theorem OutsideStep.kept (h : OutsideStep k k') (hk : k.Kept) : k'.Kept := by
  cases h with
  | dialled dial => exact hk.same_stream rfl rfl
  | arrive a =>
    cases hs : k.stream with
    | none =>
      have hsame : k.arrive a = k := by simp only [Connection.arrive, hs]
      rwa [hsame]
    | some s =>
      refine hk.map_stream ?_ (fun s => (s.arrive k.settings.codec k.settings.client a).1) ?_ fun s h => h.arrive a
      · simp only [Connection.arrive, hs]
      · simp only [Connection.arrive, hs, Option.map_some]
  | noticeClosed =>
    unfold Connection.noticeClosed
    split
    · exact hk.map_stream rfl (fun s => { s with receiving := false }) rfl fun s h => h.stopped
    · exact hk
  | sever =>
    exact hk.map_stream rfl (fun s => { s with broken := true }) rfl
      fun s h => h.of_le rfl (Nat.le_refl _) fun hr => ⟨hr, rfl⟩
  | stopped => exact hk.map_stream rfl (fun s => { s with receiving := false }) rfl fun s h => h.stopped

end Connection
end Doip
