import Doip.Proofs.Connection.Sessions

/-! The end of a connection. A disconnect closes the connection first, then waits for its socket, and sets the state
last, so what the receivers make of the far end in between is not recorded (`performAll_outside_state`), and what they
make of it later neither (`Ended.performAll`). On a connection that has ended a request is not sent, a response is not
waited for, and another disconnect finds nothing to do (`disconnect_final`). -/

namespace Doip.Connection

/-- What happens to a connection without its owner: the far end sends and breaks off, receivers of the current and of
earlier streams handle it, and the connection is closed from outside. -/
def Doing.isOutside : Doing → Bool
  | .arrive _ => true
  | .arriveFormer _ _ => true
  | .close => true
  | .noticeClosed => true
  | .sever => true
  | _ => false

def disconnectDuring (c : Connection) (during : List Doing) : Connection :=
  (c.beginDisconnect.performAll during).finishDisconnect

variable {c : Connection} {d : Doing} {ds during : List Doing}

/-! From when it is closed on. -/

theorem performAll_closed (hc : c.closed = true) (ds : List Doing) : (c.performAll ds).closed = true := by
  induction ds generalizing c with
  | nil => exact hc
  | cons d ds ih => exact ih (perform_closed hc d)

theorem perform_outside_state (hc : c.closed = true) (hd : d.isOutside = true) :
    (c.perform d).1.state = c.state := by
  cases d with
  | arrive a =>
    simp only [perform, arrive]
    split
    · rfl
    · simp only [hc, Bool.not_true, Bool.and_false, Bool.false_eq_true, if_false]
  | arriveFormer i a =>
    simp only [perform, arriveFormer]
    split
    · rfl
    · simp only [hc, Bool.not_true, Bool.and_false, Bool.false_eq_true, if_false]
  | close => rfl
  | noticeClosed =>
    simp only [perform, noticeClosed]
    split <;> rfl
  | sever => rfl
  | _ => cases hd

theorem performAll_outside_state (hc : c.closed = true) (hds : ∀ d ∈ ds, d.isOutside = true) :
    (c.performAll ds).state = c.state := by
  induction ds generalizing c with
  | nil => rfl
  | cons d ds ih =>
    obtain ⟨hd, hds⟩ := List.forall_mem_cons.1 hds
    exact (ih (perform_closed hc d) hds).trans (perform_outside_state hc hd)

/-! From the end on. -/

/-- The connection is taken down: closed, without a stream, and nothing that came is kept. -/
structure Ended (c : Connection) : Prop where
  closed : c.closed = true
  state : c.state = .disconnected
  stream : c.stream = none
  early : c.early = []

theorem ended_finishDisconnect (hc : c.closed = true) : c.finishDisconnect.Ended := ⟨hc, rfl, rfl, rfl⟩

theorem ended_disconnectDuring (c : Connection) (during : List Doing) : (c.disconnectDuring during).Ended :=
  ended_finishDisconnect (performAll_closed rfl during)

namespace Ended

theorem pending (h : c.Ended) : c.pending = [] := by
  rw [Connection.pending, h.stream]
  rfl

theorem perform (h : c.Ended) (hd : d.isOutside = true) : (c.perform d).1.Ended := by
  have hclosed := perform_closed h.closed d
  have hstate := (perform_outside_state h.closed hd).trans h.state
  cases d with
  | arrive a =>
    have hsame : c.arrive a = c := by simp only [arrive, h.stream]
    rw [Connection.perform, hsame]
    exact h
  | arriveFormer i a =>
    refine ⟨hclosed, hstate, ?_, ?_⟩
    · simp only [Connection.perform, Connection.arriveFormer]
      split <;> exact h.stream
    · simp only [Connection.perform, Connection.arriveFormer]
      split <;> exact h.early
  | close => exact ⟨rfl, h.state, h.stream, h.early⟩
  | noticeClosed =>
    refine ⟨hclosed, hstate, ?_, ?_⟩
    · simp only [Connection.perform, Connection.noticeClosed, if_pos h.closed, h.stream, Option.map_none]
    · simp only [Connection.perform, Connection.noticeClosed, if_pos h.closed, h.early]
  | sever => exact ⟨h.closed, h.state, congrArg (Option.map _) h.stream, h.early⟩
  | _ => cases hd

theorem performAll (h : c.Ended) (hds : ∀ d ∈ ds, d.isOutside = true) : (c.performAll ds).Ended := by
  induction ds generalizing c with
  | nil => exact h
  | cons d ds ih =>
    obtain ⟨hd, hds⟩ := List.forall_mem_cons.1 hds
    exact ih (h.perform hd) hds

theorem send (h : c.Ended) (data : Bytes) : c.send data = (c, .error .notActivated) := by
  have hst : c.state ≠ .activated := by rw [h.state]; decide
  simp only [Connection.send, requestFrame, if_pos hst]

theorem beginResponse (h : c.Ended) : c.beginResponse = (c, some (.error .connectionLost)) := by
  have hst : c.state ≠ .activated := by rw [h.state]; decide
  simp only [Connection.beginResponse, h.early, if_pos hst]

theorem finishDisconnect (h : c.Ended) : c.finishDisconnect = c := by
  obtain ⟨settings, server, state, closed, dial, stream, former, early⟩ := c
  obtain ⟨-, rfl, rfl, rfl⟩ := h
  exact congrArg (fun former => Connection.mk settings server .disconnected closed dial none former [])
    (List.append_nil former)

theorem beginDisconnect (h : c.Ended) : c.beginDisconnect = c := by
  obtain ⟨settings, server, state, closed, dial, stream, former, early⟩ := c
  obtain ⟨rfl, -, -, -⟩ := h
  rfl

theorem disconnectDuring (h : c.Ended) (hduring : ∀ d ∈ during, d.isOutside = true) :
    c.disconnectDuring during = c.performAll during := by
  rw [Connection.disconnectDuring, h.beginDisconnect, (h.performAll hduring).finishDisconnect]

end Ended

/-- Whatever a connection has come to and whatever its receivers still handle while it is disconnected: no loss is
recorded any more, and in the end it is disconnected with nothing left in it. Nothing that happens at the far end
later changes that. A request is refused and a response is given up at once, and neither these nor further disconnects
change anything. -/
theorem disconnect_final (c : Connection) {during after again : List Doing}
    (hduring : ∀ d ∈ during, d.isOutside = true) (hafter : ∀ d ∈ after, d.isOutside = true)
    (hagain : ∀ d ∈ again, d.isOutside = true) :
    let gone := c.disconnectDuring during
    let later := gone.performAll after
    (c.beginDisconnect.performAll during).state = c.state ∧
      (gone.state = .disconnected ∧ gone.pending = [] ∧ gone.early = []) ∧
      (later.state = .disconnected ∧ later.pending = [] ∧ later.early = []) ∧
      (∀ data, later.send data = (later, .error .notActivated)) ∧
      later.beginResponse = (later, some (.error .connectionLost)) ∧
      later.disconnect = later ∧ later.disconnectDuring again = later.performAll again := by
  intro gone later
  have hgone : gone.Ended := ended_disconnectDuring c during
  have hlater : later.Ended := hgone.performAll hafter
  have hstate : (c.beginDisconnect.performAll during).state = c.beginDisconnect.state :=
    performAll_outside_state rfl hduring
  have hrepeated : later.disconnectDuring [] = later.performAll [] := hlater.disconnectDuring (List.forall_mem_nil _)
  exact ⟨hstate, ⟨hgone.state, hgone.pending, hgone.early⟩, ⟨hlater.state, hlater.pending, hlater.early⟩, hlater.send,
    hlater.beginResponse, hrepeated, hlater.disconnectDuring hagain⟩

/-- An activated connection with a response in its queue and one set aside, and with an earlier receiver that still
runs. -/
def laden : Connection :=
  { firstSession with
    state := .activated
    stream := some { queue := [lateResponse] }
    former := [{ attended := false }]
    early := [[0x7E, 0x00]] }

def losses : List Doing := [.arriveFormer 0 .endOfStream, .arrive .failure, .noticeClosed]

/-- The losses fault the connection, but not while it is disconnected and not afterwards. -/
theorem disconnect_amid_losses :
    (∀ d ∈ losses, d.isOutside = true) ∧ (laden.performAll losses).state = .faulted ∧
      let later := (laden.disconnectDuring losses).performAll losses
      (laden.beginDisconnect.performAll losses).state = .activated ∧
        (later.state = .disconnected ∧ later.pending = [] ∧ later.early = []) ∧
        later.beginResponse = (later, some (.error .connectionLost)) ∧
        later.disconnectDuring losses = later.performAll losses := by
  have houtside : ∀ d ∈ losses, d.isOutside = true := by simp [losses, Doing.isOutside]
  obtain ⟨hstate, -, hlater, -, hreceive, -, hagain⟩ := disconnect_final laden houtside houtside houtside
  exact ⟨houtside, rfl, hstate, hlater, hreceive, hagain⟩

end Doip.Connection
