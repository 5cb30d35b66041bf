import Doip.Connection.Basic
import Doip.Proofs.Connection.Receiver

/-! How a caller waits for a frame. A search leaves the end of the queue behind the first frame it accepts
(`search_rest_suffix`), and a wait that looks at a queue is decided by the frames in it before the end of the
stream or its time matter (`poll_eq`). -/

namespace Doip

namespace Stream

theorem search_rest_suffix {α : Type} (select : Message → Selection α) (ms : List Message) :
    (search select ms).2.2 <:+ ms := by
  induction ms with
  | nil => exact List.suffix_refl _
  | cons m ms ih =>
    simp only [search]
    cases select m with
    | accept a => exact List.suffix_cons m ms
    | setAside data => exact ih.trans (List.suffix_cons m ms)
    | drop => exact ih.trans (List.suffix_cons m ms)

theorem search_rest {α : Type} {select : Message → Selection α} {ms : List Message}
    (h : (search select ms).1 = none) : (search select ms).2.2 = [] := by
  induction ms with
  | nil => rfl
  | cons m ms ih =>
    simp only [search] at h ⊢
    cases hm : select m with
    | accept a =>
      rw [hm] at h
      cases h
    | setAside data =>
      rw [hm] at h
      exact ih h
    | drop =>
      rw [hm] at h
      exact ih h

end Stream

namespace Connection

/-- The frames that wait for the caller on the current stream. -/
def pending (k : Connection) : List Message := (k.stream.map (·.queue)).getD []

theorem pending_eq {k : Connection} {s : Stream} (h : k.stream = some s) : k.pending = s.queue := by
  rw [pending, h]
  rfl

variable {α : Type} {c : Connection} {s : Stream} {w : Wait} {select : Message → Stream.Selection α}

/-- A connection whose queue has been searched. -/
def searched (c : Connection) (s : Stream) (select : Message → Stream.Selection α) : Connection :=
  { c with stream := some { s with queue := (Stream.search select s.queue).2.2 } }

theorem poll_eq (hs : c.stream = some s) (hw : w.stopped = false) (select : Message → Stream.Selection α) :
    c.poll w false select =
      (c.searched s select, (Stream.search select s.queue).2.1,
        match (Stream.search select s.queue).1 with
        | some a => some (.ok a)
        | none =>
          if s.receiving = false then some (.error .connectionLost)
          else if w.expired then some (.error .timeout)
          else none) := by
  obtain ⟨buffer, queue, receiving, attended, written, broken, shut⟩ := s
  unfold poll
  simp only [hs, hw, Bool.or_false, Bool.false_eq_true, if_false]
  cases (Stream.search select queue).1 with
  | some a => rfl
  | none =>
    cases receiving with
    | false => rfl
    | true => cases w.expired <;> rfl

theorem poll_cancelled {shutDown : Bool} (hs : c.stream = some s) (hw : (shutDown || w.stopped) = true) :
    c.poll w shutDown select = (c, [], some (.error .cancelled)) := by
  unfold poll
  simp only [hs, hw, if_true]

theorem poll_without_stream {shutDown : Bool} (hs : c.stream = none) :
    c.poll w shutDown select = (c, [], some (.error .connectionLost)) := by
  unfold poll
  simp only [hs]

theorem poll_connection (c : Connection) (w : Wait) (shutDown : Bool) (select : Message → Stream.Selection α) :
    (c.poll w shutDown select).1 = c ∨
      ∃ s, c.stream = some s ∧ (c.poll w shutDown select).1 = c.searched s select := by
  cases hs : c.stream with
  | none => exact .inl (by rw [poll_without_stream hs])
  | some s =>
    cases hw : shutDown || w.stopped with
    | true => exact .inl (by rw [poll_cancelled hs hw])
    | false =>
      obtain ⟨rfl, hst⟩ : shutDown = false ∧ w.stopped = false := by simpa using hw
      exact .inr ⟨s, rfl, by rw [poll_eq hs hst]⟩

end Connection
end Doip
