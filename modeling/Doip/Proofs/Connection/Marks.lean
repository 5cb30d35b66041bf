import Mathlib.Tactic.Common
import Doip.Proofs.Connection.Receiver

/-! What an observer of a queue notes: the frames that the receiver handles, that the caller gets and that a discard
removes (`Mark`). From his marks alone he tells which frames found one of the places (`Mark.admitted`), and where
the marks of one stretch end those of the next go on with the frames that wait in between
(`Mark.admitted_append`, `Mark.admitted_shift`). -/

namespace Doip

/-- What an observer of a session notes about a frame. -/
inductive Mark
  /-- The receiver has cut it out of the stream and handles it. -/
  | dispatched (m : Message)
  /-- The caller gets it. -/
  | received (m : Message)
  /-- A discard removes it. -/
  | discarded (m : Message)
deriving DecidableEq

namespace Mark

def dispatched? : Mark → Option Message
  | dispatched m => some m
  | _ => none

/-- The frame that leaves the queue. -/
def leaves? : Mark → Option Message
  | dispatched _ => none
  | received m => some m
  | discarded m => some m

/-- The frames that find a place: those for the caller at whose turn fewer wait than there are places. So many have
come in and so many have gone out before. -/
def admitted : (came gone : Nat) → List Mark → List Message
  | _, _, [] => []
  | came, gone, dispatched m :: h =>
    if Stream.forwards m && came < gone + queueDepth then m :: admitted (came + 1) gone h else admitted came gone h
  | came, gone, received _ :: h => admitted came (gone + 1) h
  | came, gone, discarded _ :: h => admitted came (gone + 1) h

/-- The frames that have found a place, over a whole session. -/
def admits (h : List Mark) : List Message := admitted 0 0 h

/-- What the receiver has handled, in this order. -/
def dispatches (h : List Mark) : List Message := h.filterMap dispatched?

/-- The frames that have left, in the order in which they did. -/
def leavings (h : List Mark) : List Message := h.filterMap leaves?

variable {came gone n : Nat} {m : Message} {ms : List Message} {h h' : List Mark}

@[simp] theorem leavings_cons_dispatched (m : Message) (h : List Mark) :
    leavings (.dispatched m :: h) = leavings h := rfl

@[simp] theorem leavings_cons_received (m : Message) (h : List Mark) :
    leavings (.received m :: h) = m :: leavings h := rfl

@[simp] theorem leavings_cons_discarded (m : Message) (h : List Mark) :
    leavings (.discarded m :: h) = m :: leavings h := rfl

@[simp] theorem dispatches_cons_dispatched (m : Message) (h : List Mark) :
    dispatches (.dispatched m :: h) = m :: dispatches h := rfl

theorem leavings_dispatched (ms : List Message) : leavings (ms.map .dispatched) = [] := by
  induction ms with
  | nil => rfl
  | cons m ms ih => exact ih

theorem leavings_received (ms : List Message) : leavings (ms.map .received) = ms := by
  induction ms with
  | nil => rfl
  | cons m ms ih => exact congrArg (m :: ·) ih

theorem leavings_discarded (ms : List Message) : leavings (ms.map .discarded) = ms := by
  induction ms with
  | nil => rfl
  | cons m ms ih => exact congrArg (m :: ·) ih

theorem dispatches_dispatched (ms : List Message) : dispatches (ms.map .dispatched) = ms := by
  induction ms with
  | nil => rfl
  | cons m ms ih => exact congrArg (m :: ·) ih

theorem dispatches_received (ms : List Message) : dispatches (ms.map .received) = [] := by
  induction ms with
  | nil => rfl
  | cons m ms ih => exact ih

theorem dispatches_discarded (ms : List Message) : dispatches (ms.map .discarded) = [] := by
  induction ms with
  | nil => rfl
  | cons m ms ih => exact ih

theorem dispatches_append (h h' : List Mark) : dispatches (h ++ h') = dispatches h ++ dispatches h' :=
  List.filterMap_append

theorem leavings_append (h h' : List Mark) : leavings (h ++ h') = leavings h ++ leavings h' :=
  List.filterMap_append

theorem admitted_received (came gone : Nat) (ms : List Message) : admitted came gone (ms.map .received) = [] := by
  induction ms generalizing gone with
  | nil => rfl
  | cons m ms ih => exact ih (gone + 1)

theorem admitted_discarded (came gone : Nat) (ms : List Message) : admitted came gone (ms.map .discarded) = [] := by
  induction ms generalizing gone with
  | nil => rfl
  | cons m ms ih => exact ih (gone + 1)

/-- Of frames that are handled one behind the other the first find a place, as far as there is room. -/
theorem admitted_dispatched (hle : n ≤ queueDepth) (ms : List Message) :
    admitted n 0 (ms.map .dispatched) = (ms.filter Stream.forwards).take (queueDepth - n) := by
  induction ms generalizing n with
  | nil => simp [admitted]
  | cons m ms ih =>
    cases hf : Stream.forwards m with
    | false => simp [admitted, hf, ih hle]
    | true =>
      rcases Nat.lt_or_eq_of_le hle with hlt | rfl
      · have hroom : queueDepth - n = queueDepth - (n + 1) + 1 := by omega
        simp [admitted, hf, hlt, ih hlt, hroom]
      · simp [admitted, hf, ih (Nat.le_refl _)]

theorem admitted_shift (came gone n : Nat) (h : List Mark) :
    admitted (came + n) (gone + n) h = admitted came gone h := by
  induction h generalizing came gone with
  | nil => rfl
  | cons mark h ih =>
    cases mark with
    | dispatched m =>
      have hroom : came + n < gone + n + queueDepth ↔ came < gone + queueDepth := by omega
      have hnext := ih (came + 1) gone
      rw [Nat.add_right_comm] at hnext
      simp only [admitted, hroom, hnext, ih]
    | received m =>
      have hnext := ih came (gone + 1)
      rwa [Nat.add_right_comm] at hnext
    | discarded m =>
      have hnext := ih came (gone + 1)
      rwa [Nat.add_right_comm] at hnext

theorem admitted_append (came gone : Nat) (h h' : List Mark) :
    admitted came gone (h ++ h') =
      admitted came gone h ++ admitted (came + (admitted came gone h).length) (gone + (leavings h).length) h' := by
  induction h generalizing came gone with
  | nil => rfl
  | cons mark h ih =>
    cases mark with
    | dispatched m =>
      rw [List.cons_append, admitted, admitted, leavings_cons_dispatched]
      split
      · rw [ih, List.cons_append, List.length_cons, Nat.add_right_comm, Nat.add_assoc came]
      · rw [ih]
    | received m =>
      rw [List.cons_append, admitted, admitted, ih, leavings_cons_received, List.length_cons, Nat.add_right_comm,
        Nat.add_assoc gone]
    | discarded m =>
      rw [List.cons_append, admitted, admitted, ih, leavings_cons_discarded, List.length_cons, Nat.add_right_comm,
        Nat.add_assoc gone]

theorem admitted_sublist (came gone : Nat) (h : List Mark) :
    (admitted came gone h).Sublist ((dispatches h).filter Stream.forwards) := by
  induction h generalizing came gone with
  | nil => exact .refl _
  | cons mark h ih =>
    cases mark with
    | dispatched m =>
      rw [admitted, dispatches_cons_dispatched, List.filter_cons]
      cases hf : Stream.forwards m with
      | false => exact ih came gone
      | true =>
        by_cases hroom : came < gone + queueDepth
        · simpa [hroom] using ih (came + 1) gone
        · simpa [hroom] using (ih came gone).cons m
    | received m => exact ih came (gone + 1)
    | discarded m => exact ih came (gone + 1)

theorem admitted_eq_of_room
    (hroom : ∀ h₁ m h₂, h = h₁ ++ .dispatched m :: h₂ → Stream.forwards m = true →
      came + (admitted came gone h₁).length < gone + (leavings h₁).length + queueDepth) :
    admitted came gone h = (dispatches h).filter Stream.forwards := by
  induction h generalizing came gone with
  | nil => rfl
  | cons mark h ih =>
    -- the room behind one more mark, for the rest of the marks
    have hlater := fun h₁ m h₂ (hh : h = h₁ ++ .dispatched m :: h₂) =>
      hroom (mark :: h₁) m h₂ (by rw [hh]; rfl)
    cases mark with
    | dispatched m =>
      rw [admitted, dispatches_cons_dispatched, List.filter_cons]
      cases hf : Stream.forwards m with
      | false => exact ih fun h₁ m' h₂ hh hm' => by simpa [admitted, hf] using hlater h₁ m' h₂ hh hm'
      | true =>
        have hnow : came < gone + queueDepth := hroom [] m h rfl hf
        have htail : admitted (came + 1) gone h = (dispatches h).filter Stream.forwards := by
          refine ih fun h₁ m' h₂ hh hm' => ?_
          have hroom' := hlater h₁ m' h₂ hh hm'
          simp only [admitted, hf, hnow, decide_true, Bool.and_true, if_true, List.length_cons,
            leavings_cons_dispatched] at hroom'
          omega
        simp [hnow, htail]
    | received m =>
      refine ih fun h₁ m' h₂ hh hm' => ?_
      have hroom' := hlater h₁ m' h₂ hh hm'
      simp only [admitted, leavings_cons_received, List.length_cons] at hroom'
      omega
    | discarded m =>
      refine ih fun h₁ m' h₂ hh hm' => ?_
      have hroom' := hlater h₁ m' h₂ hh hm'
      simp only [admitted, leavings_cons_discarded, List.length_cons] at hroom'
      omega

end Mark
end Doip
