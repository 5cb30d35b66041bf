import Mathlib.Tactic.Common
import Doip.Timer.Basic

/-! The waits of a timer by key. Beginning and ending a wait leaves those under other keys alone, and time
and stops change every wait but never which keys there are. -/

namespace Doip.Timer

variable {t : Timer} {key key' : Nat}

theorem wait?_arm (h : t.wait? key = none) (timeout : Nat) :
    (t.arm key timeout).wait? key = some { key, remaining := timeout } := by
  unfold wait? at h ⊢
  rw [arm, List.find?_append, h]
  simp

theorem wait?_arm_of_ne (h : key' ≠ key) (timeout : Nat) :
    (t.arm key timeout).wait? key' = t.wait? key' := by
  unfold wait? arm
  have hnew : List.find? (fun w => decide (w.key = key')) [{ key, remaining := timeout : Wait }] = none := by
    simpa using fun heq => h heq.symm
  rw [List.find?_append, hnew, Option.or_none]

theorem wait?_finish (t : Timer) (key : Nat) : (t.finish key).wait? key = none := by
  unfold wait? finish
  rw [List.find?_eq_none]
  intro w hw
  simpa using (List.mem_filter.1 hw).2

theorem wait?_finish_of_ne (h : key' ≠ key) : (t.finish key).wait? key' = t.wait? key' := by
  unfold wait? finish
  rw [List.find?_filter]
  congr 1
  funext w
  rcases eq_or_ne w.key key' with hk | hk
  · simp [hk, h]
  · simp [hk]

/-- A change of every wait that keeps the keys reaches the wait under each key. -/
theorem wait?_map (f : Wait → Wait) (hf : ∀ w, (f w).key = w.key) (phase : TimerPhase) :
    wait? ⟨phase, t.waits.map f⟩ key = (t.wait? key).map f := by
  unfold wait?
  rw [List.find?_map]
  congr 2
  funext w
  simp [hf]

theorem wait?_elapse (t : Timer) (ms key : Nat) :
    (t.elapse ms).wait? key = (t.wait? key).map (Wait.elapse ms) :=
  wait?_map (Wait.elapse ms) (fun _ => rfl) t.phase

theorem isSome_wait?_stop (t : Timer) (key : Nat) : (t.stop.wait? key).isSome = (t.wait? key).isSome := by
  unfold stop
  split
  · rw [wait?_map (fun w => { w with stopped := true }) fun _ => rfl, Option.isSome_map]
  · rfl

end Doip.Timer
