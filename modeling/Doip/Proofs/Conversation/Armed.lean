import Doip.Proofs.Conversation.Tidy

/-! The timer of a conversation while its worker runs. A wait that is under way is armed or has been stopped, and
nothing of a stop is left behind when no call waits (`Served.armed`). So a stop reaches the call that waits, and
only that one. -/

namespace Doip

theorem Call.holds_of_isWaiting {call : Call} (h : call.isWaiting = true) : call.holds = true := by
  cases call with
  | connect target host point => cases point <;> first | rfl | cases h
  | request data point => cases point <;> first | rfl | cases h
  | _ => cases h

namespace Timer

variable {t : Timer} {key : Nat}

/-- A stop would reach every wait, or has reached it, and none is left over. -/
structure Armed (t : Timer) : Prop where
  idle : t.waits = [] → t.phase = .idle
  hears : ∀ wait ∈ t.waits, t.phase = .armed ∨ wait.stopped = true

theorem armed_arm (t : Timer) (key timeout : Nat) : (t.arm key timeout).Armed :=
  ⟨fun h => absurd h (List.concat_ne_nil _ _), fun _ _ => .inl rfl⟩

theorem finish_waits (hkeys : ∀ wait ∈ t.waits, wait.key = key) : (t.finish key).waits = [] :=
  List.filter_eq_nil_iff.2 fun wait hwait => by simp [hkeys wait hwait]

theorem armed_finish (hkeys : ∀ wait ∈ t.waits, wait.key = key) : (t.finish key).Armed := by
  refine ⟨fun _ => rfl, fun wait hwait => ?_⟩
  rw [finish_waits hkeys] at hwait
  cases hwait

theorem Armed.stop (h : t.Armed) : t.stop.Armed := by
  unfold Timer.stop
  split
  · rename_i harmed
    refine ⟨fun hnone => ?_, fun wait hwait => ?_⟩
    · rw [h.idle (List.map_eq_nil_iff.1 hnone)] at harmed
      cases harmed
    · obtain ⟨_, -, rfl⟩ := List.mem_map.1 hwait
      exact .inr rfl
  · exact h

theorem Armed.elapse (h : t.Armed) (ms : Nat) : (t.elapse ms).Armed := by
  refine ⟨fun hnone => h.idle (List.map_eq_nil_iff.1 hnone), fun wait hwait => ?_⟩
  obtain ⟨wait', hwait', rfl⟩ := List.mem_map.1 hwait
  exact h.hears wait' hwait'

/-- Every wait that is under way hears a stop. -/
theorem Armed.stopped (h : t.Armed) : ∀ wait ∈ t.stop.waits, wait.stopped = true := by
  intro wait hwait
  unfold Timer.stop at hwait
  split at hwait
  · obtain ⟨_, -, rfl⟩ := List.mem_map.1 hwait
    rfl
  · rename_i hunarmed
    exact (h.hears wait hwait).resolve_left hunarmed

theorem mem_of_wait? {wait : Wait} (h : t.wait? key = some wait) : wait ∈ t.waits := List.mem_of_find?_eq_some h

theorem isSome_wait?_of_mem {wait : Wait} (h : wait ∈ t.waits) : (t.wait? wait.key).isSome = true :=
  List.find?_isSome.2 ⟨wait, h, by simp⟩

end Timer

namespace Conversation

variable {w : Worker} {id : Nat} {c c' : Conversation}

theorem Reachable.waiter (h : Reachable c) {wait : Wait} (hwait : wait ∈ c.timer.waits) :
    c.holder = some wait.key := by
  have hwaits : c.waits wait.key = true := by rw [← h.sound.timed, Timer.isSome_wait?_of_mem hwait]
  refine h.exclusive wait.key ?_
  obtain ⟨t, ht, hwaiting⟩ := (Option.any_eq_true _ _).1 hwaits
  rw [holds_eq ht, Call.holds_of_isWaiting hwaiting]

/-- A call that alone may wait arms its own wait and ends it. -/
theorem Moves.armed (h : Moves id c c') (harmed : c.timer.Armed) (hkeys : ∀ wait ∈ c.timer.waits, wait.key = id) :
    c'.timer.Armed ∧ ∀ wait ∈ c'.timer.waits, wait.key = id := by
  induction h with
  | refl => exact ⟨harmed, hkeys⟩
  | tail _ hm ih =>
    obtain ⟨harmed, hkeys⟩ := ih
    cases hm with
    | arm timeout =>
      refine ⟨Timer.armed_arm _ id timeout, fun wait hwait => ?_⟩
      rcases List.mem_append.1 hwait with hold | hnew
      · exact hkeys wait hold
      · rw [List.mem_singleton.1 hnew]
    | finish =>
      refine ⟨Timer.armed_finish hkeys, fun wait hwait => ?_⟩
      rw [show _ = [] from Timer.finish_waits hkeys] at hwait
      cases hwait
    | stop =>
      refine ⟨harmed.stop, fun wait hwait => ?_⟩
      simp only [Timer.stop] at hwait
      split at hwait
      · obtain ⟨wait', hwait', rfl⟩ := List.mem_map.1 hwait
        exact hkeys wait' hwait'
      · exact hkeys wait hwait
    | _ => exact ⟨harmed, hkeys⟩

theorem Reachable.armed_advance (h : Reachable c) (harmed : c.timer.Armed) (w : Worker) (id : Nat) :
    (c.advance w id).timer.Armed := by
  cases ht : c.threads[id]? with
  | none => rwa [advance_ended (by rw [ht]; intro t h; cases h)]
  | some t =>
    rw [advance_eq ht]
    by_cases hbusy : ∃ j, c.holder = some j ∧ j ≠ id
    · -- Another call has the slot, and all this one can do to the timer is to stop it.
      obtain ⟨j, hj, hne⟩ := hbusy
      have hfree : t.call.holds = false := by
        by_contra hself
        have hmine := h.exclusive id (by rw [holds_eq ht]; simpa using hself)
        exact hne (Option.some.inj (hj.symm.trans hmine))
      rcases (stepCall_bystands hj hne w t.inside t.call hfree).timer with hsame | hstop
      · exact hsame ▸ harmed
      · exact hstop ▸ harmed.stop
    · refine ((stepCall_moves w id t.inside c t.call).armed harmed fun wait hwait => ?_).1
      by_contra hne
      exact hbusy ⟨wait.key, h.waiter hwait, hne⟩

theorem Served.armed (h : Served c) : c.timer.Armed := by
  induction h with
  | fresh settings version servers running => exact ⟨fun _ => rfl, fun wait hwait => by cases hwait⟩
  | @apply c h e he ih =>
    cases e with
    | advance id => exact h.reachable.armed_advance ih {} id
    | elapse ms => exact ih.elapse ms
    | shutDown => cases he
    | dropTasks => cases he
    | _ => exact ih

/-- The timer of a conversation on which no call waits is as new. -/
theorem Served.timer_eq (h : Served c) (hnone : ∀ id, c.waits id = false) : c.timer = {} := by
  have hwaits : c.timer.waits = [] := by
    refine List.eq_nil_iff_forall_not_mem.2 fun wait hwait => ?_
    have hsome := Timer.isSome_wait?_of_mem hwait
    rw [h.reachable.sound.timed, hnone] at hsome
    cases hsome
  calc
    c.timer = ⟨c.timer.phase, c.timer.waits⟩ := rfl
    _ = {} := by rw [h.armed.idle hwaits, hwaits]

end Conversation
end Doip
