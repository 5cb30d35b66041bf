import Mathlib.Data.List.Induction
import Doip.Proofs.Timer.Watch

/-! Waits of one timer that overlap. All of them share its phase: each sets it when it begins and resets it when it ends,
whatever else is pending. So a stop is heeded as long as no wait has ended since one began (`Undisturbed`), and then it
reaches all that are pending; behind the end of any of them it is not, until another begins
(`stop_reaches_iff_undisturbed`). -/

namespace Doip.Timer

variable {α : Type}

namespace Watch

variable {v : Watch α}

/-- Keys are given out once, and a timer that was stopped has stopped all that are pending. -/
structure Sound (v : Watch α) : Prop where
  known : ∀ w ∈ v.timer.waits, w.key < v.futures.length
  distinct : v.timer.waits.Pairwise (·.key ≠ ·.key)
  past : ∀ e ∈ v.ended, e.key < v.futures.length ∧ ∀ w ∈ v.timer.waits, w.key ≠ e.key
  stopped : v.timer.phase = .cancelRequested → ∀ w ∈ v.timer.waits, w.stopped = true

theorem sound_fresh : Sound ({} : Watch α) :=
  ⟨nofun, .nil, nofun, nofun⟩

theorem length_futures_begin (v : Watch α) (timeout : Nat) (future : Option (Nat × α)) :
    (v.step (.begin timeout future)).futures.length = v.futures.length + 1 := List.length_append

theorem Sound.begin (hv : v.Sound) (timeout : Nat) (future : Option (Nat × α)) :
    (v.step (.begin timeout future)).Sound := by
  have hlen := v.length_futures_begin timeout future
  refine ⟨fun w hw => ?_, ?_, fun e he => ?_, nofun⟩
  · rw [hlen]
    rcases List.mem_append.1 hw with hold | hnew
    · exact Nat.lt_succ_of_lt (hv.known w hold)
    · rw [List.mem_singleton.1 hnew]
      exact Nat.lt_succ_self _
  · refine List.pairwise_append.2 ⟨hv.distinct, List.pairwise_singleton _ _, fun w hw w' hw' => ?_⟩
    rw [List.mem_singleton.1 hw']
    exact Nat.ne_of_lt (hv.known w hw)
  · obtain ⟨hkey, hother⟩ := hv.past e he
    refine ⟨hlen ▸ Nat.lt_succ_of_lt hkey, fun w hw => ?_⟩
    rcases List.mem_append.1 hw with hold | hnew
    · exact hother w hold
    · rw [List.mem_singleton.1 hnew]
      exact Nat.ne_of_gt hkey

theorem Sound.filter (hv : v.Sound) (keep : Wait → Bool) (phase : TimerPhase)
    (hphase : phase = .cancelRequested → v.timer.phase = .cancelRequested) :
    Sound { v with timer := { phase, waits := v.timer.waits.filter keep } } :=
  ⟨fun w hw => hv.known w (List.mem_filter.1 hw).1, hv.distinct.filter _,
    fun e he => ⟨(hv.past e he).1, fun w hw => (hv.past e he).2 w (List.mem_filter.1 hw).1⟩,
    fun h w hw => hv.stopped (hphase h) w (List.mem_filter.1 hw).1⟩

theorem Sound.map (hv : v.Sound) (f : Wait → Wait) (hf : ∀ w, (f w).key = w.key) (phase : TimerPhase)
    (hstop : phase = .cancelRequested → ∀ w ∈ v.timer.waits, (f w).stopped = true) :
    Sound { v with timer := { phase, waits := v.timer.waits.map f } } := by
  refine ⟨fun w hw => ?_, ?_, fun e he => ⟨(hv.past e he).1, fun w hw => ?_⟩, fun h w hw => ?_⟩
  · obtain ⟨w', hw', rfl⟩ := List.mem_map.1 hw
    rw [hf]
    exact hv.known w' hw'
  · exact List.pairwise_map.2 (hv.distinct.imp fun {w w'} hne => by rwa [hf, hf])
  · obtain ⟨w', hw', rfl⟩ := List.mem_map.1 hw
    rw [hf]
    exact (hv.past e he).2 w' hw'
  · obtain ⟨w', hw', rfl⟩ := List.mem_map.1 hw
    exact hstop h w' hw'

theorem Sound.look (hv : v.Sound) (key : Nat) : (v.look key).Sound := by
  rcases v.look_cases key with hsame | ⟨w, hw, result, hkey, -, hend⟩
  · rwa [hsame]
  · rw [hend]
    obtain ⟨hknown, hdistinct, hpast, hstopped⟩ := hv.filter (·.key ≠ key) .idle nofun
    refine ⟨hknown, hdistinct, fun e he => ?_, hstopped⟩
    rcases List.mem_append.1 he with hold | hnew
    · exact hpast e hold
    · obtain rfl := List.mem_singleton.1 hnew
      refine ⟨hkey ▸ hv.known w hw, fun w' hw' => ?_⟩
      simpa using (List.mem_filter.1 hw').2

theorem Sound.step (hv : v.Sound) (a : Act α) : (v.step a).Sound := by
  cases a with
  | begin timeout future => exact hv.begin timeout future
  | look key => exact hv.look key
  | drop key => exact hv.filter _ v.timer.phase id
  | stop =>
    simp only [Watch.step, Timer.stop]
    split
    · exact hv.map (fun w => { w with stopped := true }) (fun _ => rfl) _ fun _ _ _ => rfl
    · exact hv
  | shutDown => exact ⟨hv.known, hv.distinct, hv.past, hv.stopped⟩
  | pass ms =>
    obtain ⟨hknown, hdistinct, hpast, hstopped⟩ :=
      hv.map (Wait.elapse ms) (fun _ => rfl) v.timer.phase fun h w hw => hv.stopped h w hw
    exact ⟨hknown, hdistinct, hpast, hstopped⟩

theorem Sound.run (hv : v.Sound) (as : List (Act α)) : (v.run as).Sound := by
  induction as generalizing v with
  | nil => exact hv
  | cons a as ih => exact ih (hv.step a)

theorem Sound.wait?_eq (hv : v.Sound) {w : Wait} (hw : w ∈ v.timer.waits) : v.timer.wait? w.key = some w := by
  obtain ⟨before, after, hsplit⟩ := List.append_of_mem hw
  have hdistinct := hv.distinct
  rw [hsplit] at hdistinct
  rw [wait?, hsplit, List.find?_append, List.find?_cons_of_pos (by simp), List.find?_eq_none.2 fun w' hw' => ?_]
  · rfl
  · simpa using (List.pairwise_append.1 hdistinct).2.2 w' hw' w List.mem_cons_self

/-! When a stop is heeded. -/

theorem ended_step (v : Watch α) (a : Act α) : v.ended <+: (v.step a).ended := by
  cases a with
  | look key =>
    rcases v.look_cases key with hsame | ⟨w, -, result, -, -, hend⟩
    · simp only [Watch.step, hsame, List.prefix_rfl]
    · rw [Watch.step, hend]
      exact List.prefix_append _ _
  | _ => exact List.prefix_rfl

theorem ended_run (v : Watch α) (as : List (Act α)) : v.ended <+: (v.run as).ended := by
  induction as generalizing v with
  | nil => exact List.prefix_rfl
  | cons a as ih => exact (v.ended_step a).trans (ih _)

end Watch

/-- Since some wait began none has ended. -/
def Undisturbed (as : List (Act α)) : Prop :=
  ∃ p timeout future q, as = p ++ .begin timeout future :: q ∧ (Watch.run {} as).ended = (Watch.run {} p).ended

theorem not_undisturbed_nil : ¬Undisturbed ([] : List (Act α)) := by
  rintro ⟨p, timeout, future, q, hsplit, -⟩
  cases p <;> cases hsplit

theorem undisturbed_begin (as : List (Act α)) (timeout : Nat) (future : Option (Nat × α)) :
    Undisturbed (as ++ [.begin timeout future]) :=
  ⟨as, timeout, future, [], rfl, by rw [Watch.run_append]; rfl⟩

/-- An act that ends no wait leaves a timer undisturbed, and one that ends a wait does not. -/
theorem undisturbed_append {as : List (Act α)} {a : Act α} (ha : ∀ timeout future, a ≠ .begin timeout future) :
    Undisturbed (as ++ [a]) ↔
      Undisturbed as ∧ (Watch.run {} (as ++ [a])).ended = (Watch.run {} as).ended := by
  constructor
  · rintro ⟨p, timeout, future, q, hsplit, hended⟩
    rcases List.eq_nil_or_concat q with rfl | ⟨q, b, rfl⟩
    · obtain ⟨-, hlast⟩ := List.append_inj' hsplit rfl
      exact absurd (List.singleton_inj.1 hlast) (ha _ _)
    · rw [List.concat_eq_append, ← List.cons_append, ← List.append_assoc] at hsplit
      obtain ⟨rfl, -⟩ := List.append_inj' hsplit rfl
      -- what has ended lies between the two ends, which are the same
      have hfirst := Watch.ended_run (Watch.run {} p) (.begin timeout future :: q)
      have hlast := Watch.ended_run (Watch.run {} (p ++ .begin timeout future :: q)) [a]
      rw [← Watch.run_append] at hfirst hlast
      rw [hended] at hlast
      have hsame := hlast.eq_of_length_le hfirst.length_le
      exact ⟨⟨p, timeout, future, q, rfl, hsame⟩, hended.trans hsame.symm⟩
  · rintro ⟨⟨p, timeout, future, q, rfl, hended⟩, hsame⟩
    exact ⟨p, timeout, future, q ++ [a], by simp, hsame.trans hended⟩

theorem phase_ne_idle_iff (as : List (Act α)) : (Watch.run {} as).timer.phase ≠ .idle ↔ Undisturbed as := by
  induction as using List.reverseRecOn with
  | nil => exact iff_of_false (fun h => h rfl) not_undisturbed_nil
  | append_singleton as a ih =>
    have hrun : Watch.run {} (as ++ [a]) = (Watch.run {} as).step a := Watch.run_append _ _ _
    -- an act that leaves alone what has ended and whether the timer is idle
    have hstill : (∀ timeout future, a ≠ .begin timeout future) →
        ((Watch.run {} as).step a).ended = (Watch.run {} as).ended →
        (((Watch.run {} as).step a).timer.phase ≠ .idle ↔ (Watch.run {} as).timer.phase ≠ .idle) →
        ((Watch.run {} (as ++ [a])).timer.phase ≠ .idle ↔ Undisturbed (as ++ [a])) := by
      intro ha hended hphase
      rw [undisturbed_append ha, hrun, hphase, ih]
      exact (and_iff_left hended).symm
    cases a with
    | begin timeout future =>
      refine iff_of_true ?_ (undisturbed_begin as timeout future)
      rw [hrun]
      exact nofun
    | look key =>
      rcases (Watch.run {} as).look_cases key with hsame | ⟨w, -, result, -, -, hend⟩
      · exact hstill nofun (by rw [Watch.step, hsame]) (by rw [Watch.step, hsame])
      · refine iff_of_false (fun h => h ?_) fun h => ?_
        · rw [hrun, Watch.step, hend]
          rfl
        · have hended := ((undisturbed_append (a := .look key) nofun).1 h).2
          rw [hrun, Watch.step, hend] at hended
          simp at hended
    | drop key => exact hstill nofun rfl Iff.rfl
    | stop =>
      refine hstill nofun rfl ?_
      simp only [Watch.step, Timer.stop]
      split
      · rename_i harmed
        rw [harmed]
        exact iff_of_true nofun nofun
      · rfl
    | shutDown => exact hstill nofun rfl Iff.rfl
    | pass ms => exact hstill nofun rfl Iff.rfl

theorem poll_stopped {w : Wait} {shutDown : Bool} {output : Option α} (hw : (shutDown || w.stopped) = true) :
    w.poll shutDown output = some (.error .cancelled) := by
  unfold Wait.poll
  rw [if_pos hw]

theorem poll_ne_cancelled {w : Wait} {shutDown : Bool} {output : Option α} (hw : (shutDown || w.stopped) = false) :
    w.poll shutDown output ≠ some (.error .cancelled) := by
  unfold Wait.poll
  rw [if_neg (by simp [hw])]
  cases output with
  | some a => exact nofun
  | none =>
    cases w.expired
    · exact nofun
    · exact nofun

namespace Watch

variable {v : Watch α} {w : Wait} {key : Nat}

theorem Sound.look_eq (hv : v.Sound) (hw : w ∈ v.timer.waits) :
    v.look w.key =
      match w.poll v.shutDown (v.output? w.key) with
      | none => v
      | some result => { v with timer := v.timer.finish w.key, ended := v.ended ++ [⟨w.key, v.clock, result⟩] } := by
  rw [Watch.look, hv.wait?_eq hw]
  rfl

/-- The next look at a wait ends it as cancelled. -/
def Cancels (v : Watch α) (w : Wait) : Prop :=
  (v.step (.look w.key)).ended = v.ended ++ [⟨w.key, v.clock, .error .cancelled⟩]

theorem Sound.cancels_iff (hv : v.Sound) (hw : w ∈ v.timer.waits) :
    v.Cancels w ↔ (v.shutDown || w.stopped) = true := by
  rw [Cancels, Watch.step, hv.look_eq hw]
  cases hstop : v.shutDown || w.stopped with
  | true =>
    rw [poll_stopped hstop]
    exact iff_of_true rfl rfl
  | false =>
    refine iff_of_false (fun h => ?_) nofun
    have hne : w.poll v.shutDown (v.output? w.key) ≠ some (.error .cancelled) := poll_ne_cancelled hstop
    cases hpoll : w.poll v.shutDown (v.output? w.key) with
    | none => simp [hpoll] at h
    | some result =>
      rw [hpoll] at h hne
      simp at h
      exact hne (congrArg some h)

theorem Sound.mem_stop (hv : v.Sound) (hphase : v.timer.phase ≠ .idle) (hw : w ∈ v.timer.waits) :
    { w with stopped := true } ∈ (v.step .stop).timer.waits := by
  simp only [Watch.step, Timer.stop]
  cases hp : v.timer.phase with
  | idle => exact absurd hp hphase
  | armed =>
    rw [if_pos rfl]
    exact List.mem_map_of_mem hw
  | cancelRequested =>
    have hstopped := hv.stopped hp w hw
    obtain ⟨key, remaining, expired, stopped⟩ := w
    obtain rfl : stopped = true := hstopped
    exact hw

/-- A wait that is stopped, or has ended as cancelled. -/
structure Doomed (key : Nat) (v : Watch α) : Prop where
  known : key < v.futures.length
  stopped : ∀ w ∈ v.timer.waits, w.key = key → w.stopped = true
  past : ∀ e ∈ v.ended, e.key = key → e.result = .error .cancelled

theorem Doomed.step (hv : v.Doomed key) (a : Act α) : (v.step a).Doomed key := by
  obtain ⟨hknown, hstopped, hpast⟩ := hv
  cases a with
  | begin timeout future =>
    refine ⟨?_, fun w hw hkey => ?_, hpast⟩
    · rw [length_futures_begin]
      exact Nat.lt_succ_of_lt hknown
    · rcases List.mem_append.1 hw with hold | hnew
      · exact hstopped w hold hkey
      · rw [List.mem_singleton.1 hnew] at hkey
        exact absurd hkey (Nat.ne_of_gt hknown)
  | look key' =>
    rcases v.look_cases key' with hsame | ⟨w, hw, result, hwkey, hpoll, hend⟩
    · rw [Watch.step, hsame]
      exact ⟨hknown, hstopped, hpast⟩
    · rw [Watch.step, hend]
      refine ⟨hknown, fun w' hw' => hstopped w' (List.mem_filter.1 hw').1, fun e he hkey => ?_⟩
      rcases List.mem_append.1 he with hold | hnew
      · exact hpast e hold hkey
      · obtain rfl := List.mem_singleton.1 hnew
        have hwstop := hstopped w hw (hwkey.trans hkey)
        rw [poll_stopped (by simp [hwstop])] at hpoll
        exact (Option.some.inj hpoll).symm
  | drop key' => exact ⟨hknown, fun w hw => hstopped w (List.mem_filter.1 hw).1, hpast⟩
  | stop =>
    refine ⟨hknown, fun w hw hkey => ?_, hpast⟩
    simp only [Watch.step, Timer.stop] at hw
    split at hw
    · obtain ⟨w', -, rfl⟩ := List.mem_map.1 hw
      rfl
    · exact hstopped w hw hkey
  | shutDown => exact ⟨hknown, hstopped, hpast⟩
  | pass ms =>
    refine ⟨hknown, fun w hw hkey => ?_, hpast⟩
    obtain ⟨w', hw', rfl⟩ := List.mem_map.1 hw
    exact hstopped w' hw' hkey

theorem Doomed.run (hv : v.Doomed key) (as : List (Act α)) : (v.run as).Doomed key := by
  induction as generalizing v with
  | nil => exact hv
  | cons a as ih => exact ih (hv.step a)

theorem Sound.doomed (hv : v.Sound) (hphase : v.timer.phase ≠ .idle) (hw : w ∈ v.timer.waits) :
    (v.step .stop).Doomed w.key := by
  refine ⟨hv.known w hw, fun w' hw' hkey => ?_, fun e he hkey => absurd hkey.symm ((hv.past e he).2 w hw)⟩
  have hboth : w'.stopped = { w with stopped := true }.stopped := by
    have hone := (hv.step .stop).wait?_eq hw'
    have hother := (hv.step .stop).wait?_eq (hv.mem_stop hphase hw)
    rw [hkey] at hone
    exact congrArg Wait.stopped (Option.some.inj (hone.symm.trans hother))
  exact hboth

end Watch

/-- What a stop does while waits of one timer overlap. If none has ended since some wait began, it reaches all that are
pending: each is cancelled by its next look and never ends in another way. If one has ended since, the timer is idle
and the stop does nothing at all, however many are pending. So all that are pending are cancelled exactly in the first
case, and otherwise only if they were stopped before or the client was shut down. -/
theorem stop_reaches_iff_undisturbed (as : List (Act α)) :
    let v := Watch.run {} as
    (Undisturbed as → ∀ w ∈ v.timer.waits, (v.step .stop).Cancels w ∧
      ∀ later, ∀ e ∈ ((v.step .stop).run later).ended, e.key = w.key → e.result = .error .cancelled) ∧
    (¬Undisturbed as → v.step .stop = v) ∧
    ((∀ w ∈ v.timer.waits, (v.step .stop).Cancels w) ↔
      Undisturbed as ∨ v.shutDown = true ∨ ∀ w ∈ v.timer.waits, w.stopped = true) := by
  intro v
  have hv : v.Sound := Watch.sound_fresh.run as
  have hreached : Undisturbed as → ∀ w ∈ v.timer.waits, (v.step .stop).Cancels w := by
    intro h w hw
    have hstopped := hv.mem_stop ((phase_ne_idle_iff as).2 h) hw
    exact ((hv.step .stop).cancels_iff hstopped).2 (by simp)
  have hmissed : ¬Undisturbed as → v.step .stop = v := by
    intro h
    have hidle : v.timer.phase = .idle := by
      by_contra hne
      exact h ((phase_ne_idle_iff as).1 hne)
    rw [Watch.step, stop_idle hidle]
  refine ⟨fun h w hw => ⟨hreached h w hw, fun later e he hkey => ?_⟩, hmissed, ?_⟩
  · exact ((hv.doomed ((phase_ne_idle_iff as).2 h) hw).run later).past e he hkey
  · by_cases h : Undisturbed as
    · exact iff_of_true (hreached h) (.inl h)
    · rw [hmissed h, or_iff_right h]
      constructor
      · intro hall
        by_cases hshut : v.shutDown = true
        · exact .inl hshut
        · refine .inr fun w hw => ?_
          simpa [hshut] using (hv.cancels_iff hw).1 (hall w hw)
      · rintro (hshut | hstopped) w hw
        · exact (hv.cancels_iff hw).2 (by simp [hshut])
        · exact (hv.cancels_iff hw).2 (by simp [hstopped w hw])

/-- Two waits, of which the shorter one runs out. -/
def outlived : List (Act Nat) := [.begin 60 none, .look 0, .begin 5 none, .look 1, .pass 5, .look 1, .look 0, .pass 20]

/-- The longer wait is still pending and the timer idle, so a stop does not reach it: it runs out when its time is
over. -/
theorem stop_misses_longer_wait :
    ((Watch.run {} outlived).timer.waits = [{ key := 0, remaining := 35 }] ∧ ¬Undisturbed outlived) ∧
      (Watch.run {} outlived).step .stop = Watch.run {} outlived ∧
      ((Watch.run {} outlived).run [.stop, .look 0, .pass 35, .look 0]).ended =
        [⟨1, 5, .error .timedOut⟩, ⟨0, 60, .error .timedOut⟩] := by
  have hdisturbed : ¬Undisturbed outlived := fun h => (phase_ne_idle_iff outlived).2 h rfl
  exact ⟨⟨rfl, hdisturbed⟩, (stop_reaches_iff_undisturbed outlived).2.1 hdisturbed, rfl⟩

end Doip.Timer
