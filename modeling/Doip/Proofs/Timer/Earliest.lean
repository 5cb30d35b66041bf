import Mathlib.Data.List.MinMax
import Doip.Proofs.Timer.Watch

/-! A wait of a timer ends with the first of what can end it (`wait_ends_with_earliest`). An observer notes when the
client was shut down and when the timer was first stopped (`Span`), and lists what can end the wait in the order of
precedence (`Span.causes`). As long as time does not run past any of it, the wait is exactly what he has noted
(`Pending`), and a look ends it with the earliest cause, of two at once with the one that takes precedence. -/

namespace Doip.Timer

variable {α : Type}

/-- What an observer of a wait knows. -/
structure Span (α : Type) where
  start : Nat
  timeout : Nat
  /-- When what it waits for will be there, if ever, and what it is. -/
  future : Option (Nat × α)
  shutDownAt : Option Nat := none
  stoppedAt : Option Nat := none
  now : Nat
  /-- Time has been let pass, if only none. -/
  passed : Bool := false

namespace Span

def begin (v : Watch α) (timeout : Nat) (future : Option (Nat × α)) : Span α where
  start := v.clock
  timeout := timeout
  future := future.map fun f => (v.clock + f.1, f.2)
  shutDownAt := if v.shutDown then some v.clock else none
  now := v.clock

def note (s : Span α) : Act α → Span α
  | .stop => { s with stoppedAt := s.stoppedAt <|> some s.now }
  | .shutDown => { s with shutDownAt := s.shutDownAt <|> some s.now }
  | .pass ms => { s with now := s.now + ms, passed := true }
  | _ => s

def noteAll (s : Span α) (as : List (Act α)) : Span α := as.foldl note s

/-- What can end the wait, with when it does and how. Of two at the same time the first takes precedence. -/
def causes (s : Span α) : List (Nat × Except TimerOutcome α) :=
  (s.shutDownAt.map fun t => (t, .error .cancelled)).toList ++
    ((s.stoppedAt.map fun t => (t, .error .cancelled)).toList ++
      ((s.future.map fun f => (f.1, .ok f.2)).toList ++ [(s.start + s.timeout, .error .timedOut)]))

/-- Something has come that ends the wait. Its time is not over before time has been let pass. -/
def Due (s : Span α) : Prop :=
  ∃ c ∈ s.causes, c.1 ≤ s.now ∧ (c.2 = .error .timedOut → s.passed = true)

/-- The wait that an observer expects in the timer. -/
def wait (s : Span α) (key : Nat) : Wait where
  key := key
  remaining := s.start + s.timeout - s.now
  expired := s.passed && s.start + s.timeout ≤ s.now
  stopped := s.stoppedAt.isSome

def phase (s : Span α) : TimerPhase := if s.stoppedAt.isSome then .cancelRequested else .armed

end Span

/-- While a wait is pending, time does not pass beyond anything that ends it. -/
def Prompt (v : Watch α) (s : Span α) : List (Act α) → Prop
  | [] => True
  | a :: as =>
    (∀ ms, a = .pass ms → v.timer.waits ≠ [] → ∀ c ∈ s.causes, s.now + ms ≤ c.1) ∧ Prompt (v.step a) (s.note a) as

/-! Histories in which every wait is looked at until it ends. -/

def Act.drops : Act α → Bool
  | .drop _ => true
  | _ => false

def Act.begins : Act α → Bool
  | .begin _ _ => true
  | _ => false

def Watch.Rests (v : Watch α) : Prop := v.timer.waits = [] → v.timer.phase = .idle

namespace Watch

variable {v : Watch α}

theorem Rests.step (hv : v.Rests) {a : Act α} (ha : a.drops = false) : (v.step a).Rests := by
  cases a with
  | begin timeout future =>
    intro hnone
    simp [Watch.step, Timer.arm] at hnone
  | look key =>
    rcases v.look_cases key with hsame | ⟨w, -, result, -, -, hend⟩
    · rwa [Watch.step, hsame]
    · rw [Watch.step, hend]
      exact fun _ => rfl
  | drop key => cases ha
  | stop =>
    intro hnone
    simp only [Watch.step, Timer.stop] at hnone ⊢
    split at hnone
    · rename_i harmed
      rw [hv (List.map_eq_nil_iff.1 hnone)] at harmed
      cases harmed
    · rw [if_neg ‹_›]
      exact hv hnone
  | shutDown => exact hv
  | pass ms => exact fun hnone => hv (List.map_eq_nil_iff.1 hnone)

theorem Rests.run (hv : v.Rests) {as : List (Act α)} (has : ∀ a ∈ as, a.drops = false) : (v.run as).Rests := by
  induction as generalizing v with
  | nil => exact hv
  | cons a as ih =>
    obtain ⟨ha, hrest⟩ := List.forall_mem_cons.1 has
    exact ih (hv.step ha) hrest

end Watch

/-! The first of what can end a wait. -/

theorem argmin_cons_of_le {c : Nat × Except TimerOutcome α} {cs : List (Nat × Except TimerOutcome α)}
    (h : ∀ d ∈ cs, c.1 ≤ d.1) : (c :: cs).argmin Prod.fst = some c := by
  rw [List.argmin_cons]
  cases hmin : cs.argmin Prod.fst with
  | none => rfl
  | some d => exact if_neg (Nat.not_lt.2 (h d (List.argmin_mem hmin)))

theorem argmin_cons_of_lt {c d : Nat × Except TimerOutcome α} {cs : List (Nat × Except TimerOutcome α)}
    (hmin : cs.argmin Prod.fst = some d) (hlt : d.1 < c.1) : (c :: cs).argmin Prod.fst = some d := by
  rw [List.argmin_cons, hmin]
  exact if_pos hlt

namespace Span

variable {s : Span α} {key : Nat} {output : Option α} {result : Except TimerOutcome α}

/-- What a wait is for, as the observer knows it. -/
def output? (s : Span α) : Option α := (s.future.filter fun f => f.1 ≤ s.now).map (·.2)

theorem output?_ready {f : Nat × α} (hf : s.future = some f) (h : f.1 ≤ s.now) : s.output? = some f.2 := by
  rw [output?, hf, Option.filter_some_pos (by simpa using h)]
  rfl

theorem output?_later {f : Nat × α} (hf : s.future = some f) (h : ¬f.1 ≤ s.now) : s.output? = none := by
  rw [output?, hf, Option.filter_some_neg (by simpa using h)]
  rfl

theorem mem_causes {c : Nat × Except TimerOutcome α} :
    c ∈ s.causes ↔
      (∃ t, s.shutDownAt = some t ∧ c = (t, .error .cancelled)) ∨
      (∃ t, s.stoppedAt = some t ∧ c = (t, .error .cancelled)) ∨
      (∃ f, s.future = some f ∧ c = (f.1, .ok f.2)) ∨ c = (s.start + s.timeout, .error .timedOut) := by
  simp [causes, eq_comm]

/-- A span that time has not run past: what has come has come just now, and the rest is still to come. -/
structure Ahead (s : Span α) : Prop where
  shutDown : ∀ t, s.shutDownAt = some t → t = s.now
  stopped : ∀ t, s.stoppedAt = some t → t = s.now
  future : ∀ f, s.future = some f → s.now ≤ f.1
  timeout : s.now ≤ s.start + s.timeout

theorem Ahead.causes (hs : s.Ahead) {c : Nat × Except TimerOutcome α} (hc : c ∈ s.causes) : s.now ≤ c.1 := by
  rcases mem_causes.1 hc with ⟨t, ht, rfl⟩ | ⟨t, ht, rfl⟩ | ⟨f, hf, rfl⟩ | rfl
  · exact Nat.le_of_eq (hs.shutDown t ht).symm
  · exact Nat.le_of_eq (hs.stopped t ht).symm
  · exact hs.future f hf
  · exact hs.timeout

def found? (s : Span α) : Option (Except TimerOutcome α) := (s.wait 0).poll s.shutDownAt.isSome s.output?

theorem found?_eq (s : Span α) :
    s.found? =
      if s.shutDownAt.isSome || s.stoppedAt.isSome then some (.error .cancelled)
      else match s.output? with
        | some a => some (.ok a)
        | none => if s.passed && s.start + s.timeout ≤ s.now then some (.error .timedOut) else none := rfl

theorem Ahead.argmin (hs : s.Ahead) (hfound : s.found? = some result) :
    s.causes.argmin Prod.fst = some (s.now, result) := by
  -- a cause that comes now and has none before it is the first
  have hfirst : ∀ c cs, s.causes = c :: cs → c.1 ≤ s.now → c.2 = result →
      s.causes.argmin Prod.fst = some (s.now, result) := by
    rintro ⟨t, r⟩ cs heq hle rfl
    obtain rfl : t = s.now := Nat.le_antisymm hle (hs.causes (heq ▸ List.mem_cons_self))
    rw [heq]
    exact argmin_cons_of_le fun d hd => hs.causes (heq ▸ List.mem_cons_of_mem _ hd)
  obtain ⟨start, timeout, future, shutDownAt, stoppedAt, now, passed⟩ := s
  rw [found?_eq] at hfound
  cases shutDownAt with
  | some t => exact hfirst _ _ rfl (Nat.le_of_eq (hs.shutDown t rfl)) (by simpa using hfound)
  | none =>
    cases stoppedAt with
    | some t => exact hfirst _ _ rfl (Nat.le_of_eq (hs.stopped t rfl)) (by simpa using hfound)
    | none =>
      cases future with
      | none =>
        obtain ⟨⟨-, hover⟩, hresult⟩ : (passed = true ∧ start + timeout ≤ now) ∧ .error .timedOut = result := by
          simpa [output?] using hfound
        exact hfirst _ _ rfl hover hresult
      | some f =>
        by_cases hready : f.1 ≤ now
        · rw [output?_ready rfl hready] at hfound
          exact hfirst _ _ rfl hready (by simpa using hfound)
        · rw [output?_later rfl hready] at hfound
          obtain ⟨⟨-, hover⟩, rfl⟩ : (passed = true ∧ start + timeout ≤ now) ∧ .error .timedOut = result := by
            simpa using hfound
          obtain rfl : start + timeout = now := Nat.le_antisymm hover hs.timeout
          exact argmin_cons_of_lt List.argmin_singleton (Nat.not_le.1 hready)

theorem Ahead.isSome_found? (hs : s.Ahead) : s.found?.isSome = true ↔ s.Due := by
  obtain ⟨start, timeout, future, shutDownAt, stoppedAt, now, passed⟩ := s
  rw [found?_eq]
  cases shutDownAt with
  | some t =>
    exact iff_of_true rfl ⟨_, List.mem_cons_self, Nat.le_of_eq (hs.shutDown t rfl), fun h => by cases h⟩
  | none =>
    cases stoppedAt with
    | some t => exact iff_of_true rfl ⟨_, List.mem_cons_self, Nat.le_of_eq (hs.stopped t rfl), fun h => by cases h⟩
    | none =>
      cases future with
      | none => simp [output?, Due, Span.causes, and_comm]
      | some f =>
        by_cases hready : f.1 ≤ now
        · rw [output?_ready rfl hready]
          exact iff_of_true rfl ⟨_, List.mem_cons_self, hready, fun h => by cases h⟩
        · rw [output?_later rfl hready]
          simp [hready, Due, Span.causes, and_comm]

/-! What is noted keeps a span ahead. -/

theorem Ahead.begin (v : Watch α) (timeout : Nat) (future : Option (Nat × α)) :
    (Span.begin v timeout future).Ahead := by
  refine ⟨fun t ht => ?_, fun t ht => (by cases ht), fun f hf => ?_, Nat.le_add_right _ _⟩
  · simp only [Span.begin] at ht ⊢
    split at ht
    · exact (Option.some.inj ht).symm
    · cases ht
  · obtain ⟨f', -, rfl⟩ := Option.map_eq_some_iff.1 hf
    exact Nat.le_add_right _ _

theorem orElse_now {at? : Option Nat} {now t : Nat} (h : ∀ t, at? = some t → t = now)
    (ht : (at? <|> some now) = some t) : t = now := by
  cases at? with
  | none => exact (Option.some.inj ht).symm
  | some t' => exact h t ht

theorem Ahead.stop (hs : s.Ahead) : (s.note .stop).Ahead :=
  ⟨hs.shutDown, fun _ ht => orElse_now hs.stopped ht, hs.future, hs.timeout⟩

theorem Ahead.shutDown_note (hs : s.Ahead) : (s.note .shutDown).Ahead :=
  ⟨fun _ ht => orElse_now hs.shutDown ht, hs.stopped, hs.future, hs.timeout⟩

theorem Ahead.pass (hs : s.Ahead) {ms : Nat} (hms : ∀ c ∈ s.causes, s.now + ms ≤ c.1) :
    (s.note (.pass ms)).Ahead := by
  refine ⟨fun t ht => ?_, fun t ht => ?_, fun f hf => ?_, ?_⟩
  · refine Nat.le_antisymm ?_ (hms (t, .error .cancelled) (mem_causes.2 (.inl ⟨t, ht, rfl⟩)))
    exact Nat.le_add_right_of_le (Nat.le_of_eq (hs.shutDown t ht))
  · refine Nat.le_antisymm ?_ (hms (t, .error .cancelled) (mem_causes.2 (.inr (.inl ⟨t, ht, rfl⟩))))
    exact Nat.le_add_right_of_le (Nat.le_of_eq (hs.stopped t ht))
  · exact hms (f.1, .ok f.2) (mem_causes.2 (.inr (.inr (.inl ⟨f, hf, rfl⟩))))
  · exact hms (s.start + s.timeout, .error .timedOut) (mem_causes.2 (.inr (.inr (.inr rfl))))

end Span

/-! A wait that is pending. -/

/-- The wait under a key is the only one, and all is as the observer has noted it. -/
structure Pending (key : Nat) (before : List (Ending α)) (s : Span α) (v : Watch α) : Prop where
  ahead : s.Ahead
  clock : v.clock = s.now
  timer : v.timer = { phase := s.phase, waits := [s.wait key] }
  shutDown : v.shutDown = s.shutDownAt.isSome
  future : v.futures[key]?.join = s.future
  ended : v.ended = before

variable {key : Nat} {before : List (Ending α)} {s : Span α} {v : Watch α}

theorem Pending.begin {v₀ : Watch α} (hnone : v₀.timer.waits = []) (timeout : Nat) (future : Option (Nat × α)) :
    Pending v₀.futures.length v₀.ended (.begin v₀ timeout future) (v₀.step (.begin timeout future)) where
  ahead := .begin v₀ timeout future
  clock := rfl
  timer := by
    simp [Watch.step, arm, hnone, Span.begin, Span.phase, Span.wait]
  shutDown := by
    simp only [Watch.step, Span.begin]
    cases v₀.shutDown <;> rfl
  future := by simp [Watch.step, Span.begin]
  ended := rfl

theorem Pending.look_eq (h : Pending key before s v) :
    v.look key =
      match s.found? with
      | none => v
      | some result => { v with timer := {}, ended := before ++ [⟨key, s.now, result⟩] } := by
  have houtput : v.output? key = s.output? := by rw [Watch.output?, h.future, h.clock, Span.output?]
  have hwait : v.timer.wait? key = some (s.wait key) := by
    rw [h.timer]
    exact List.find?_cons_of_pos (by simp [Span.wait])
  have hfinish : v.timer.finish key = {} := by
    rw [h.timer]
    simp [finish, Span.wait]
  rw [Watch.look, hwait, houtput, h.shutDown, h.clock, h.ended, hfinish]
  rfl

theorem Pending.look_other (h : Pending key before s v) {key' : Nat} (hne : key' ≠ key) : v.look key' = v := by
  have hwait : v.timer.wait? key' = none := by
    rw [h.timer]
    simpa [wait?, Span.wait] using hne.symm
  rw [Watch.look, hwait]
  rfl

theorem Pending.stop (h : Pending key before s v) : Pending key before (s.note .stop) (v.step .stop) where
  ahead := h.ahead.stop
  clock := h.clock
  timer := by
    simp only [Watch.step, h.timer]
    obtain ⟨start, timeout, future, shutDownAt, stoppedAt, now, passed⟩ := s
    cases stoppedAt <;> rfl
  shutDown := h.shutDown
  future := h.future
  ended := h.ended

theorem Pending.shutDown_step (h : Pending key before s v) :
    Pending key before (s.note .shutDown) (v.step .shutDown) where
  ahead := h.ahead.shutDown_note
  clock := h.clock
  timer := h.timer
  shutDown := by
    simp only [Watch.step, Span.note]
    cases s.shutDownAt <;> rfl
  future := h.future
  ended := h.ended

theorem Pending.pass (h : Pending key before s v) {ms : Nat} (hms : ∀ c ∈ s.causes, s.now + ms ≤ c.1) :
    Pending key before (s.note (.pass ms)) (v.step (.pass ms)) where
  ahead := h.ahead.pass hms
  clock := congrArg (· + ms) h.clock
  timer := by
    have hleft : s.start + s.timeout - s.now - ms = s.start + s.timeout - (s.now + ms) := Nat.sub_sub _ _ _
    have hover : ((s.passed && decide (s.start + s.timeout ≤ s.now)) || decide (s.start + s.timeout - s.now ≤ ms)) =
        decide (s.start + s.timeout ≤ s.now + ms) := by
      rw [Bool.eq_iff_iff]
      simp only [Bool.or_eq_true, Bool.and_eq_true, decide_eq_true_eq]
      omega
    simp only [Watch.step, h.timer, elapse, List.map_cons, List.map_nil, Wait.elapse, Span.wait, Span.note, hleft,
      hover, Bool.true_and, Span.phase]
    rfl
  shutDown := h.shutDown
  future := h.future
  ended := h.ended

/-! The whole course of a wait. -/

theorem still_of_no_wait (h : v.timer = {}) {a : Act α} (ha : a.begins = false) :
    (v.step a).timer = {} ∧ (v.step a).ended = v.ended := by
  cases a with
  | begin timeout future => cases ha
  | look key =>
    have hsame : v.look key = v := by rw [Watch.look, h]; rfl
    exact ⟨by rw [Watch.step, hsame, h], by rw [Watch.step, hsame]⟩
  | drop key => exact ⟨by simp [Watch.step, h], rfl⟩
  | stop => exact ⟨by rw [Watch.step, h]; rfl, rfl⟩
  | shutDown => exact ⟨h, rfl⟩
  | pass ms => exact ⟨by rw [Watch.step, h]; rfl, rfl⟩

theorem still_run (h : v.timer = {}) {as : List (Act α)} (has : ∀ a ∈ as, a.begins = false) :
    (v.run as).timer = {} ∧ (v.run as).ended = v.ended := by
  induction as generalizing v with
  | nil => exact ⟨h, rfl⟩
  | cons a as ih =>
    obtain ⟨ha, hrest⟩ := List.forall_mem_cons.1 has
    obtain ⟨htimer, hended⟩ := still_of_no_wait h ha
    obtain ⟨htimer', hended'⟩ := ih htimer hrest
    exact ⟨htimer', hended'.trans hended⟩

/-- A look has ended the wait by what the observer had noted up to then, and the timer is as before it. -/
def Over (key : Nat) (before : List (Ending α)) (s : Span α) (v : Watch α) (as : List (Act α)) : Prop :=
  ∃ p q result, as = p ++ .look key :: q ∧ Pending key before (s.noteAll p) (v.run p) ∧
    (s.noteAll p).found? = some result ∧ (v.run as).timer = {} ∧
    (v.run as).ended = before ++ [⟨key, (s.noteAll p).now, result⟩]

theorem Over.cons {a : Act α} {as : List (Act α)} (h : Over key before (s.note a) (v.step a) as) :
    Over key before s v (a :: as) := by
  obtain ⟨p, q, result, rfl, hp, hfound, htimer, hended⟩ := h
  exact ⟨a :: p, q, result, rfl, hp, hfound, htimer, hended⟩

theorem Pending.run (h : Pending key before s v) {as : List (Act α)}
    (has : ∀ a ∈ as, a.drops = false ∧ a.begins = false) (hprompt : Prompt v s as) :
    Pending key before (s.noteAll as) (v.run as) ∨ Over key before s v as := by
  induction as generalizing v s with
  | nil => exact .inl h
  | cons a as ih =>
    obtain ⟨⟨hdrop, hbegin⟩, hrest⟩ := List.forall_mem_cons.1 has
    obtain ⟨hpass, hlater⟩ := hprompt
    have hgoes : Pending key before (s.note a) (v.step a) →
        Pending key before (s.noteAll (a :: as)) (v.run (a :: as)) ∨ Over key before s v (a :: as) :=
      fun hnext => (ih hnext hrest hlater).imp id Over.cons
    cases a with
    | begin timeout future => cases hbegin
    | drop key' => cases hdrop
    | stop => exact hgoes h.stop
    | shutDown => exact hgoes h.shutDown_step
    | pass ms => exact hgoes (h.pass (hpass ms rfl (by rw [h.timer]; simp)))
    | look key' =>
      by_cases hkey : key' = key
      · subst hkey
        have hlook := h.look_eq
        cases hfound : s.found? with
        | none =>
          rw [hfound] at hlook
          exact hgoes (by rwa [Watch.step, hlook])
        | some result =>
          rw [hfound] at hlook
          obtain ⟨htimer, hended⟩ := still_run (v := v.step (.look key')) (by rw [Watch.step, hlook])
            fun a ha => (hrest a ha).2
          refine .inr ⟨[], as, result, rfl, h, hfound, htimer, hended.trans ?_⟩
          rw [Watch.step, hlook]
          rfl
      · exact hgoes (by rwa [Watch.step, h.look_other hkey])

/-- A wait that begins when no other is pending ends with the earliest of a shutdown, a stop, what it waits for and the
end of its time, of two at once with the one that takes precedence. That needs looks in time: while the wait is
pending, time does not pass beyond any of these. The first of them that has come ends it at the next look. In the
meantime the timer is armed, or stopped once it was stopped; before and after the wait it is idle, and a stop does
nothing. Once the client is shut down, a wait is cancelled by its first look. -/
theorem wait_ends_with_earliest {earlier during : List (Act α)} (hearlier : ∀ a ∈ earlier, a.drops = false)
    (hnone : (Watch.run {} earlier).timer.waits = []) (timeout : Nat) (future : Option (Nat × α))
    (hduring : ∀ a ∈ during, a.drops = false ∧ a.begins = false)
    (hprompt : Prompt ((Watch.run {} earlier).step (.begin timeout future))
      (.begin (Watch.run {} earlier) timeout future) during) :
    let before := Watch.run {} earlier
    let key := before.futures.length
    let noted (as : List (Act α)) := (Span.begin before timeout future).noteAll as
    let after (as : List (Act α)) := before.run (.begin timeout future :: as)
    (before.timer.phase = .idle ∧ before.step .stop = before) ∧
      ((after during).timer.waits ≠ [] →
        (after during).ended = before.ended ∧
          (after during).timer.phase = (if (noted during).stoppedAt.isSome then .cancelRequested else .armed) ∧
          (∀ c ∈ (noted during).causes, (after during).clock ≤ c.1) ∧
          (((after during).step (.look key)).timer.waits = [] ↔ (noted during).Due)) ∧
      ((after during).timer.waits = [] →
        (after during).timer.phase = .idle ∧ (after during).step .stop = after during ∧
          ∃ p q result, during = p ++ .look key :: q ∧ (after p).timer.waits ≠ [] ∧
            (noted p).causes.argmin Prod.fst = some ((after p).clock, result) ∧
            (after during).ended = before.ended ++ [⟨key, (after p).clock, result⟩]) ∧
      (before.shutDown = true →
        (after [.look key]).ended = before.ended ++ [⟨key, before.clock, .error .cancelled⟩]) := by
  intro before key noted after
  have hidle : before.timer.phase = .idle :=
    Watch.Rests.run (v := {}) (fun _ => rfl) hearlier hnone
  have hbegun : Pending key before.ended (noted []) (after []) := .begin hnone timeout future
  have hpending : ∀ {s : Span α} {v : Watch α}, Pending key before.ended s v → v.timer.waits ≠ [] := fun h => by
    rw [h.timer]
    exact List.cons_ne_nil _ _
  refine ⟨⟨hidle, ?_⟩, fun hwaits => ?_, fun hwaits => ?_, fun hshut => ?_⟩
  · rw [Watch.step, stop_idle hidle]
  · have hp : Pending key before.ended (noted during) (after during) := by
      refine (hbegun.run hduring hprompt).resolve_right fun ⟨_, _, _, _, _, _, htimer, _⟩ => hwaits ?_
      exact congrArg Timer.waits htimer
    refine ⟨hp.ended, by rw [hp.timer]; rfl, fun c hc => hp.clock ▸ hp.ahead.causes hc, ?_⟩
    rw [← hp.ahead.isSome_found?, Watch.step, hp.look_eq]
    cases (noted during).found? with
    | none => exact iff_of_false hwaits (by simp)
    | some result => exact iff_of_true rfl rfl
  · obtain ⟨p, q, result, hsplit, hp, hfound, htimer, hended⟩ :=
      (hbegun.run hduring hprompt).resolve_left fun h => hpending h hwaits
    have hidle' : (after during).timer.phase = .idle := congrArg Timer.phase htimer
    have hclock : (after p).clock = (noted p).now := hp.clock
    refine ⟨hidle', by rw [Watch.step, stop_idle hidle'], p, q, result, hsplit, hpending hp, ?_, ?_⟩
    · rw [hclock]
      exact hp.ahead.argmin hfound
    · rw [hclock]
      exact hended
  · have hfound : (noted []).found? = some (.error .cancelled) := by
      simp [noted, Span.noteAll, Span.found?_eq, Span.begin, hshut]
    have hlook := hbegun.look_eq
    rw [hfound] at hlook
    show ((after []).look key).ended = _
    rw [hlook]
    rfl

def unanswered : List (Act Nat) := [.begin 5 none, .look 0, .pass 5, .look 0]

/-- The timer is stopped just when what the wait is for comes, and before its waiter looks. -/
def stoppedInTime : List (Act Nat) := [.look 1, .pass 3, .stop, .look 1, .pass 4, .stop]

/-- The stop takes precedence over what has come with it, and the stop behind the end of the wait does nothing. -/
theorem stop_precedes_future :
    ((Watch.run {} unanswered).run (.begin 10 (some (3, 7)) :: stoppedInTime)).ended =
        [⟨0, 5, .error .timedOut⟩, ⟨1, 8, .error .cancelled⟩] ∧
      ∃ p q result, stoppedInTime = p ++ .look 1 :: q ∧
        ((Span.begin (Watch.run {} unanswered) 10 (some (3, 7))).noteAll p).causes.argmin Prod.fst =
          some (((Watch.run {} unanswered).run (.begin 10 (some (3, 7)) :: p)).clock, result) ∧
        ((Watch.run {} unanswered).run (.begin 10 (some (3, 7)) :: stoppedInTime)).ended =
          [⟨0, 5, .error .timedOut⟩] ++
            [⟨1, ((Watch.run {} unanswered).run (.begin 10 (some (3, 7)) :: p)).clock, result⟩] := by
  have hprompt : Prompt ((Watch.run {} unanswered).step (.begin 10 (some (3, 7))))
      (.begin (Watch.run {} unanswered) 10 (some (3, 7))) stoppedInTime := by
    refine ⟨nofun, fun ms hms _ c hc => ?_, nofun, nofun, fun _ _ hwaits => absurd rfl hwaits, nofun, trivial⟩
    cases hms
    rcases Span.mem_causes.1 hc with ⟨t, ht, rfl⟩ | ⟨t, ht, rfl⟩ | ⟨f, hf, rfl⟩ | rfl
    · cases ht
    · cases ht
    · cases hf
      decide
    · decide
  obtain ⟨-, -, hover, -⟩ :=
    @wait_ends_with_earliest Nat unanswered stoppedInTime (by decide) rfl 10 (some (3, 7)) (by decide) hprompt
  obtain ⟨-, -, p, q, result, hsplit, -, hmin, hended⟩ := hover rfl
  exact ⟨rfl, p, q, result, hsplit, hmin, hended⟩

end Doip.Timer
