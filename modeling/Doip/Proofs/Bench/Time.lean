import Doip.Proofs.Bench.Line

/-! Time on a bench. When no other wait is pending and no other session holds anything back (`Calm`), time passes for
one line alone (`Around.elapse_put`), and the next thing to happen by itself happens there (`Around.next?_put`). A call
that waits until then returns behind it (`call_eq_later`). Time that passes without a call brings what is due in it
(`pass_due`), and changes nothing on a bench where nothing is (`Calm.pass`). -/

namespace Doip

namespace Entity

variable {e : Entity} {i : Nat} {s s' : Session} {seen : List Observation} {ms : Nat}

theorem withSession_self {f : Session → Session × List Observation}
    (h : ∀ s, e.sessions[i]? = some s → f s = (s, [])) : e.withSession i f = e := by
  unfold withSession
  cases hi : e.sessions[i]? with
  | none => rfl
  | some s =>
    obtain ⟨hlt, heq⟩ := List.getElem?_eq_some_iff.1 hi
    simp only [h s hi, List.append_nil]
    rw [← heq, List.set_getElem_self]

/-- Time passes for the only session that may hold something back. -/
theorem elapse_one (hi : e.sessions[i]? = some s)
    (hothers : ∀ (j : Nat) (s : Session), j ≠ i → e.sessions[j]? = some s → s.late = none)
    (helapse : s.elapse e.script ms = (s', seen)) :
    e.elapse ms = { e with sessions := e.sessions.set i s', observations := e.observations ++ seen } := by
  obtain ⟨hlt, -⟩ := List.getElem?_eq_some_iff.1 hi
  have hone : e.withSession i (·.elapse e.script ms) =
      { e with sessions := e.sessions.set i s', observations := e.observations ++ seen } := by
    simp only [withSession, hi, helapse]
  have hnothing : ∀ {e : Entity} {j : Nat}, (∀ s, e.sessions[j]? = some s → s.late = none) →
      e.withSession j (·.elapse e.script ms) = e := by
    intro e j hlate
    exact withSession_self fun s hs => Session.elapse_self (hlate s hs) ms
  rw [← hone]
  refine Bench.foldl_range_one hlt (fun j hj => hnothing fun s hs => hothers j s hj hs) fun j hj => ?_
  rw [hone]
  exact hnothing fun s hs => hothers j s hj ((List.getElem?_set_ne (Ne.symm hj)).symm.trans hs)

end Entity

theorem filterMap_eq_one {α β : Type} {f : α → Option β} {l : List α} {i : Nat} {a : α} (hi : l[i]? = some a)
    (hothers : ∀ j a, j ≠ i → l[j]? = some a → f a = none) : l.filterMap f = (f a).toList := by
  induction l generalizing i with
  | nil => cases hi
  | cons x xs ih =>
    cases i with
    | zero =>
      obtain rfl : x = a := Option.some.inj hi
      have hrest : xs.filterMap f = [] := by
        refine List.filterMap_eq_nil_iff.2 fun y hy => ?_
        obtain ⟨j, hj⟩ := List.mem_iff_getElem?.1 hy
        exact hothers (j + 1) y (Nat.succ_ne_zero j) hj
      cases hx : f x with
      | none => rw [List.filterMap_cons_none hx, hrest]; rfl
      | some y => rw [List.filterMap_cons_some hx, hrest]; rfl
    | succ i =>
      rw [List.filterMap_cons_none (hothers 0 x (Nat.succ_ne_zero i).symm rfl)]
      exact ih hi fun j y hj hy => hothers (j + 1) y (fun heq => hj (Nat.succ.inj heq)) hy

namespace Bench

variable {b b' b₁ b₂ : Bench} {l : Line} {c₀ c : Conversation} {wire : Wire} {session session' : Session}
variable {seen seen' : List Observation} {ms n n' i : Nat}

/-- Nothing will happen by itself. -/
structure Calm (b : Bench) : Prop where
  timers : ∀ (j : Nat) (c : Conversation), b.conversation? j = some c → c.timer.waits = []
  sessions : ∀ (j : Nat) (s : Session), b.entity.sessions[j]? = some s → s.late = none

instance (b : Bench) : Decidable b.Calm :=
  decidable_of_iff
    ((∀ c ∈ b.manager.conversations, c.timer.waits = []) ∧ ∀ s ∈ b.entity.sessions, s.late = none)
    ⟨fun h => ⟨fun _ c hc => h.1 c (List.mem_of_getElem? hc), fun _ s hs => h.2 s (List.mem_of_getElem? hs)⟩,
      fun h => ⟨fun c hc => (List.mem_iff_getElem?.1 hc).elim fun j => h.timers j c,
        fun s hs => (List.mem_iff_getElem?.1 hs).elim fun j => h.sessions j s⟩⟩

theorem apply_elapse_self (h : c.timer.waits = []) (w : Worker) (ms : Nat) : c.apply w (.elapse ms) = c := by
  have htimer : c.timer.elapse ms = c.timer := by rw [Timer.elapse, h, List.map_nil, ← h]
  show { c with timer := c.timer.elapse ms } = c
  rw [htimer]

theorem Calm.next? (h : b.Calm) : b.next? = none := by
  have htimers : b.manager.conversations.filterMap (·.timer.nextExpiry?) = [] := by
    refine List.filterMap_eq_nil_iff.2 fun c hc => ?_
    obtain ⟨j, hj⟩ := List.mem_iff_getElem?.1 hc
    simp only [Timer.nextExpiry?, h.timers j c hj]
    rfl
  have hsessions : b.entity.sessions.filterMap (fun s => s.late.map (·.1)) = [] := by
    refine List.filterMap_eq_nil_iff.2 fun s hs => ?_
    obtain ⟨j, hj⟩ := List.mem_iff_getElem?.1 hs
    rw [h.sessions j s hj]
    rfl
  simp only [Bench.next?, htimers, Entity.nextDue?, hsessions]
  rfl

theorem Calm.elapse (h : b.Calm) (ms : Nat) : b.elapse ms = b := by
  have htimers : b.applyAll (fun _ => [.elapse ms]) = b :=
    applyAll_self fun j c hj => apply_elapse_self (h.timers j c hj) b.manager.worker ms
  have hentity : b.entity.elapse ms = b.entity :=
    foldl_self fun j _ => Entity.withSession_self fun s hs => Session.elapse_self (h.sessions j s hs) ms
  simp only [Bench.elapse, htimers, hentity]

theorem Around.calm_put (h : Around b l c₀) (hcalm : b.Calm) (hwaits : c.timer.waits = [])
    (hlate : session.late = none) (wire : Wire) (seen : List Observation) :
    (l.put b ⟨c, wire, session, seen⟩).Calm where
  timers j c' hj := by
    by_cases hi : j = l.conversation
    · rw [hi, h.conversation_put, Option.some.injEq] at hj
      exact hj ▸ hwaits
    · exact hcalm.timers j c' ((conversation_other hi _).symm.trans hj)
  sessions j s hj := by
    by_cases hi : j = l.session
    · rw [hi, h.session_put, Option.some.injEq] at hj
      exact hj ▸ hlate
    · exact hcalm.sessions j s ((List.getElem?_set_ne (Ne.symm hi)).symm.trans hj)

theorem Around.elapse_put (h : Around b l c₀) (hcalm : b.Calm) (c : Conversation) (wire : Wire)
    (seen : List Observation) (helapse : session.elapse b.entity.script ms = (session', seen')) :
    (l.put b ⟨c, wire, session, seen⟩).elapse ms =
      l.put b ⟨c.apply b.manager.worker (.elapse ms), wire, session', seen ++ seen'⟩ := by
  have htimers : (l.put b ⟨c, wire, session, seen⟩).applyAll (fun _ => [.elapse ms]) =
      l.put b ⟨c.apply b.manager.worker (.elapse ms), wire, session, seen⟩ := by
    refine (applyAll_one (h.conversation_put _) rfl fun j c₁ hj hc₁ => ?_).trans ?_
    · rw [Around.conversation_other hj] at hc₁
      exact apply_elapse_self (hcalm.timers j c₁ hc₁) b.manager.worker ms
    · simp only [Line.put, withConversations, List.set_set]
      rfl
  have hentity := Entity.elapse_one (h.session_put ⟨c, wire, session, seen⟩)
    (fun j s hj hs => hcalm.sessions j s ((List.getElem?_set_ne (Ne.symm hj)).symm.trans hs)) helapse
  simp only [elapse, htimers]
  show { l.put b _ with entity := (l.put b ⟨c, wire, session, seen⟩).entity.elapse ms } = _
  rw [hentity]
  simp only [Line.put, List.set_set, List.append_assoc]

theorem Around.next?_put (h : Around b l c₀) (hcalm : b.Calm) (c : Conversation) (wire : Wire) (session : Session)
    (seen : List Observation) :
    (l.put b ⟨c, wire, session, seen⟩).next? =
      (c.timer.nextExpiry?.toList ++ (session.late.map (·.1)).toList).min? := by
  have hexpiry : (l.put b ⟨c, wire, session, seen⟩).manager.conversations.filterMap (·.timer.nextExpiry?) =
      c.timer.nextExpiry?.toList := by
    refine filterMap_eq_one (h.conversation_put ⟨c, wire, session, seen⟩) fun j c₁ hj hc₁ => ?_
    have hwaits := hcalm.timers j c₁ ((Around.conversation_other hj _).symm.trans hc₁)
    simp only [Timer.nextExpiry?, hwaits]
    rfl
  have hdue : (l.put b ⟨c, wire, session, seen⟩).entity.sessions.filterMap (fun s => s.late.map (·.1)) =
      (session.late.map (·.1)).toList := by
    refine filterMap_eq_one (h.session_put ⟨c, wire, session, seen⟩) fun j s hj hs => ?_
    rw [hcalm.sessions j s ((List.getElem?_set_ne (Ne.symm hj)).symm.trans hs)]
    rfl
  simp only [next?, hexpiry, Entity.nextDue?, hdue]
  cases session.late <;> rfl

/-! Calls that wait for time to pass. -/

/-- A call that has not returned when the bench settles, and has when it settles again behind the next thing that
happens by itself. -/
theorem call_eq_later {operation : Operation} {outcome : Outcome} (hc : b.conversation? i = some c)
    (hreach : Nat.repeat round n (b.apply i (.call operation false)) = b₁) (hle : n ≤ 16) (hstill : b₁.round = b₁)
    (hopen : b₁.outcome? i c.threads.length = none) (hnext : b₁.next? = some ms)
    (hreach' : Nat.repeat round n' (b₁.elapse ms) = b₂) (hle' : n' ≤ 16) (hquiet : b₂.Quiet)
    (hout : b₂.outcome? i c.threads.length = some outcome) : b.call i operation = (b₂, some outcome) := by
  have hsettle := settle_eq hreach hstill hle
  have hsettle' := settle_eq hreach' hquiet.round hle'
  have hid : (b.conversation? i).elim 0 (·.threads.length) = c.threads.length := by
    rw [hc]
    rfl
  have hdone : b₁.await (fun b => (b.outcome? i c.threads.length).isSome) = b₂ := by
    rw [await, settle_still hstill, patience]
    show awaitWithin (4 * b₁.calls.length + 2 + 1 + 1) _ b₁ = b₂
    rw [awaitWithin, if_neg (by rw [hopen]; exact Bool.false_ne_true), hnext]
    simp only [hsettle']
    rw [awaitWithin, if_pos (by rw [hout]; rfl)]
  simp only [call, start, finish, hid, hsettle, hdone, hout]

/-! Letting time pass. -/

theorem Calm.pass (hcalm : b.Calm) (hquiet : b.Quiet) (ms : Nat) : b.pass ms = b := by
  rw [Bench.pass, hquiet.settle, patience]
  show passWithin (4 * b.calls.length + 3 + 1) ms b = b
  rw [passWithin, hcalm.next?]
  simp only [hcalm.elapse, hquiet.settle]

theorem pass_early {d : Nat} (hquiet : b.Quiet) (hnext : b.next? = some d) (hd : ms < d)
    (hquiet' : (b.elapse ms).Quiet) : b.pass ms = b.elapse ms := by
  rw [pass, hquiet.settle, patience]
  show passWithin (4 * b.calls.length + 3 + 1) ms b = b.elapse ms
  rw [passWithin, hnext]
  simp only [if_neg (Nat.not_le.2 hd), hquiet'.settle]

/-- Something happens by itself meanwhile, and then nothing more. -/
theorem pass_due {d : Nat} (hquiet : b.Quiet) (hnext : b.next? = some d) (hd : d ≤ ms)
    (hreach : Nat.repeat round n (b.elapse d) = b') (hle : n ≤ 16) (hquiet' : b'.Quiet) (hcalm : b'.Calm) :
    b.pass ms = b' := by
  have hsettle := settle_eq hreach hquiet'.round hle
  rw [pass, hquiet.settle, patience]
  show passWithin (4 * b.calls.length + 2 + 1 + 1) ms b = b'
  rw [passWithin, hnext]
  simp only [if_pos hd, hsettle]
  rw [passWithin, hcalm.next?]
  simp only [hcalm.elapse, hquiet'.settle]

end Bench
end Doip
