import Mathlib.Data.List.Induction
import Doip.Proofs.Conversation.Request
import Doip.Proofs.Conversation.Tidy

/-! A conversation that has been shut down lets go of its connection, whatever other calls are under way, unless a
connect succeeds when the shutdown has already been at the link or at the slot. As long as none does, the link
leads to a connection that is still being set up, and what is in the slot has a call that will take it out
(`Halted`). -/

namespace Doip

/-- A shutdown that has switched the conversation off and has not returned. -/
def Role.shuts : Role → Bool
  | .cancelling => true
  | .stopping => true
  | .releasing => true
  | _ => false

theorem Call.role_starting {call : Call} (h : call.role = .starting) : call = .startup := by
  cases call with
  | connect target host point => cases point <;> cases h
  | disconnect point => cases point <;> cases h
  | request data point => cases point <;> cases h
  | shutdown point => cases point <;> cases h
  | startup => rfl
  | returned outcome =>
    cases outcome with
    | connect result => cases result <;> cases h
    | _ => cases h

namespace Cells

variable {v v' : Cells} {id : Nat}

/-- The conversation is off, and no shutdown comes to what a connect leaves behind from now on. -/
def Late (v : Cells) : Prop :=
  v.running = false ∧ ((∀ i, (v.roles i).shuts = false) ∨ v.link ≠ none ∧ ∀ i, v.roles i ≠ .cancelling)

theorem shuts_of_not_late (h : ¬ v.Late) (hoff : v.running = false) :
    (∃ i, (v.roles i).shuts = true) ∧ (v.link ≠ none → ∃ i, v.roles i = .cancelling) := by
  refine ⟨?_, fun hlink => ?_⟩
  · by_contra hno
    exact h ⟨hoff, .inl fun i => Bool.eq_false_iff.2 fun hi => hno ⟨i, hi⟩⟩
  · by_contra hno
    exact h ⟨hoff, .inr ⟨hlink, fun i hi => hno ⟨i, hi⟩⟩⟩

/-- What is left behind a shutdown that has been at the link, and behind one that has been at the slot. -/
structure Halted (v : Cells) : Prop where
  link : (∀ i, v.roles i ≠ .cancelling) → ∀ conn, v.link = some conn →
    ∃ i, v.roles i = .building conn ∨ v.roles i = .failing conn
  slot : (∀ i, (v.roles i).shuts = false) → ∀ conn, v.slot = some conn →
    ∃ i, v.holder = some i ∧ (v.roles i = .borrowing conn ∨ v.roles i = .lining)

section Turns

variable (h : v.running = false → v.Halted) (hp : v.Placed) (ht : Turn id v v')
variable (hlate : v'.roles id = .succeeded → v.roles id ≠ .succeeded → ¬ v.Late) (hrun : v'.running = false)

include h ht hlate hrun

theorem Halted.link_turn : (∀ i, v'.roles i ≠ .cancelling) → ∀ conn, v'.link = some conn →
    ∃ i, v'.roles i = .building conn ∨ v'.roles i = .failing conn := by
  cases ht with
  | stay => exact (h hrun).link
  | start => cases hrun
  | shut => exact fun hno => absurd (if_pos rfl) (hno id)
  | @succeed conn hrole =>
    -- A shutdown is still to come to the link.
    obtain ⟨-, hcancelling⟩ := shuts_of_not_late (hlate (if_pos rfl) (by rw [hrole]; nofun)) hrun
    intro hno conn' hl
    obtain ⟨j, hj⟩ := hcancelling (by rw [show v.link = _ from hl]; nofun)
    have hne : j ≠ id := by
      rintro rfl
      cases hrole.symm.trans hj
    exact absurd ((if_neg hne).trans hj) (hno j)
  | _ =>
    have hlink := (h hrun).link
    intro hno conn hl
    simp only [put, unlock] at *
    grind -linarith

include hp

theorem Halted.slot_turn : (∀ i, (v'.roles i).shuts = false) → ∀ conn, v'.slot = some conn →
    ∃ i, v'.holder = some i ∧ (v'.roles i = .borrowing conn ∨ v'.roles i = .lining) := by
  cases ht with
  | stay => exact (h hrun).slot
  | start => cases hrun
  | shut hrole hon =>
    intro hno
    have hmine := hno id
    rw [put_roles, if_pos rfl] at hmine
    cases hmine
  | @succeed conn hrole =>
    -- A shutdown is still to come to the slot.
    obtain ⟨⟨j, hj⟩, -⟩ := shuts_of_not_late (hlate (if_pos rfl) (by rw [hrole]; nofun)) hrun
    intro hno
    have hne : j ≠ id := by
      rintro rfl
      rw [hrole] at hj
      cases hj
    have hshuts := hno j
    rw [put_roles, if_neg hne] at hshuts
    cases hj.symm.trans hshuts
  | miss hrole hbusy =>
    intro hno conn hs
    obtain ⟨j, hne, hj, huser⟩ := hp.other_user (by rw [hrole]; rfl) hbusy hs
    refine ⟨j, hj, ?_⟩
    rwa [put_roles, if_neg hne]
  | _ =>
    have hslot := (h hrun).slot
    have hheld := hp.held
    have howned := hp.owned
    intro hno conn hs
    simp only [put, unlock] at *
    grind -linarith [Role.shuts, Role.owns]

theorem Halted.turn : v'.Halted := ⟨Halted.link_turn h ht hlate hrun, Halted.slot_turn h hp ht hlate hrun⟩

end Turns

theorem Halted.aside (h : v.Halted) (hnow : v.roles id = .away) (r : Role) : (v.put id r).Halted := by
  obtain ⟨hlink, hslot⟩ := h
  refine ⟨fun hno conn hl => ?_, fun hno conn hs => ?_⟩ <;> simp only [put] at * <;> grind -linarith [Role.shuts]

theorem Turn.running (ht : Turn id v v') (hrole : v.roles id ≠ .starting) (hrun : v.running = false) :
    v'.running = false := by
  cases ht with
  | start hstarting => exact absurd hstarting hrole
  | shut => rfl
  | _ => exact hrun

theorem Turn.starting (ht : Turn id v v') {i : Nat} (h : v'.roles i = .starting) : v.roles i = .starting := by
  cases ht with
  | stay => exact h
  | queue => exact h
  | _ =>
    simp only [put, unlock] at h
    grind -linarith

end Cells

namespace Conversation

variable {c : Conversation} {es : List Event} {e : Event} {id : Nat}

def SucceedsLate (c : Conversation) (id : Nat) : Prop :=
  c.cells.Late ∧ c.outcome? id = none ∧ (c.advance {} id).outcome? id = some (.connect .success)

/-- In the course of some events a connect succeeds late, and the conversation stays off from there on. -/
def EndsLate (c : Conversation) (es : List Event) : Prop :=
  ∃ es₁ id es₂, es = es₁ ++ .advance id :: es₂ ∧ (es₁.foldl (apply {}) c).SucceedsLate id ∧
    ∀ es₃, es₃ <+: es₂ → (es₃.foldl (apply {}) ((es₁.foldl (apply {}) c).advance {} id)).running = false

/-- No connection is in use, and every connection ever made is closed and let go. -/
structure Emptied (c : Conversation) : Prop where
  slot : c.slot = none
  link : c.link = none
  state : c.state = .disconnected
  serverAddress : c.serverAddress = none
  closed : ∀ k ∈ c.connections, k.closed = true
  released : ∀ k ∈ c.connections, k.stream = none

theorem roleOf_succeeded : c.roleOf id = .succeeded ↔ c.outcome? id = some (.connect .success) := by
  unfold roleOf outcome?
  cases c.threads[id]? with
  | none => simp
  | some t =>
    obtain ⟨call, inside⟩ := t
    cases call with
    | connect target host point => cases point <;> simp [Call.role]
    | disconnect point => cases point <;> simp [Call.role]
    | request data point => cases point <;> simp [Call.role]
    | shutdown point => cases point <;> simp [Call.role]
    | startup => simp [Call.role]
    | returned outcome =>
      cases outcome with
      | connect result => cases result <;> simp [Call.role]
      | _ => simp [Call.role]

theorem EndsLate.snoc (h : c.EndsLate es) (hrun : ((es ++ [e]).foldl (apply {}) c).running = false) :
    c.EndsLate (es ++ [e]) := by
  obtain ⟨es₁, id, es₂, rfl, hlate, hsince⟩ := h
  refine ⟨es₁, id, es₂ ++ [e], by simp, hlate, fun es₃ hes₃ => ?_⟩
  rcases List.prefix_concat_iff.1 hes₃ with rfl | hpre
  · simpa [apply] using hrun
  · exact hsince es₃ hpre

theorem EndsLate.last (h : (es.foldl (apply {}) c).SucceedsLate id)
    (hrun : ((es ++ [Event.advance id]).foldl (apply {}) c).running = false) : c.EndsLate (es ++ [.advance id]) := by
  refine ⟨es, id, [], rfl, h, fun es₃ hes₃ => ?_⟩
  rw [List.prefix_nil.1 hes₃]
  simpa [apply] using hrun

theorem succeeds_of_roleOf (h : c.roleOf id ≠ .succeeded) (h' : (c.advance {} id).roleOf id = .succeeded) :
    c.outcome? id = none ∧ (c.advance {} id).outcome? id = some (.connect .success) := by
  refine ⟨?_, roleOf_succeeded.1 h'⟩
  cases ht : c.threads[id]? with
  | none => rw [outcome?, ht]
  | some t =>
    obtain ⟨call, inside⟩ := t
    cases call with
    | returned outcome =>
      rw [advance_ended fun t ht' => ⟨outcome, by rw [Option.some.inj (ht'.symm.trans ht)]⟩] at h'
      exact absurd h' h
    | _ => rw [outcome?, ht]

theorem Served.halted (h : Served c) (he : e.served = true) (hnow : c.running = false → c.cells.Halted)
    (hlate : ∀ id, e = .advance id → ¬ c.SucceedsLate id) :
    (c.apply {} e).running = false → (c.apply {} e).cells.Halted := by
  cases e with
  | call op inside =>
    intro hrun
    rw [call_cells]
    exact (hnow hrun).aside (roleOf_new c) _
  | advance id =>
    have hturn := advance_turn h.reachable.exclusive {} id
    refine Cells.Halted.turn hnow h.tidy.placed hturn fun hafter hbefore hin => ?_
    exact hlate id rfl ⟨hin, succeeds_of_roleOf hbefore hafter⟩
  | shutDown => cases he
  | dropTasks => cases he
  | elapse ms => exact hnow
  | _ =>
    rw [network_cells rfl]
    exact hnow

theorem halted_or_late (settings : ConversationSettings) (version : UInt8) (servers : List ServerMapping)
    (running : Bool) (hes : ∀ e ∈ es, e.served = true) :
    let start : Conversation := { settings, version, servers, running }
    (es.foldl (apply {}) start).running = false →
      (es.foldl (apply {}) start).cells.Halted ∨ start.EndsLate es := by
  intro start
  induction es using List.reverseRecOn with
  | nil =>
    refine fun _ => .inl ⟨fun _ conn hl => ?_, fun _ conn hs => ?_⟩
    · cases hl
    · cases hs
  | append_singleton es e ih =>
    obtain ⟨hes, hlast⟩ := List.forall_mem_append.1 hes
    have he : e.served = true := hlast e (List.mem_singleton_self e)
    have hserved : Served (es.foldl (apply {}) start) := (Served.fresh settings version servers running).applyAll hes
    intro hrun
    by_cases hlate : ∃ id, e = .advance id ∧ (es.foldl (apply {}) start).SucceedsLate id
    · obtain ⟨id, rfl, hlate⟩ := hlate
      exact .inr (.last hlate hrun)
    · by_cases hends : start.EndsLate es
      · exact .inr (hends.snoc hrun)
      · have hstep := hserved.halted he (fun hoff => (ih hes hoff).resolve_right hends)
          fun id hid hsucceeds => hlate ⟨id, hid, hsucceeds⟩
        rw [List.foldl_append] at hrun ⊢
        exact .inl (hstep hrun)

/-! A shutdown, once it has returned, has switched the conversation off. -/

def Unstarted (c : Conversation) : Prop := ∀ i, c.roleOf i ≠ .starting

theorem Unstarted.of_threads (h : ∀ t ∈ c.threads, t.call ≠ .startup) : c.Unstarted := by
  intro i hi
  cases ht : c.threads[i]? with
  | none =>
    rw [Conversation.roleOf, ht] at hi
    cases hi
  | some t =>
    rw [roleOf_eq ht] at hi
    exact h t (List.mem_of_getElem? ht) (Call.role_starting hi)

theorem Unstarted.apply (h : c.Unstarted) (hc : Served c) (he : e.served = true)
    (hnone : ∀ inside, e ≠ .call .startup inside) : (c.apply {} e).Unstarted := by
  intro i hi
  cases e with
  | call op inside =>
    have hroles := congrFun (congrArg Cells.roles (call_cells c op inside)) i
    rw [show (c.apply {} (.call op inside)).cells.roles i = _ from hi, Cells.put_roles] at hroles
    split at hroles
    · cases op with
      | startup => exact hnone inside rfl
      | _ => cases hroles
    · exact h i hroles.symm
  | advance id => exact h i ((advance_turn hc.reachable.exclusive {} id).starting hi)
  | shutDown => cases he
  | dropTasks => cases he
  | elapse ms => exact h i hi
  | _ => exact h i ((congrFun (congrArg Cells.roles (network_cells rfl {} c)) i).symm.trans hi)

theorem running_apply (h : c.Unstarted) (hc : Served c) (he : e.served = true) (hrun : c.running = false) :
    (c.apply {} e).running = false := by
  cases e with
  | call op inside => exact hrun
  | advance id => exact (advance_turn hc.reachable.exclusive {} id).running (h id) hrun
  | shutDown => cases he
  | dropTasks => cases he
  | _ => exact hrun

/-- The conversation is off, or the shutdown with the given number has yet to switch it off. -/
def Ceases (c : Conversation) (sid : Nat) : Prop :=
  c.running = false ∨ ∃ inside, c.threads[sid]? = some ⟨.shutdown .entered, inside⟩

theorem Ceases.apply {sid : Nat} (h : c.Ceases sid) (hun : c.Unstarted) (hc : Served c) (he : e.served = true) :
    (c.apply {} e).Ceases sid := by
  rcases h with hrun | ⟨inside, ht⟩
  · exact .inl (running_apply hun hc he hrun)
  · cases e with
    | call op inside' => exact .inr ⟨inside, (List.getElem?_append_left (List.getElem?_eq_some_iff.1 ht).1).trans ht⟩
    | advance id =>
      by_cases hid : id = sid
      · subst hid
        refine .inl ?_
        rw [Conversation.apply, advance_eq ht]
        simp only [stepCall, stepShutdown]
        split
        · rfl
        · rename_i hoff
          exact Bool.eq_false_iff.2 hoff
      · exact .inr ⟨inside, (getElem?_advance_of_ne hid).trans ht⟩
    | shutDown => cases he
    | dropTasks => cases he
    | _ => exact .inr ⟨inside, ht⟩

theorem Ceases.off {sid : Nat} (h : c.Ceases sid) (hidle : c.Idle) : c.running = false := by
  rcases h with hrun | ⟨inside, ht⟩
  · exact hrun
  · obtain ⟨outcome, hcall⟩ := hidle _ (List.mem_of_getElem? ht)
    cases hcall

theorem Ceases.applyAll {sid : Nat} (h : c.Ceases sid) (hun : c.Unstarted) (hc : Served c)
    (hes : ∀ e ∈ es, e.served = true) (hnone : ∀ inside, .call .startup inside ∉ es) :
    (es.foldl (Conversation.apply {}) c).Ceases sid := by
  induction es generalizing c with
  | nil => exact h
  | cons e es ih =>
    obtain ⟨he, hes⟩ := List.forall_mem_cons.1 hes
    have hnot : ∀ inside, e ≠ .call .startup inside := fun inside heq => hnone inside (heq ▸ List.mem_cons_self)
    exact ih (h.apply hun hc he) (hun.apply hc he hnot) (hc.apply he) hes fun inside hmem =>
      hnone inside (List.mem_cons_of_mem e hmem)

/-! What is left when everything has ended. -/

theorem Idle.roleOf (h : c.Idle) (i : Nat) : c.roleOf i = .away ∨ c.roleOf i = .succeeded ∨ c.roleOf i = .ended := by
  cases ht : c.threads[i]? with
  | none =>
    rw [Conversation.roleOf, ht]
    exact .inl rfl
  | some t =>
    obtain ⟨outcome, hcall⟩ := h t (List.mem_of_getElem? ht)
    rw [roleOf_eq ht, hcall]
    cases outcome with
    | connect result => cases result <;> simp [Call.role]
    | _ => simp [Call.role]

theorem Idle.not_role (h : c.Idle) {i : Nat} {r : Role} (hr : c.roleOf i = r) :
    ¬ (r ≠ .away ∧ r ≠ .succeeded ∧ r ≠ .ended) := by
  rw [← hr]
  rintro ⟨haway, hsucceeded, hended⟩
  rcases h.roleOf i with h | h | h
  · exact haway h
  · exact hsucceeded h
  · exact hended h

theorem Tidy.emptied (h : c.Tidy) (hidle : c.Idle) (hslot : c.slot = none) (hlink : c.link = none) : c.Emptied := by
  have hnone : ∀ i, (c.roleOf i).owns = none := by
    intro i
    rcases hidle.roleOf i with hr | hr | hr <;> rw [hr] <;> rfl
  refine ⟨hslot, hlink, ?_, ?_, fun k hk => ?_, fun k hk => ?_⟩
  · rw [Conversation.state, hlink]
    rfl
  · rw [Conversation.serverAddress, hlink]
    rfl
  · obtain ⟨i, hi, rfl⟩ := List.mem_iff_getElem.1 hk
    rcases h.closed i hi with hs | ⟨j, hj⟩ | ⟨k', hk', hclosed⟩
    · cases hslot.symm.trans hs
    · have hown := hnone j
      rw [hj] at hown
      cases hown
    · rwa [Option.some.inj ((List.getElem?_eq_getElem hi).symm.trans hk')]
  · obtain ⟨i, hi, rfl⟩ := List.mem_iff_getElem.1 hk
    rcases h.bare i hi with hs | ⟨j, hj⟩ | ⟨k', hk', hbare⟩
    · cases hslot.symm.trans hs
    · cases (hnone j).symm.trans hj
    · rwa [Option.some.inj ((List.getElem?_eq_getElem hi).symm.trans hk')]

theorem Idle.halted (h : c.Idle) (hh : c.cells.Halted) : c.slot = none ∧ c.link = none := by
  constructor
  · refine Option.eq_none_iff_forall_ne_some.2 fun conn hslot => ?_
    obtain ⟨i, -, hr | hr⟩ := hh.slot (fun i => by rcases h.roleOf i with hr | hr | hr <;> simp [cells, hr, Role.shuts])
      conn hslot
    · exact h.not_role hr (by simp)
    · exact h.not_role hr (by simp)
  · refine Option.eq_none_iff_forall_ne_some.2 fun l hlink => ?_
    obtain ⟨i, hr | hr⟩ := hh.link (fun i hr => h.not_role hr (by simp)) l.connection (congrArg (Option.map _) hlink)
    · exact h.not_role hr (by simp)
    · exact h.not_role hr (by simp)

/-- When a shutdown and every other call have returned and no startup was called since, no connection is left behind
unless a connect has succeeded late. -/
theorem emptied_or_late (settings : ConversationSettings) (version : UInt8) (servers : List ServerMapping)
    (running : Bool) {es₀ es : List Event} {inside : Bool}
    (hserved : ∀ e ∈ es₀ ++ .call .shutdown inside :: es, e.served = true) :
    let start : Conversation := { settings, version, servers, running }
    let rest := (es₀ ++ .call .shutdown inside :: es).foldl (apply {}) start
    (∀ t ∈ (es₀.foldl (apply {}) start).threads, t.call ≠ .startup) → (∀ inside, .call .startup inside ∉ es) →
      rest.Idle → rest.Emptied ∨ start.EndsLate (es₀ ++ .call .shutdown inside :: es) := by
  intro start rest hquiet hnone hidle
  obtain ⟨hes₀, hrest⟩ := List.forall_mem_append.1 hserved
  obtain ⟨hcall, hes⟩ := List.forall_mem_cons.1 hrest
  have hbefore : Served (es₀.foldl (apply {}) start) := (Served.fresh settings version servers running).applyAll hes₀
  have hoff : rest.running = false := by
    have hun : (es₀.foldl (apply {}) start).Unstarted := .of_threads hquiet
    have hceases : ((es₀.foldl (apply {}) start).apply {} (.call .shutdown inside)).Ceases
        (es₀.foldl (apply {}) start).threads.length := .inr ⟨inside, List.getElem?_concat_length⟩
    have hall := hceases.applyAll (hun.apply hbefore hcall (by nofun)) (hbefore.apply hcall) hes hnone
    have hrest : rest.Ceases (es₀.foldl (apply {}) start).threads.length := by
      rwa [show rest = _ from List.foldl_append]
    exact hrest.off hidle
  refine (halted_or_late settings version servers running hserved hoff).imp_left fun hhalted => ?_
  obtain ⟨hslot, hlink⟩ := hidle.halted hhalted
  exact ((Served.fresh settings version servers running).applyAll hserved).tidy.emptied hidle hslot hlink

/-- A client that looks at the switch before a shutdown, and behind it connects and asks for its activation. -/
def overtaken : Conversation :=
  [Event.call (.connect 0x1000 (some .localhost)) false, .advance 0, .call .shutdown false, .advance 1, .advance 1,
    .advance 1, .advance 0, .advance 0, .advance 0, .dialled 0 .established, .advance 0, .advance 0].foldl (apply {})
    { settings := { name := "tester", source := 0x0E00 }, version := 2, servers := [], running := true }

def leftBehind : Conversation := [Event.arrive 0 (.bytes welcome.toBytes), .advance 0].foldl (apply {}) overtaken

theorem leftBehind_eq : leftBehind = [Event.advance 0].foldl (apply {})
    (overtaken.modifyConnection 0 fun _ => { asking with stream := some (askingStream [welcome]) }) := by
  have hk : overtaken.connections[0]? = some asking := rfl
  rw [leftBehind, List.foldl_cons, apply_welcome hk]

/-- The client keeps its connection although the shutdown has returned. -/
theorem connected_after_shutdown :
    let start : Conversation :=
      { settings := { name := "tester", source := 0x0E00 }, version := 2, servers := [], running := true }
    (leftBehind.Idle ∧ leftBehind.running = false ∧ leftBehind.outcome? 1 = some .done) ∧
      (leftBehind.slot = some 0 ∧ leftBehind.state = .activated ∧ leftBehind.serverAddress = some 0x1000) ∧
      start.EndsLate ([.call (.connect 0x1000 (some .localhost)) false, .advance 0] ++ .call .shutdown false ::
        [.advance 1, .advance 1, .advance 1, .advance 0, .advance 0, .advance 0, .dialled 0 .established, .advance 0,
          .advance 0, .arrive 0 (.bytes welcome.toBytes), .advance 0]) := by
  intro start
  have hidle : leftBehind.Idle := by
    have hthreads : leftBehind.threads = [⟨.returned (.connect .success), false⟩, ⟨.returned .done, false⟩] := by
      rw [leftBehind_eq]
      rfl
    rw [Idle, hthreads]
    exact List.forall_mem_cons.2 ⟨⟨_, rfl⟩, List.forall_mem_singleton.2 ⟨_, rfl⟩⟩
  have hquiet : ∀ t ∈ ([Event.call (.connect 0x1000 (some .localhost)) false, .advance 0].foldl (apply {})
      start).threads, t.call ≠ .startup := by
    intro t ht
    obtain rfl : t = ⟨.connect 0x1000 (some .localhost) .checked, false⟩ := List.mem_singleton.1 ht
    nofun
  have hslot : leftBehind.slot = some 0 := by
    rw [leftBehind_eq]
    rfl
  have hserved : ∀ e ∈ [.call (.connect 0x1000 (some .localhost)) false, .advance 0] ++ .call .shutdown false ::
      [.advance 1, .advance 1, .advance 1, .advance 0, .advance 0, .advance 0, .dialled 0 .established, .advance 0,
        .advance 0, .arrive 0 (.bytes welcome.toBytes), .advance 0], Event.served e = true := by
    simp [Event.served]
  have hends := emptied_or_late { name := "tester", source := 0x0E00 } 2 [] true hserved hquiet (by simp) hidle
  refine ⟨⟨hidle, ?_, ?_⟩, ⟨hslot, ?_, ?_⟩, hends.resolve_left fun hempty => ?_⟩
  · rw [leftBehind_eq]
    rfl
  · rw [leftBehind_eq]
    rfl
  · rw [leftBehind_eq]
    rfl
  · rw [leftBehind_eq]
    rfl
  · cases hslot.symm.trans hempty.slot

end Conversation
end Doip
