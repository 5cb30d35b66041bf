import Doip.Proofs.Conversation.Sequential
import Doip.Proofs.Conversation.Stopped

/-! The link and the slot of a conversation lead to the same connection when no call is under way, and a disconnect
closes the connection whose link it has taken, as long as no step comes across another call half-way
(`Cells.Apart`). While calls are under way, the two differ only by what these calls are still going to do
(`Cells.Tied`). -/

namespace Doip

/-- A disconnect that has taken the link and has not come to the slot. -/
def Role.pends : Role → Bool
  | .cutting => true
  | .lining => true
  | _ => false

def Role.cuts : Role → Bool
  | .cutting => true
  | .lining => true
  | .stopping => true
  | .releasing => true
  | _ => false

@[grind →] theorem Role.cuts_of_pends {r : Role} (h : r.pends = true) : r.cuts = true := by
  cases r <;> first | rfl | cases h

@[grind →] theorem Role.cuts_of_shuts {r : Role} (h : r.shuts = true) : r = .cancelling ∨ r.cuts = true := by
  cases r <;> first | exact .inl rfl | exact .inr rfl | cases h

@[grind →] theorem Role.pends_of_cuts {r : Role} (h : r.cuts = true) : r.pends = true ∨ r.shuts = true := by
  cases r <;> first | exact .inl rfl | exact .inr rfl | cases h

namespace Cells

variable {v v' : Cells} {id : Nat}

/-- A step that does not come across another call half-way: no connect succeeds late, none makes a connection in
front of a disconnect that has taken the link of another, no startup comes between a shutdown and what it has left to
other calls, and a connect or disconnect that the worker does not take leaves nothing undone. -/
structure Apart (id : Nat) (v v' : Cells) : Prop where
  success : v'.roles id = .succeeded → v.roles id ≠ .succeeded → ¬ v.Late
  creation : v.count < v'.count → ∀ i, (v.roles i).pends = false
  startup : v.roles id = .starting → v.running = false → (∀ i, (v.roles i).shuts = false) ∧
    (v.link = none → ∀ i conn, v.roles i ≠ .building conn ∧ v.roles i ≠ .borrowing conn)
  connect : v.roles id = .away → v'.roles id = .ended → v'.link = none → v.link = none
  disconnect : v.roles id = .cutting → v'.roles id ≠ .ended

/-- What the link and the slot hold, and which calls are still going to change it. -/
structure Tied (v : Cells) : Prop where
  link : ∀ conn, v.link = some conn → v.slot = some conn ∨
    (∃ i, v.roles i = .building conn ∨ v.roles i = .failing conn ∨ v.roles i = .replacing conn) ∨
      ∃ i, v.roles i = .cancelling
  slot : ∀ conn, v.slot = some conn → v.link = some conn ∨
    v.link = none ∧ ((∃ i, (v.roles i).cuts = true) ∨ v.running = false ∧ ∃ i, v.roles i = .borrowing conn)
  building : ∀ i conn, v.roles i = .building conn → v.link = some conn ∨ v.link = none ∧
    ((∃ j, (v.roles j).pends = true) ∨ v.running = false ∧ ∀ j, v.roles j ≠ .cancelling)
  calm : v.slot ≠ none → v.link ≠ none → ∀ i, (v.roles i).cuts = false
  pends : ∀ i, (v.roles i).pends = true → v.link = none
  off : v.running = false → v.slot ≠ none → v.link ≠ none → ∃ i, v.roles i = .cancelling
  shuts : ∀ i, (v.roles i).shuts = true → v.running = false
  alone : ∀ i j, (v.roles i).shuts = true → (v.roles j).shuts = true → i = j

section Turns

variable (h : v.Tied) (hp : v.Placed) (ht : Turn id v v') (ha : Apart id v v')

include h ht in
theorem Tied.link_turn : ∀ conn, v'.link = some conn → v'.slot = some conn ∨
    (∃ i, v'.roles i = .building conn ∨ v'.roles i = .failing conn ∨ v'.roles i = .replacing conn) ∨
      ∃ i, v'.roles i = .cancelling := by
  obtain ⟨hlink, -, hbuilding, -, hpends, hoff, hshuts, -⟩ := h
  cases ht with
  | stay => exact hlink
  | queue => exact hlink
  | _ =>
    -- Whoever empties the slot has taken the link before, or a shutdown is still to take it.
    simp only [put, unlock] at *
    grind -linarith [Role.shuts, Role.pends]

include h hp ht ha in
theorem Tied.slot_turn : ∀ conn, v'.slot = some conn → v'.link = some conn ∨
    v'.link = none ∧ ((∃ i, (v'.roles i).cuts = true) ∨ v'.running = false ∧ ∃ i, v'.roles i = .borrowing conn) := by
  have hslot := h.slot
  cases ht with
  | stay => exact hslot
  | queue => exact hslot
  | @succeed made hrole =>
    -- Without a link it has been cut by a disconnect or a shutdown, and that one has not come to the slot.
    have hlate := fun hsucceeds => shuts_of_not_late (ha.success (if_pos rfl) hsucceeds)
    have hbuilding := h.building id made hrole
    simp only [put, unlock]
    grind -linarith [Role.pends, Role.shuts]
  | miss hrole hbusy =>
    intro conn hs
    rcases hslot conn hs with hl | ⟨hnone, -⟩
    · exact .inl hl
    · obtain ⟨j, hne, -, huser⟩ := hp.other_user (by rw [hrole]; rfl) hbusy hs
      have hoff := h.shuts id (by rw [hrole]; rfl)
      refine .inr ⟨hnone, huser.symm.imp (fun hlining => ⟨j, ?_⟩) fun hborrows => ⟨hoff, j, ?_⟩⟩
      · rw [put_roles, if_neg hne, hlining]
        rfl
      · rw [put_roles, if_neg hne, hborrows]
  | _ =>
    have howned := hp.owned
    obtain ⟨-, -, hstartup, hconnect, hdisconnect⟩ := ha
    simp only [put, unlock] at *
    grind -linarith [Role.shuts, Role.cuts, Role.pends, Role.owns]

include h hp ht ha in
theorem Tied.building_turn : ∀ i conn, v'.roles i = .building conn → v'.link = some conn ∨ v'.link = none ∧
    ((∃ j, (v'.roles j).pends = true) ∨ v'.running = false ∧ ∀ j, v'.roles j ≠ .cancelling) := by
  obtain ⟨-, -, hbuilding, -, -, -, hshuts, halone⟩ := h
  have hheld := hp.held
  have howned := hp.owned
  obtain ⟨-, -, hstartup, hconnect, hdisconnect⟩ := ha
  cases ht with
  | stay => exact hbuilding
  | queue => exact hbuilding
  | _ =>
    -- The link is taken by a disconnect, which will come to the slot, or by a shutdown, after which it stays off.
    simp only [put, unlock] at *
    grind -linarith [Role.shuts, Role.pends, Role.owns]

include h hp ht ha in
theorem Tied.calm_turn : v'.slot ≠ none → v'.link ≠ none → ∀ i, (v'.roles i).cuts = false := by
  obtain ⟨-, -, -, hcalm, hpends, hoff, hshuts, halone⟩ := h
  have howned := hp.owned
  have hlate := fun hs hn => shuts_of_not_late (ha.success hs hn)
  cases ht with
  | stay => exact hcalm
  | queue => exact hcalm
  | _ =>
    -- A connect fills the slot last, and with the link it has made nobody has taken one.
    simp only [put, unlock] at *
    grind -linarith [Role.shuts, Role.cuts, Role.owns]

include h ht ha in
theorem Tied.pends_turn : ∀ i, (v'.roles i).pends = true → v'.link = none := by
  have hpends := h.pends
  have hcreation := ha.creation
  cases ht with
  | stay => exact hpends
  | queue => exact hpends
  | _ =>
    simp only [put, unlock] at *
    grind -linarith [Role.pends]

include h hp ht ha in
theorem Tied.off_turn : v'.running = false → v'.slot ≠ none → v'.link ≠ none → ∃ i, v'.roles i = .cancelling := by
  have hoff := h.off
  have howned := hp.owned
  have hlate := fun hs hn => shuts_of_not_late (ha.success hs hn)
  cases ht with
  | stay => exact hoff
  | queue => exact hoff
  | _ =>
    simp only [put, unlock] at *
    grind -linarith [Role.owns]

include h ht ha in
theorem Tied.shuts_turn : ∀ i, (v'.roles i).shuts = true → v'.running = false := by
  have hshuts := h.shuts
  have hstartup := ha.startup
  cases ht with
  | stay => exact hshuts
  | queue => exact hshuts
  | _ =>
    simp only [put, unlock] at *
    grind -linarith [Role.shuts]

include h ht in
theorem Tied.alone_turn : ∀ i j, (v'.roles i).shuts = true → (v'.roles j).shuts = true → i = j := by
  have hshuts := h.shuts
  have halone := h.alone
  cases ht with
  | stay => exact halone
  | queue => exact halone
  | _ =>
    -- Only a shutdown that finds the conversation on goes further, and then no other one has.
    simp only [put, unlock] at *
    grind -linarith [Role.shuts]

include h hp ht ha in
theorem Tied.turn : v'.Tied :=
  ⟨h.link_turn ht, h.slot_turn hp ht ha, h.building_turn hp ht ha, h.calm_turn hp ht ha, h.pends_turn ht ha,
    h.off_turn hp ht ha, h.shuts_turn ht ha, h.alone_turn ht⟩

end Turns

/-- What a disconnect that has taken the link of a connection comes to is that connection. -/
structure Faces (id conn : Nat) (v : Cells) : Prop where
  stage : (v.roles id).pends = true ∨ v.roles id = .closing conn ∨ v.roles id = .ended
  slot : (v.roles id).pends = true → ∀ conn', v.slot = some conn' → conn' = conn
  building : (v.roles id).pends = true → ∀ i conn', v.roles i = .building conn' → conn' = conn

theorem Tied.faces {conn : Nat} (h : v.Tied) (hlink : v.link = some conn) :
    Faces id conn ({ v with link := none }.put id .cutting) := by
  have hslot := h.slot
  have hbuilding := h.building
  refine ⟨.inl (by rw [put_roles, if_pos rfl]; rfl), fun _ conn' hs => ?_, fun _ i conn' hb => ?_⟩ <;>
    simp only [put] at * <;> grind -linarith

theorem Faces.turn {conn j : Nat} (h : Faces id conn v) (ht : Turn j v v') (ha : Apart j v v') : Faces id conn v' := by
  obtain ⟨hstage, hslot, hbuilding⟩ := h
  have hcreation := ha.creation
  cases ht with
  | stay => exact ⟨hstage, hslot, hbuilding⟩
  | queue => exact ⟨hstage, hslot, hbuilding⟩
  | _ =>
    refine ⟨?_, fun hpends conn' hs => ?_, fun hpends i conn' hb => ?_⟩ <;> simp only [put, unlock] at * <;>
      grind -linarith [Role.pends]

theorem Faces.aside {conn j : Nat} {r : Role} (h : Faces id conn v) (hnow : v.roles j = .away)
    (hr : r = .away ∨ r = .starting) : Faces id conn (v.put j r) := by
  obtain ⟨hstage, hslot, hbuilding⟩ := h
  refine ⟨?_, fun hpends conn' hs => ?_, fun hpends i conn' hb => ?_⟩ <;> simp only [put] at * <;>
    grind -linarith [Role.pends]

theorem Tied.aside {r : Role} (h : v.Tied) (hnow : v.roles id = .away) (hr : r = .away ∨ r = .starting) :
    (v.put id r).Tied := by
  obtain ⟨hlink, hslot, hbuilding, hcalm, hpends, hoff, hshuts, halone⟩ := h
  refine ⟨?_, ?_, ?_, ?_, ?_, ?_, ?_, ?_⟩ <;> simp only [put] at * <;>
    grind -linarith [Role.pends, Role.shuts, Role.cuts]

end Cells

namespace Conversation

variable {c : Conversation} {es : List Event} {e : Event} {id : Nat}

/-- In the course of some events a step comes across another call half-way. -/
def Clashes (c : Conversation) (es : List Event) : Prop :=
  ∃ es₁ id es₂, es = es₁ ++ .advance id :: es₂ ∧
    ¬ Cells.Apart id (es₁.foldl (apply {}) c).cells ((es₁.foldl (apply {}) c).advance {} id).cells

theorem Clashes.before {es' : List Event} (h : c.Clashes es) : c.Clashes (es ++ es') := by
  obtain ⟨es₁, id, es₂, rfl, hclash⟩ := h
  exact ⟨es₁, id, es₂ ++ es', by simp, hclash⟩

theorem Clashes.behind (es : List Event) {es' : List Event} (h : (es.foldl (apply {}) c).Clashes es') :
    c.Clashes (es ++ es') := by
  obtain ⟨es₁, id, es₂, rfl, hclash⟩ := h
  refine ⟨es ++ es₁, id, es₂, by simp, ?_⟩
  rwa [List.foldl_append]

theorem keeps_of_apart {P : Cells → Prop}
    (hturn : ∀ {v v' : Cells} {id : Nat}, P v → v.Placed → Cells.Turn id v v' → Cells.Apart id v v' → P v')
    (haside : ∀ {v : Cells} {id : Nat} {r : Role}, P v → v.roles id = .away → r = .away ∨ r = .starting →
      P (v.put id r))
    (h : Served c) (hc : P c.cells) (hes : ∀ e ∈ es, e.served = true) (hapart : ¬ c.Clashes es) :
    P (es.foldl (apply {}) c).cells := by
  induction es generalizing c with
  | nil => exact hc
  | cons e es ih =>
    obtain ⟨he, hes⟩ := List.forall_mem_cons.1 hes
    refine ih (h.apply he) ?_ hes fun hlater => hapart (.behind [e] hlater)
    cases e with
    | call op inside =>
      rw [call_cells]
      exact haside hc (roleOf_new c) (role_of op)
    | advance id =>
      refine hturn hc h.tidy.placed (advance_turn h.reachable.exclusive {} id) ?_
      by_contra hclash
      exact hapart ⟨[], id, es, rfl, hclash⟩
    | shutDown => cases he
    | dropTasks => cases he
    | elapse ms => exact hc
    | _ =>
      rw [network_cells rfl]
      exact hc

theorem tied_of_apart (settings : ConversationSettings) (version : UInt8) (servers : List ServerMapping)
    (running : Bool) (hes : ∀ e ∈ es, e.served = true) :
    let start : Conversation := { settings, version, servers, running }
    ¬ start.Clashes es → (es.foldl (apply {}) start).cells.Tied := by
  intro start hapart
  have hroles : ∀ i, start.cells.roles i = .away := fun i => rfl
  refine keeps_of_apart (fun h hp ht ha => h.turn hp ht ha) (fun h hnow hr => h.aside hnow hr)
    (Served.fresh settings version servers running) ?_ hes hapart
  refine ⟨?_, ?_, ?_, ?_, ?_, ?_, ?_, ?_⟩ <;> intros <;> simp_all [cells, start, Role.shuts, Role.pends]

/-- The link and the slot hold the same connection, or both hold none. -/
def Linked (c : Conversation) : Prop := c.link.map (·.connection) = c.slot

theorem Idle.linked (h : c.Idle) (ht : c.cells.Tied) : c.Linked := by
  have hquiet : ∀ i, (c.cells.roles i).cuts = false := by
    intro i
    rcases h.roleOf i with hr | hr | hr <;> rw [show c.cells.roles i = _ from hr] <;> rfl
  cases hslot : c.slot with
  | some conn =>
    rw [Linked, hslot]
    rcases ht.slot conn hslot with hl | ⟨-, ⟨i, hcuts⟩ | ⟨-, i, hborrows⟩⟩
    · exact hl
    · cases (hquiet i).symm.trans hcuts
    · exact absurd (by simp) (h.not_role hborrows)
  | none =>
    rw [Linked, hslot]
    refine Option.eq_none_iff_forall_ne_some.2 fun conn hl => ?_
    rcases ht.link conn hl with hs | ⟨i, hr | hr | hr⟩ | ⟨i, hr⟩
    · cases hslot.symm.trans hs
    all_goals exact h.not_role hr (by simp)

theorem disconnect_fails_iff (c : Conversation) (inside : Bool) :
    ((c.apply {} (.call .disconnect inside)).advance {} c.threads.length).outcome? c.threads.length =
      some (.disconnect .failed) ↔ c.link = none := by
  have ht : (c.apply {} (.call .disconnect inside)).threads[c.threads.length]? =
      some ⟨.disconnect .entered, inside⟩ := List.getElem?_concat_length
  rw [outcome?_eq_some_iff (getElem?_advance ht)]
  simp only [stepCall, stepDisconnect]
  split
  · rename_i hcut
    exact iff_of_true rfl (Option.map_eq_none_iff.1 hcut)
  · rename_i hcut
    obtain ⟨l, hl, -⟩ := Option.map_eq_some_iff.1 hcut
    refine iff_of_false (fun heq => ?_) fun hnone => ?_
    · cases heq
    · cases hl.symm.trans hnone

theorem cut_cells {inside : Bool} {l : Link} (ht : c.threads[id]? = some ⟨.disconnect .entered, inside⟩)
    (hl : c.link = some l) : (c.advance {} id).cells = { c.cells with link := none }.put id .cutting := by
  rw [advance_landed ht]
  simp only [stepCall, stepDisconnect]
  split
  · rename_i hcut
    cases hl.symm.trans (Option.map_eq_none_iff.1 hcut)
  · rename_i hcut
    obtain ⟨-, -, hcells⟩ := cutLink_eq hcut
    exact landed_of_same hcells

/-- Whatever calls are made on a conversation, a step comes across another call half-way, or: the link and the slot
agree whenever no call is under way, and a disconnect called then fails exactly when there is no connection; and no
disconnect closes any connection but the one whose link it has taken. -/
theorem linked_or_clashes (settings : ConversationSettings) (version : UInt8) (servers : List ServerMapping)
    (running : Bool) (hes : ∀ e ∈ es, e.served = true) :
    let start : Conversation := { settings, version, servers, running }
    let now := es.foldl (apply {}) start
    start.Clashes es ∨
      (now.Idle → now.Linked ∧ ∀ inside,
        ((now.apply {} (.call .disconnect inside)).advance {} now.threads.length).outcome? now.threads.length =
          some (.disconnect .failed) ↔ now.slot = none) ∧
      ∀ es₁ es₂ id inside inside' l conn, es = es₁ ++ .advance id :: es₂ →
        (es₁.foldl (apply {}) start).threads[id]? = some ⟨.disconnect .entered, inside⟩ →
        (es₁.foldl (apply {}) start).link = some l →
        now.threads[id]? = some ⟨.disconnect (.closing conn), inside'⟩ → conn = l.connection := by
  intro start now
  refine or_iff_not_imp_left.2 fun hapart => ⟨fun hidle => ?_, ?_⟩
  · have hlinked := hidle.linked (tied_of_apart settings version servers running hes hapart)
    refine ⟨hlinked, fun inside => (disconnect_fails_iff now inside).trans ?_⟩
    rw [← hlinked, Option.map_eq_none_iff]
  · rintro es₁ es₂ id inside inside' l conn rfl ht hl hclosing
    obtain ⟨hes₁, hes₂⟩ := List.forall_mem_append.1 hes
    obtain ⟨-, hes₂⟩ := List.forall_mem_cons.1 hes₂
    have htied := tied_of_apart settings version servers running hes₁ fun h => hapart h.before
    have hserved : Served ((es₁.foldl (apply {}) start).apply {} (.advance id)) :=
      ((Served.fresh settings version servers running).applyAll hes₁).apply rfl
    have hcut : Cells.Faces id l.connection ((es₁.foldl (apply {}) start).apply {} (.advance id)).cells := by
      rw [Conversation.apply, cut_cells ht hl]
      exact htied.faces (congrArg (Option.map _) hl)
    have hfaces : Cells.Faces id l.connection now.cells := by
      rw [show now = _ from List.foldl_append, List.foldl_cons]
      refine keeps_of_apart (fun h _ ht ha => h.turn ht ha) (fun h hnow hr => h.aside hnow hr) hserved hcut hes₂ ?_
      exact fun hlater => hapart (.behind es₁ (.behind [.advance id] hlater))
    have hrole : now.cells.roles id = .closing conn := roleOf_eq hclosing
    have hstage := hfaces.stage
    rw [hrole] at hstage
    rcases hstage with hpends | hconn | hended
    · cases hpends
    · exact Role.closing.inj hconn
    · cases hended

/-- A disconnect takes the link of a lost connection, and a connect replaces that one before the disconnect goes on. -/
def replaced : Conversation :=
  [Event.call .disconnect false, .advance 1, .call (.connect 0x1000 (some .localhost)) false, .advance 2, .advance 2,
    .advance 2, .advance 2, .advance 2, .dialled 1 .established, .advance 2, .advance 2].foldl (apply {}) parted

def crossed : Conversation :=
  [Event.arrive 1 (.bytes welcome.toBytes), .advance 2, .advance 1, .advance 1, .advance 1, .advance 1].foldl (apply {})
    replaced

theorem replaced_eq : replaced =
    [Event.advance 0, .arrive 0 .endOfStream, .call .disconnect false, .advance 1,
      .call (.connect 0x1000 (some .localhost)) false, .advance 2, .advance 2, .advance 2, .advance 2, .advance 2,
      .dialled 1 .established, .advance 2, .advance 2].foldl (apply {})
      { awaitingActivation with connections := [{ asking with stream := some (askingStream [welcome]) }] } := by
  rw [replaced, parted_eq]
  rfl

theorem crossed_eq : crossed = [Event.advance 2, .advance 1, .advance 1, .advance 1, .advance 1].foldl (apply {})
    (replaced.modifyConnection 1 fun _ => { asking with stream := some (askingStream [welcome]) }) := by
  have hk : replaced.connections[1]? = some asking := by
    rw [replaced_eq]
    rfl
  rw [crossed, List.foldl_cons, apply_welcome hk]

def crossing : List Event :=
  [.call (.connect 0x1000 (some .localhost)) false, .advance 0, .advance 0, .advance 0, .advance 0,
    .dialled 0 .established, .advance 0, .advance 0] ++
  [.arrive 0 (.bytes welcome.toBytes), .advance 0, .arrive 0 .endOfStream] ++
  [.call .disconnect false, .advance 1, .call (.connect 0x1000 (some .localhost)) false, .advance 2, .advance 2,
    .advance 2, .advance 2, .advance 2, .dialled 1 .established, .advance 2, .advance 2] ++
  [.arrive 1 (.bytes welcome.toBytes), .advance 2, .advance 1, .advance 1, .advance 1, .advance 1]

/-- A disconnect has closed the connection that came in the place of its own, and the link still leads to it. -/
theorem disconnect_closes_successor :
    let start : Conversation :=
      { settings := { name := "tester", source := 0x0E00 }, version := 2, servers := [], running := true }
    let now := crossing.foldl (apply {}) start
    (now.Idle ∧ now.outcome? 2 = some (.connect .success) ∧ now.outcome? 1 = some (.disconnect .success)) ∧
      (now.slot = none ∧ now.link = some ⟨1, 0x1000⟩) ∧ start.Clashes crossing := by
  intro start now
  have hnow : now = crossed := by
    simp only [now, crossing, List.foldl_append]
    rfl
  have hthreads : now.threads = [⟨.returned (.connect .success), false⟩, ⟨.returned (.disconnect .success), false⟩,
      ⟨.returned (.connect .success), false⟩] := by
    rw [hnow, crossed_eq, replaced_eq]
    rfl
  have hidle : now.Idle := by
    rw [Idle, hthreads]
    exact List.forall_mem_cons.2 ⟨⟨_, rfl⟩, List.forall_mem_cons.2 ⟨⟨_, rfl⟩, List.forall_mem_singleton.2 ⟨_, rfl⟩⟩⟩
  have hcells : now.slot = none ∧ now.link = some ⟨1, 0x1000⟩ := by
    rw [hnow, crossed_eq, replaced_eq]
    exact ⟨rfl, rfl⟩
  have hserved : ∀ e ∈ crossing, e.served = true := by simp [crossing, Event.served]
  have hclashes := linked_or_clashes { name := "tester", source := 0x0E00 } 2 [] true hserved
  refine ⟨⟨hidle, ?_, ?_⟩, hcells, hclashes.resolve_right fun hagree => ?_⟩
  · rw [outcome?, hthreads]
    rfl
  · rw [outcome?, hthreads]
    rfl
  · have hlinked : now.link.map (·.connection) = now.slot := (hagree.1 hidle).1
    rw [hcells.1, hcells.2] at hlinked
    cases hlinked

/-- A request waits for its acknowledgement, and the conversation is shut down and started again before it looks. -/
def restarted : Conversation :=
  [Event.advance 1, .advance 1, .call .shutdown false, .advance 2, .advance 2, .advance 2, .advance 2,
    .call .startup false, .advance 3, .advance 1].foldl (apply {}) requesting

theorem startup_strands_connection :
    (restarted.Idle ∧ restarted.slot = some 0 ∧ restarted.link = none) ∧
      ([Event.call .disconnect false, .advance 4].foldl (apply {}) restarted).outcome? 4 =
        some (.disconnect .failed) ∧
      ([Event.call (.connect 0x1000 (some .localhost)) false, .advance 4, .advance 4, .advance 4,
        .advance 4].foldl (apply {}) restarted).outcome? 4 = some (.connect .alreadyConnected) := by
  have hidle : restarted.Idle := by
    have hthreads : restarted.threads = [⟨.returned (.connect .success), false⟩,
        ⟨.returned (.request (.error .cancelled)), false⟩, ⟨.returned .done, false⟩, ⟨.returned .done, false⟩] := by
      rw [restarted, requesting_eq]
      rfl
    rw [Idle, hthreads]
    exact List.forall_mem_cons.2 ⟨⟨_, rfl⟩, List.forall_mem_cons.2 ⟨⟨_, rfl⟩,
      List.forall_mem_cons.2 ⟨⟨_, rfl⟩, List.forall_mem_singleton.2 ⟨_, rfl⟩⟩⟩⟩
  rw [restarted, requesting_eq] at hidle ⊢
  exact ⟨⟨hidle, rfl, rfl⟩, rfl, rfl⟩

end Conversation
end Doip
