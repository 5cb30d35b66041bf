import Doip.Proofs.Conversation.Cells

/-! Where the connections of a conversation are while its worker runs. A call that has a connection for itself
leaves the slot empty, one that uses the connection in the slot leaves it there, and only disconnects stand in
line (`Placed`). A connection that is neither in the slot nor with a call has been let go (`Served.tidy`). -/

namespace Doip

/-- The call neither uses the slot nor waits for it. -/
def Role.aside (r : Role) : Bool := !r.holds && decide (r ≠ .lining)

@[grind →] theorem Role.holds_of_owns {r : Role} {conn : Nat} (h : r.owns = some conn) : r.holds = true := by
  cases r <;> first | rfl | cases h

theorem Role.borrows_or_owns {r : Role} (h : r.holds = true) :
    (∃ conn, r = .borrowing conn) ∨ ∃ conn, r.owns = some conn := by
  cases r with
  | borrowing conn => exact .inl ⟨conn, rfl⟩
  | building conn => exact .inr ⟨conn, rfl⟩
  | failing conn => exact .inr ⟨conn, rfl⟩
  | replacing conn => exact .inr ⟨conn, rfl⟩
  | closing conn => exact .inr ⟨conn, rfl⟩
  | _ => cases h

@[grind =] theorem Role.borrowing_holds (conn : Nat) : (Role.borrowing conn).holds = true := rfl

@[grind =] theorem Role.lining_holds : Role.lining.holds = false := rfl

@[grind =] theorem Role.aside_eq (r : Role) : r.aside = (!r.holds && decide (r ≠ .lining)) := rfl

namespace Cells

/-- The calls, the slot and its line fit together. -/
structure Placed (v : Cells) : Prop where
  held : ∀ i, (v.roles i).holds = true → v.holder = some i
  holder : ∀ i, v.holder = some i → (v.roles i).holds = true ∨ v.roles i = .lining
  line : ∀ i ∈ v.line, v.roles i = .lining ∧ v.holder ≠ some i
  once : v.line.Nodup
  free : v.holder = none → v.line = []
  owned : ∀ i conn, (v.roles i).owns = some conn → v.slot = none
  borrowed : ∀ i conn, v.roles i = .borrowing conn → v.slot = some conn

variable {v v' : Cells} {id conn : Nat} {r : Role} {slot : Option Nat}

/-- What is in the slot while it is taken is in use, or a disconnect is about to take it out. -/
theorem Placed.user (h : v.Placed) {i : Nat} (hheld : v.holder = some i) (hslot : v.slot = some conn) :
    v.roles i = .borrowing conn ∨ v.roles i = .lining := by
  rcases h.holder i hheld with hholds | hlining
  · rcases Role.borrows_or_owns hholds with ⟨conn', hborrows⟩ | ⟨conn', howns⟩
    · rw [hborrows, Option.some.inj ((h.borrowed i conn' hborrows).symm.trans hslot)]
      exact .inl rfl
    · cases hslot.symm.trans (h.owned i conn' howns)
  · exact .inr hlining

/-- A call that comes across a taken slot leaves what is in it to another one. -/
theorem Placed.other_user (h : v.Placed) (haside : (v.roles id).aside = true) (hbusy : v.holder ≠ none)
    (hslot : v.slot = some conn) :
    ∃ j, j ≠ id ∧ v.holder = some j ∧ (v.roles j = .borrowing conn ∨ v.roles j = .lining) := by
  obtain ⟨j, hj⟩ := Option.ne_none_iff_exists'.1 hbusy
  have huser := h.user hj hslot
  refine ⟨j, ?_, hj, huser⟩
  rintro rfl
  rcases huser with hrole | hrole
  · rw [hrole] at haside
    cases haside
  · rw [hrole] at haside
    cases haside

theorem Placed.same (h : v.Placed) (hslot : v'.slot = v.slot) (hholder : v'.holder = v.holder)
    (hline : v'.line = v.line) (hroles : v'.roles = v.roles) : v'.Placed := by
  obtain ⟨running, link, slot, holder, line, count, roles⟩ := v
  obtain ⟨running', link', slot', holder', line', count', roles'⟩ := v'
  simp only at hslot hholder hline hroles
  subst hslot hholder hline hroles
  exact ⟨h.held, h.holder, h.line, h.once, h.free, h.owned, h.borrowed⟩

@[grind =] theorem put_roles (v : Cells) (id : Nat) (r : Role) (i : Nat) :
    (v.put id r).roles i = if i = id then r else v.roles i := rfl

theorem Placed.aside (h : v.Placed) (hnow : (v.roles id).aside = true) (hr : r.holds = false) :
    (v.put id r).Placed := by
  obtain ⟨held, holder, line, once, free, owned, borrowed⟩ := h
  refine ⟨fun i hi => ?_, fun i hi => ?_, fun i hi => ?_, once, free, fun i conn hi => ?_, fun i conn hi => ?_⟩ <;>
    simp only [put] at hi ⊢ <;> grind -linarith

theorem Placed.hand (h : v.Placed) (hmine : v.holder = some id ∨ v.holder = none) (hr : r.aside = true)
    (slot : Option Nat) :
    ({ v with slot }.unlock.put id r).Placed := by
  obtain ⟨held, holder, line, once, free, owned, borrowed⟩ := h
  have hout : id ∉ v.line := by grind -linarith
  have hnobody : ∀ i, i ≠ id → (v.roles i).holds = false := by grind -linarith
  cases hl : v.line with
  | nil =>
    refine ⟨fun i hi => ?_, fun i hi => ?_, fun i hi => ?_, ?_, fun _ => ?_, fun i conn hi => ?_,
      fun i conn hi => ?_⟩ <;> simp only [put, unlock, hl, List.head?_nil, List.tail_nil] at * <;> grind -linarith
  | cons j js =>
    refine ⟨fun i hi => ?_, fun i hi => ?_, fun i hi => ?_, ?_, fun hf => ?_, fun i conn hi => ?_,
      fun i conn hi => ?_⟩ <;> simp only [put, unlock, hl, List.head?_cons, List.tail_cons] at * <;> grind -linarith

theorem Placed.hold (h : v.Placed) (id : Nat) (slot : Option Nat) (hmine : v.holder = some id ∨ v.holder = none)
    (hr : r.holds = true) (hown : ∀ conn, r.owns = some conn → slot = none)
    (hborrow : ∀ conn, r = .borrowing conn → slot = some conn) :
    ({ v with slot, holder := some id }.put id r).Placed := by
  obtain ⟨held, holder, line, once, free, owned, borrowed⟩ := h
  have hnobody : ∀ i, i ≠ id → (v.roles i).holds = false := by grind -linarith
  have hout : id ∉ v.line := by grind -linarith
  refine ⟨fun i hi => ?_, fun i hi => ?_, fun i hi => ?_, once, fun hf => ?_, fun i conn hi => ?_,
    fun i conn hi => ?_⟩ <;> simp only [put] at * <;> grind -linarith

theorem Placed.queue (h : v.Placed) (hrole : v.roles id = .lining) (hbusy : v.holder ≠ none)
    (hother : v.holder ≠ some id) (hnew : id ∉ v.line) : Placed { v with line := v.line ++ [id] } := by
  obtain ⟨held, holder, line, once, free, owned, borrowed⟩ := h
  refine ⟨held, holder, fun i hi => ?_, ?_, fun hfree => absurd hfree hbusy, owned, borrowed⟩
  · rcases List.mem_append.1 hi with hi | hi
    · exact line i hi
    · rw [List.mem_singleton.1 hi]
      exact ⟨hrole, hother⟩
  · exact List.nodup_append.2 ⟨once, List.pairwise_singleton _ _, fun i hi j hj hij =>
      hnew (List.mem_singleton.1 hj ▸ hij ▸ hi)⟩

theorem Placed.reslot (h : v.Placed) (hfree : v.holder = none) (slot : Option Nat) : Placed { v with slot } := by
  have hnobody : ∀ i, (v.roles i).holds = false := by
    intro i
    cases hi : (v.roles i).holds with
    | false => rfl
    | true => exact absurd ((h.held i hi).symm.trans hfree) (Option.some_ne_none i)
  refine ⟨h.held, h.holder, h.line, h.once, h.free, fun i conn hi => ?_, fun i conn hi => ?_⟩ <;> grind -linarith

theorem Placed.turn (h : v.Placed) (ht : Turn id v v') : v'.Placed := by
  have haside : ∀ {r₀ r : Role} (link : Option Nat) (running : Bool), v.roles id = r₀ → r₀.aside = true →
      r.holds = false → ({ v with link, running }.put id r).Placed := fun link running hrole hnow hr =>
    have hsame : Placed { v with link, running } := h.same rfl rfl rfl rfl
    hsame.aside (hrole ▸ hnow) hr
  have hmine : ∀ {r : Role}, v.roles id = r → r.holds = true → v.holder = some id ∨ v.holder = none :=
    fun hrole hr => .inl (h.held id (hrole ▸ hr))
  have hempty : ∀ {r : Role} {conn : Nat}, v.roles id = r → r.owns = some conn → v.slot = none ∧ v.holder = some id :=
    fun hrole hown => ⟨h.owned id _ (hrole ▸ hown), h.held id (hrole ▸ Role.holds_of_owns hown)⟩
  cases ht with
  | stay => exact h
  | leave hrole =>
    rcases hrole with hrole | hrole
    · exact haside v.link v.running hrole rfl rfl
    · exact haside v.link v.running hrole rfl rfl
  | forget hrole => exact haside _ v.running hrole rfl rfl
  | glance hrole hnone => exact h.hand (.inr hnone) rfl v.slot
  | create hrole hnone hslot hr =>
    refine (h.hold id v.slot (.inr hnone) ?_ ?_ ?_).same rfl rfl rfl rfl <;> grind -linarith [Role.holds]
  | replace hrole hnone hslot => exact h.hold id none (.inr hnone) rfl (fun _ _ => rfl) (by simp)
  | recreate hrole hr =>
    obtain ⟨hslot, hheld⟩ := hempty hrole rfl
    refine (h.hold id v.slot (.inl hheld) ?_ ?_ ?_).same rfl hheld rfl rfl <;> grind -linarith [Role.holds]
  | fail hrole =>
    obtain ⟨hslot, hheld⟩ := hempty hrole rfl
    exact (h.hold id v.slot (.inl hheld) rfl (fun _ _ => hslot) (by simp)).same rfl hheld rfl rfl
  | succeed hrole => exact h.hand (hmine hrole rfl) rfl _
  | failed hrole => exact (h.hand (hmine hrole rfl) rfl v.slot).same rfl rfl rfl rfl
  | cut hrole hlink => exact haside _ v.running hrole rfl rfl
  | submit hrole => exact haside v.link v.running hrole rfl rfl
  | queue hrole hbusy hother hnew => exact h.queue hrole hbusy hother hnew
  | pass hrole hmine' hslot => exact h.hand (hmine'.imp_right And.left) rfl v.slot
  | take hrole hmine' hslot => exact h.hold id none (hmine'.imp_right And.left) rfl (fun _ _ => rfl) (by simp)
  | closed hrole => exact h.hand (hmine hrole rfl) rfl v.slot
  | borrow hrole hnone hslot =>
    exact h.hold id v.slot (.inr hnone) rfl (by simp [Role.owns]) fun _ he => by rw [hslot, Role.borrowing.inj he]
  | settle hrole hrun => exact h.hand (hmine hrole rfl) rfl v.slot
  | clear hrole hrun hslot =>
    refine h.hold id none ?_ rfl (fun _ _ => rfl) (by simp)
    rcases hrole with ⟨-, hnone⟩ | ⟨conn', hborrow⟩
    · exact .inr hnone
    · exact hmine hborrow rfl
  | shut hrole hrun => exact haside v.link _ hrole rfl rfl
  | cancel hrole hlink => exact haside _ v.running hrole rfl rfl
  | skip hrole hlink => exact haside v.link v.running hrole rfl rfl
  | stop hrole => exact haside v.link v.running hrole rfl rfl
  | release hrole hnone => exact (h.reslot hnone none).aside (by rw [hrole]; rfl) rfl
  | miss hrole hbusy => exact haside v.link v.running hrole rfl rfl
  | start hrole => exact haside v.link _ hrole rfl rfl

/-- The connections in the slot and with the calls have been made. -/
structure Made (v : Cells) : Prop where
  slot : ∀ conn, v.slot = some conn → conn < v.count
  owned : ∀ i conn, (v.roles i).owns = some conn → conn < v.count

theorem Made.turn (h : v.Made) (ht : Turn id v v') : v'.Made := by
  obtain ⟨hslot, howned⟩ := h
  cases ht with
  | stay => exact ⟨hslot, howned⟩
  | queue => exact ⟨hslot, howned⟩
  | _ =>
    refine ⟨fun conn hs => ?_, fun i conn hi => ?_⟩ <;> simp only [put, unlock] at * <;> grind -linarith [Role.owns]

theorem Made.put (h : v.Made) (hr : r.owns = none) : (v.put id r).Made := by
  refine ⟨h.slot, fun i conn hi => ?_⟩
  by_cases hid : i = id
  · rw [put_roles, if_pos hid, hr] at hi
    cases hi
  · rw [put_roles, if_neg hid] at hi
    exact h.owned i conn hi

end Cells
end Doip
