import Doip.Proofs.Conversation.Tidy

/-! What the link reaches, in every reachable conversation, the end of its worker included: it never reaches another
connection than the one in the slot, or the one that the call with the slot is setting up or letting go (`Aligned`).
So the state that a conversation shows is the state of the connection that a request uses. -/

namespace Doip

namespace Cells

variable {v v' : Cells} {id conn : Nat} {r : Role}

/-- The link reaches the given connection, or none. -/
def Reaches (v : Cells) (conn : Nat) : Prop := v.link = none ∨ v.link = some conn

structure Aligned (v : Cells) : Prop where
  slot : ∀ conn, v.slot = some conn → v.Reaches conn
  building : ∀ i conn, v.roles i = .building conn → v.Reaches conn
  closing : ∀ i conn, v.roles i = .closing conn → v.Reaches conn

theorem Aligned.turn (h : v.Aligned) (hp : v.Placed) (ht : Turn id v v') : v'.Aligned := by
  obtain ⟨slot, building, closing⟩ := h
  obtain ⟨held, -, -, -, -, owned, -⟩ := hp
  cases ht with
  | stay => exact ⟨slot, building, closing⟩
  | queue => exact ⟨slot, building, closing⟩
  | _ =>
    refine ⟨fun conn hs => ?_, fun i conn hi => ?_, fun i conn hi => ?_⟩ <;>
      simp only [put, unlock, Reaches] at * <;> grind -linarith [Role.holds, Role.owns]

theorem Turn.link_eq (ht : Turn id v v') (h : v.roles id = .borrowing conn ∨ v.roles id = .closing conn) :
    v'.link = v.link := by
  cases ht <;> simp_all [put, unlock]

end Cells

namespace Conversation

variable {w : Worker} {e : Event} {id conn : Nat} {c : Conversation} {k : Connection}

/-! The end of the worker. -/

theorem dropTask_ways (c : Conversation) (i : Nat) :
    (c.dropTask i).link = c.link ∧ (c.dropTask i).slot = c.slot := by
  unfold dropTask
  split
  · exact ⟨rfl, rfl⟩
  · split
    · exact ⟨rfl, rfl⟩
    · rename_i call conn _
      cases conn <;> exact ⟨rfl, rfl⟩

theorem dropAll_ways (is : List Nat) (c : Conversation) :
    (is.foldl dropTask c).link = c.link ∧ (is.foldl dropTask c).slot = c.slot := by
  induction is generalizing c with
  | nil => exact ⟨rfl, rfl⟩
  | cons i is ih => exact ⟨(ih _).1.trans (dropTask_ways c i).1, (ih _).2.trans (dropTask_ways c i).2⟩

theorem dropTasks_aside (c : Conversation) (i : Nat) : (c.dropTasks.roleOf i).aside = true := by
  rw [roleOf, dropTasks_threads]
  cases c.threads[i]? with
  | none => rfl
  | some t =>
    obtain ⟨call, inside⟩ := t
    cases call with
    | connect target host point => cases point <;> rfl
    | disconnect point => cases point <;> rfl
    | request data point => cases point <;> rfl
    | shutdown point => cases point <;> rfl
    | startup => rfl
    | returned outcome =>
      cases outcome with
      | connect result => cases result <;> rfl
      | _ => rfl

/-! Every event. -/

/-- What holds of the cells in every reachable conversation. -/
structure Fitting (v : Cells) : Prop where
  placed : v.Placed
  made : v.Made
  aligned : v.Aligned

theorem Fitting.fresh (settings : ConversationSettings) (version : UInt8) (servers : List ServerMapping)
    (running : Bool) : Fitting (cells { settings, version, servers, running }) :=
  have htidy := Tidy.fresh settings version servers running
  ⟨htidy.placed, htidy.made, nofun, nofun, nofun⟩

theorem Fitting.call {v : Cells} (h : Fitting v) (hnew : v.roles id = .away) {r : Role}
    (hr : r = .away ∨ r = .starting) : Fitting (v.put id r) := by
  have hholds : r.holds = false ∧ r.owns = none := by rcases hr with rfl | rfl <;> exact ⟨rfl, rfl⟩
  have hold : ∀ i r', (v.put id r).roles i = r' → r'.holds = true → v.roles i = r' := by
    intro i r' hi hr'
    by_cases hid : i = id
    · rw [Cells.put_roles, if_pos hid] at hi
      rw [← hi, hholds.1] at hr'
      cases hr'
    · rwa [Cells.put_roles, if_neg hid] at hi
  exact ⟨h.placed.aside (by rw [hnew]; rfl) hholds.1, h.made.put hholds.2, h.aligned.slot,
    fun i conn hi => h.aligned.building i conn (hold i _ hi rfl),
    fun i conn hi => h.aligned.closing i conn (hold i _ hi rfl)⟩

theorem Fitting.dropTasks (h : Fitting c.cells) : Fitting c.dropTasks.cells := by
  obtain ⟨hlink, hslot⟩ := dropAll_ways (List.range c.threads.length) c
  have hreaches : ∀ conn, c.cells.Reaches conn → c.dropTasks.cells.Reaches conn := by
    intro conn hr
    rwa [Cells.Reaches, show c.dropTasks.cells.link = c.cells.link from congrArg (·.map Link.connection) hlink]
  have hnot : ∀ i r, c.dropTasks.cells.roles i = r → r.aside = true := by
    rintro i r rfl
    exact dropTasks_aside c i
  have hfree : ∀ i, (c.dropTasks.cells.roles i).holds ≠ true := by
    intro i hi
    have haside := hnot i _ rfl
    rw [Role.aside, hi] at haside
    cases haside
  refine ⟨⟨fun i hi => absurd hi (hfree i), nofun, nofun, List.nodup_nil, fun _ => rfl, fun i conn hi => ?_,
    fun i conn hi => ?_⟩, ⟨fun conn hs => ?_, fun i conn hi => ?_⟩, fun conn hs => ?_, fun i conn hi => ?_,
    fun i conn hi => ?_⟩
  · exact absurd (Role.holds_of_owns hi) (hfree i)
  · exact absurd (hnot i _ hi) Bool.false_ne_true
  · have hlt := h.made.slot conn (hslot.symm.trans hs)
    obtain ⟨k', hk', -⟩ := (dropTasks_drains c).goes conn _ (List.getElem?_eq_getElem hlt)
    exact (List.getElem?_eq_some_iff.1 hk').1
  · exact absurd (Role.holds_of_owns hi) (hfree i)
  · exact hreaches conn (h.aligned.slot conn (hslot.symm.trans hs))
  · exact absurd (hnot i _ hi) Bool.false_ne_true
  · exact absurd (hnot i _ hi) Bool.false_ne_true

theorem Reachable.fitting (h : Reachable c) : Fitting c.cells := by
  induction h with
  | fresh settings version servers running => exact .fresh settings version servers running
  | @apply c h w e ih =>
    cases e with
    | call op inside =>
      have hcells : (c.apply w (.call op inside)).cells = c.cells.put c.threads.length (Call.of op).role :=
        call_cells c op inside
      rw [hcells]
      exact ih.call (roleOf_new c) (role_of op)
    | advance id =>
      have hturn := advance_turn h.exclusive w id
      exact ⟨ih.placed.turn hturn, ih.made.turn hturn, ih.aligned.turn ih.placed hturn⟩
    | shutDown =>
      have hcells : (c.apply w .shutDown).cells = c.cells := by
        simp only [cells, Conversation.apply, List.length_map]
        rfl
      rwa [hcells]
    | dropTasks => exact ih.dropTasks
    | _ =>
      rw [network_cells (by rfl) w c]
      exact ih

/-- A conversation shows the state of the connection that its link reaches, if it reaches one. -/
theorem state_of_reaches (h : c.cells.Reaches conn) (hk : c.connections[conn]? = some k) :
    (c.link = none ∧ c.state = .disconnected) ∨ c.state = k.state := by
  rcases h with hnone | hsome
  · have hlink : c.link = none := Option.map_eq_none_iff.1 hnone
    exact .inl ⟨hlink, by simp [state, hlink]⟩
  · obtain ⟨l, hlink, rfl⟩ := Option.map_eq_some_iff.1 hsome
    exact .inr (by simp [state, hlink, hk])

end Conversation
end Doip
