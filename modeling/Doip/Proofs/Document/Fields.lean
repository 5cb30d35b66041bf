import Mathlib.Tactic.Common
import Doip.Proofs.Document.Layout

/-! Records as tables, with fields left out. A field that holds its default may be left out of the table of a record;
whether it is or not, the same is read of it (`Value.optional_keeps`). -/

namespace Doip

/-- A field of a record as it is written, and whether it holds what it stands for when it is left out. -/
structure Field where
  name : String
  value : Value
  isDefault : Bool := false

namespace Value

variable {omitted : String → Bool} {fields : List Field}

/-- The fields of a record that are written when some of the others are left out. -/
def kept (omitted : String → Bool) (fields : List Field) : List (String × Value) :=
  (fields.filter fun f => !(omitted f.name && f.isDefault)).map fun f => (f.name, f.value)

/-- The table of a record without fields that hold their defaults. -/
def abridged (omitted : String → Bool) (fields : List Field) : Value := .ofFields (kept omitted fields)

theorem abridged_nothing (fields : List Field) :
    abridged (fun _ => false) fields = .ofFields (fields.map fun f => (f.name, f.value)) := by
  have hall : fields.filter (fun f => !(false && f.isDefault)) = fields := List.filter_eq_self.2 fun _ _ => rfl
  rw [abridged, kept, hall]

theorem Named.ofFields {fs : List (String × Value)} (h : ∀ f ∈ fs, f.2.Named) : (Value.ofFields fs).Named := by
  refine .table (fun m hm => ?_) (fun m hm => ?_)
  · obtain ⟨f, -, rfl⟩ := List.mem_map.1 hm
    rfl
  · obtain ⟨f, hf, rfl⟩ := List.mem_map.1 hm
    exact h f hf

theorem Named.abridged (h : ∀ f ∈ fields, f.value.Named) : (Value.abridged omitted fields).Named := by
  refine .ofFields fun kv hkv => ?_
  obtain ⟨f, hf, rfl⟩ := List.mem_map.1 hkv
  exact h f (List.mem_filter.1 hf).1

theorem record?_ofFields {longer : Bool} {names : List String} {fs : List (String × Value)}
    (hnames : ∀ f ∈ fs, f.1 ∈ names) (hnodup : (fs.map (·.1)).Nodup) :
    record? longer names (ofFields fs) = some fs := by
  have hknown : (fs.map fun f => (some f.1, f.2)).filterMap
      (fun m : Option String × Value => m.1.bind fun name => if name ∈ names then some (name, m.2) else none) = fs := by
    rw [List.filterMap_map]
    conv_rhs => rw [← List.filterMap_some (l := fs)]
    exact List.filterMap_congr fun f hf => if_pos (hnames f hf)
  have hkeys : (fs.map fun f => (some f.1, f.2)).all (fun m : Option String × Value => m.1.isSome) = true := by
    simp
  unfold record? ofFields
  dsimp only
  rw [hknown, if_pos ⟨hkeys, hnodup⟩]

theorem record?_abridged {longer : Bool} (omitted : String → Bool) (hnodup : (fields.map Field.name).Nodup) :
    record? longer (fields.map Field.name) (abridged omitted fields) = some (kept omitted fields) := by
  refine record?_ofFields (fun kv hkv => ?_) ?_
  · obtain ⟨f, hf, rfl⟩ := List.mem_map.1 hkv
    exact List.mem_map_of_mem (List.mem_filter.1 hf).1
  · rw [kept, List.map_map]
    exact hnodup.sublist (List.filter_sublist.map _)

/-- What is found of a field. -/
def Keeps (omitted : String → Bool) (fs : List (String × Value)) (f : Field) : Prop :=
  fs.lookup f.name = if omitted f.name && f.isDefault then none else some f.value

theorem keeps_kept (omitted : String → Bool) (hnodup : (fields.map Field.name).Nodup) :
    ∀ f ∈ fields, Keeps omitted (kept omitted fields) f := by
  induction fields with
  | nil => exact nofun
  | cons first fields ih =>
    rw [List.map_cons, List.nodup_cons] at hnodup
    obtain ⟨hfirst, hrest⟩ := hnodup
    have hcons : kept omitted (first :: fields) = if omitted first.name && first.isDefault then kept omitted fields
        else (first.name, first.value) :: kept omitted fields := by
      rw [kept, List.filter_cons]
      cases hout : omitted first.name && first.isDefault <;> rfl
    intro f hf
    rcases List.mem_cons.1 hf with rfl | hf
    -- names are unique: a field that is left out is not found under that of another
    · have hnone : (kept omitted fields).lookup f.name = none := by
        refine List.lookup_eq_none_iff.2 fun kv hkv => ?_
        obtain ⟨f', hf', rfl⟩ := List.mem_map.1 hkv
        have hother : f.name ≠ f'.name := fun h => hfirst (h ▸ List.mem_map_of_mem (List.mem_filter.1 hf').1)
        simpa using hother
      rw [Keeps, hcons]
      split
      · exact hnone
      · exact List.lookup_cons_self
    · have hother : (f.name == first.name) = false :=
        beq_false_of_ne fun h => hfirst (h ▸ List.mem_map_of_mem hf)
      have hkeeps := ih hrest f hf
      rw [Keeps, hcons]
      split
      · exact hkeeps
      · rw [List.lookup_cons, hother]
        exact hkeeps

/-- Whatever is left out, the table of a record is read, and each field is kept or stands for its default. -/
theorem exists_kept (longer : Bool) (omitted : String → Bool) {names : List String}
    (hnames : fields.map Field.name = names) (hnodup : names.Nodup) :
    ∃ fs, record? longer names (abridged omitted fields) = some fs ∧ ∀ f ∈ fields, Keeps omitted fs f := by
  subst hnames
  exact ⟨_, record?_abridged omitted hnodup, keeps_kept omitted hnodup⟩

variable {α : Type} {fs : List (String × Value)} {f : Field} {default x : α} {decode : Value → Option α}

theorem optional_keeps (h : Keeps omitted fs f) (hread : decode f.value = some x)
    (hdefault : f.isDefault = true → x = default) : optional fs f.name default decode = some x := by
  rw [Keeps] at h
  rw [optional, h]
  split_ifs with hout
  · rw [hdefault (Bool.and_eq_true_iff.1 hout).2]
  · exact hread

theorem required_keeps (h : Keeps omitted fs f) (hrequired : f.isDefault = false) (hread : decode f.value = some x) :
    required fs f.name decode = some x := by
  rw [Keeps, hrequired, Bool.and_false] at h
  rw [required, h]
  exact hread

theorem list?_mapIdx {write : Nat → α → Value} (h : ∀ i x, decode (write i x) = some x) (xs : List α) :
    list? decode (.list (xs.mapIdx write)) = some xs := by
  rw [list?]
  induction xs generalizing write with
  | nil => rfl
  | cons x xs ih =>
    have hrest := ih fun i => h (i + 1)
    rw [List.mapIdx_cons, List.mapM_cons, h, hrest]
    rfl

/-! The numbers of fixed width. -/

theorem byte?_toNat (n : UInt8) : byte? (.natural n.toNat) = some n := by
  have hn : n.toNat ≤ UInt8.size - 1 := Nat.le_pred_of_lt n.toNat_lt
  rw [byte?, naturalUpTo, if_pos hn, Option.map_some, UInt8.ofNat_toNat]

theorem word?_toNat (n : UInt16) : word? (.natural n.toNat) = some n := by
  have hn : n.toNat ≤ UInt16.size - 1 := Nat.le_pred_of_lt n.toNat_lt
  rw [word?, naturalUpTo, if_pos hn, Option.map_some, UInt16.ofNat_toNat]

theorem doubleWord?_toNat (n : UInt32) : doubleWord? (.natural n.toNat) = some n := by
  have hn : n.toNat ≤ UInt32.size - 1 := Nat.le_pred_of_lt n.toNat_lt
  rw [doubleWord?, naturalUpTo, if_pos hn, Option.map_some, UInt32.ofNat_toNat]

theorem quadWord?_toNat (n : UInt64) : quadWord? (.natural n.toNat) = some n := by
  have hn : n.toNat ≤ UInt64.size - 1 := Nat.le_pred_of_lt n.toNat_lt
  rw [quadWord?, naturalUpTo, if_pos hn, Option.map_some, UInt64.ofNat_toNat]

end Value
end Doip
