import Mathlib.Tactic.Common
import Doip.Text.Numeral
import Doip.Proofs.Text.Hex

/-! The digits of a number and what is read of them. In every base up to sixteen the numerals that are written are read
back (`extend_toDigits`). What is read at all is one digit or more behind at most one sign (`read_eq_ok_iff`); of any
other text the first character is to blame that is no digit or makes the value too large (`read_eq_error_iff`). -/

namespace Doip.Numeral

variable {base bound n : Nat}

theorem digit?_digitChar {d : Nat} (hbase : base ≤ 16) (hd : d < base) : digit? base d.digitChar = some d := by
  have hsixteen : ∀ n < 16, digitValue? n.digitChar = some n := by decide
  rw [digit?, hsixteen d (by omega), Option.filter_some, if_pos (decide_eq_true hd)]

theorem extend_append (base bound value : Nat) (cs cs' : List Char) :
    extend base bound value (cs ++ cs') = extend base bound value cs >>= fun value => extend base bound value cs' := by
  induction cs generalizing value with
  | nil => rfl
  | cons c cs ih =>
    rw [List.cons_append, extend, extend]
    cases digit? base c with
    | none => rfl
    | some d =>
      dsimp only
      split
      · exact ih _
      · rfl

theorem toDigits_induction {P : Nat → List Char → Prop} (htwo : 1 < base)
    (one : ∀ d < base, P d [d.digitChar])
    (more : ∀ n d, n ≠ 0 → d < base → P n (base.toDigits n) → P (n * base + d) (base.toDigits n ++ [d.digitChar]))
    (n : Nat) : P n (base.toDigits n) := by
  induction n using Nat.strongRecOn with
  | _ n ih =>
    by_cases hone : n < base
    · rw [Nat.toDigits_of_lt_base hone]
      exact one n hone
    · have hrest : n / base ≠ 0 := Nat.ne_of_gt (Nat.div_pos (by omega) (by omega))
      have hstep := more (n / base) (n % base) hrest (Nat.mod_lt _ (by omega))
        (ih _ (Nat.div_lt_self (by omega) htwo))
      rw [Nat.div_add_mod'] at hstep
      rw [Nat.toDigits_of_base_le htwo (by omega)]
      exact hstep

/-- The digits of a number are read as that number, when it is not too large. -/
theorem extend_toDigits (htwo : 1 < base) (hbase : base ≤ 16) (hn : n ≤ bound) :
    extend base bound 0 (base.toDigits n) = .ok n := by
  refine toDigits_induction (P := fun n cs => n ≤ bound → extend base bound 0 cs = .ok n) htwo ?_ ?_ n hn
  · intro d hd hbound
    simp only [extend, digit?_digitChar hbase hd, Nat.zero_mul, Nat.zero_add, if_pos hbound]
  · intro n d _ hd ih hbound
    have hn : n ≤ n * base := Nat.le_mul_of_pos_right n (by omega)
    rw [extend_append, ih (by omega)]
    show extend base bound n [d.digitChar] = .ok (n * base + d)
    simp only [extend, digit?_digitChar hbase hd, if_pos hbound]

theorem isSome_digit? (htwo : 1 < base) (hbase : base ≤ 16) :
    ∀ c ∈ base.toDigits n, (digit? base c).isSome = true := by
  have hdigit : ∀ d < base, (digit? base d.digitChar).isSome = true := fun d hd => by
    rw [digit?_digitChar hbase hd]
    rfl
  refine toDigits_induction (P := fun _ cs => ∀ c ∈ cs, (digit? base c).isSome = true) htwo ?_ ?_ n
  · intro d hd c hc
    rw [List.mem_singleton.1 hc]
    exact hdigit d hd
  · intro n d _ hd ih c hc
    rcases List.mem_append.1 hc with hc | hc
    · exact ih c hc
    · rw [List.mem_singleton.1 hc]
      exact hdigit d hd

theorem head?_toDigits_append (base n : Nat) (rest : List Char) :
    (base.toDigits n ++ rest).head? = (base.toDigits n).head? := by
  obtain ⟨c, cs, hcs⟩ := List.exists_cons_of_ne_nil (Nat.toDigits_ne_nil (n := n) (b := base))
  rw [hcs]
  rfl

theorem head?_toDigits (htwo : 1 < base) (hbase : base ≤ 16) (hn : n ≠ 0) : (base.toDigits n).head? ≠ some '0' := by
  refine toDigits_induction (P := fun n cs => n ≠ 0 → cs.head? ≠ some '0') htwo ?_ ?_ n hn
  · have hsixteen : ∀ d < 16, d ≠ 0 → some d.digitChar ≠ some '0' := by decide
    exact fun d hd => hsixteen d (by omega)
  · intro n d hn _ ih _
    rw [head?_toDigits_append]
    exact ih hn

/-! Digits in either letter case. -/

/-- The character is the digit of value `d` in the given base. -/
def IsDigit (base : Nat) (c : Char) (d : Nat) : Prop := Hex.IsDigit c d ∧ d < base

theorem digitValue?_of_large {c : Char} (h : 128 ≤ c.toNat) : digitValue? c = none := by
  have hbeyond (c' : Char) (hc' : c'.toNat < 128) : ¬c ≤ c' := by
    rw [Char.le_def, UInt32.le_iff_toNat_le]
    exact Nat.not_le.2 (Nat.lt_of_lt_of_le hc' h)
  rw [digitValue?, if_neg fun h => hbeyond '9' (by decide) h.2, if_neg fun h => hbeyond 'z' (by decide) h.2,
    if_neg fun h => hbeyond 'Z' (by decide) h.2]

theorem digitValue?_eq_some_iff {c : Char} {d : Nat} (hd : d < 16) : digitValue? c = some d ↔ Hex.IsDigit c d := by
  by_cases hc : c.toNat < 128
  · have hvalue : (digitValue? c).filter (· < 16) = Hex.value? (UInt8.ofNat c.toNat) :=
      Hex.forall_ascii (P := fun c => (digitValue? c).filter (· < 16) = Hex.value? (UInt8.ofNat c.toNat))
        (by decide +kernel) hc
    rw [Hex.isDigit_iff, and_iff_right hc, ← hvalue, Option.filter_eq_some_iff, decide_eq_true_iff,
      and_iff_left hd]
  · rw [digitValue?_of_large (Nat.not_lt.1 hc)]
    exact ⟨nofun, fun h => absurd (Hex.isDigit_iff.1 h).1 hc⟩

theorem digit?_eq_some_iff (hbase : base ≤ 16) {c : Char} {d : Nat} : digit? base c = some d ↔ IsDigit base c d := by
  rw [digit?, Option.filter_eq_some_iff, decide_eq_true_iff]
  exact and_congr_left fun hd => digitValue?_eq_some_iff (Nat.lt_of_lt_of_le hd hbase)

theorem digit?_eq_none_iff (hbase : base ≤ 16) {c : Char} : digit? base c = none ↔ ∀ d, ¬IsDigit base c d := by
  rw [Option.eq_none_iff_forall_ne_some]
  exact forall_congr' fun d => not_congr (digit?_eq_some_iff hbase)

theorem IsDigit.unique (hbase : base ≤ 16) {c : Char} {d d' : Nat} (h : IsDigit base c d) (h' : IsDigit base c d') :
    d = d' := by
  have hd := (digit?_eq_some_iff hbase).2 h
  rw [(digit?_eq_some_iff hbase).2 h'] at hd
  exact (Option.some.inj hd).symm

/-! The value that digits have together. -/

variable {value : Nat} {c : Char} {cs : List Char} {ds : List Nat} {f : Fault}

/-- The value of further digits behind those of `value`. -/
def valueFrom (base value : Nat) (ds : List Nat) : Nat := ds.foldl (fun value d => value * base + d) value

theorem le_valueFrom (hbase : 0 < base) (value : Nat) (ds : List Nat) : value ≤ valueFrom base value ds := by
  induction ds generalizing value with
  | nil => exact Nat.le_refl value
  | cons d ds ih =>
    calc value ≤ value * base := Nat.le_mul_of_pos_right value hbase
      _ ≤ value * base + d := Nat.le_add_right _ d
      _ ≤ valueFrom base value (d :: ds) := ih _

theorem valueFrom_zeros (base zeros : Nat) (ds : List Nat) :
    valueFrom base 0 (List.replicate zeros 0 ++ ds) = valueFrom base 0 ds := by
  induction zeros with
  | zero => rfl
  | succ n ih =>
    rw [List.replicate_succ, List.cons_append, ← ih]
    simp only [valueFrom, List.foldl_cons, Nat.zero_mul, Nat.add_zero]

theorem extend_of_isDigit (hbase : base ≤ 16) {d : Nat} (h : IsDigit base c d) :
    extend base bound value (c :: cs) =
      if value * base + d ≤ bound then extend base bound (value * base + d) cs else .error .tooLarge := by
  rw [extend, (digit?_eq_some_iff hbase).2 h]

theorem extend_of_not_isDigit (hbase : base ≤ 16) (h : ∀ d, ¬IsDigit base c d) :
    extend base bound value (c :: cs) = .error .invalidDigit := by
  rw [extend, (digit?_eq_none_iff hbase).2 h]

theorem extend_eq_ok_iff (hpos : 0 < base) (hbase : base ≤ 16) (hvalue : value ≤ bound) :
    extend base bound value cs = .ok n ↔
      ∃ ds, List.Forall₂ (IsDigit base) cs ds ∧ valueFrom base value ds = n ∧ n ≤ bound := by
  induction cs generalizing value with
  | nil =>
    constructor
    · intro h
      cases h
      exact ⟨[], .nil, rfl, hvalue⟩
    · rintro ⟨_, hdigits, rfl, -⟩
      obtain rfl := List.forall₂_nil_left_iff.1 hdigits
      rfl
  | cons c cs ih =>
    constructor
    · intro h
      by_cases hdigit : ∃ d, IsDigit base c d
      · obtain ⟨d, hd⟩ := hdigit
        rw [extend_of_isDigit hbase hd] at h
        split_ifs at h with hbound
        obtain ⟨ds, hds, hn⟩ := (ih hbound).1 h
        exact ⟨d :: ds, .cons hd hds, hn⟩
      · rw [extend_of_not_isDigit hbase (not_exists.1 hdigit)] at h
        cases h
    · rintro ⟨_, hdigits, hn, hbound⟩
      obtain ⟨d, ds, hd, hds, rfl⟩ := List.forall₂_cons_left_iff.1 hdigits
      -- the digits that follow only add to the value
      have hstep : value * base + d ≤ bound := by
        have hle := le_valueFrom hpos (value * base + d) ds
        exact Nat.le_trans hle (hn ▸ hbound)
      rw [extend_of_isDigit hbase hd, if_pos hstep]
      exact (ih hstep).2 ⟨ds, hds, hn, hbound⟩

/-- A character that cannot stand behind digits of the given value. -/
inductive Offends (base bound value : Nat) (c : Char) : Fault → Prop
  | noDigit (h : ∀ d, ¬IsDigit base c d) : Offends base bound value c .invalidDigit
  | beyond {d : Nat} (h : IsDigit base c d) (hbound : bound < value * base + d) : Offends base bound value c .tooLarge

/-- The leftmost character that offends behind a value; the digits in front of it do not exceed the bound. -/
def FirstOffence (base bound value : Nat) (cs : List Char) (f : Fault) : Prop :=
  ∃ before c after ds, cs = before ++ c :: after ∧ List.Forall₂ (IsDigit base) before ds ∧
    valueFrom base value ds ≤ bound ∧ Offends base bound (valueFrom base value ds) c f

theorem firstOffence_cons (hvalue : value ≤ bound) :
    FirstOffence base bound value (c :: cs) f ↔
      Offends base bound value c f ∨ ∃ d, IsDigit base c d ∧ FirstOffence base bound (value * base + d) cs f := by
  constructor
  · rintro ⟨before, c', after, ds, hsplit, hdigits, hbound, hoffends⟩
    rcases List.cons_eq_append_iff.1 hsplit with ⟨rfl, hrest⟩ | ⟨before, rfl, hrest⟩
    · obtain rfl := List.forall₂_nil_left_iff.1 hdigits
      obtain ⟨rfl, rfl⟩ := List.cons.inj hrest
      exact .inl hoffends
    · obtain ⟨d, ds, hd, hds, rfl⟩ := List.forall₂_cons_left_iff.1 hdigits
      exact .inr ⟨d, hd, before, c', after, ds, hrest, hds, hbound, hoffends⟩
  · rintro (hoffends | ⟨d, hd, before, c', after, ds, rfl, hds, hbound, hoffends⟩)
    · exact ⟨[], c, cs, [], rfl, .nil, hvalue, hoffends⟩
    · exact ⟨c :: before, c', after, d :: ds, rfl, .cons hd hds, hbound, hoffends⟩

theorem FirstOffence.le_bound (hpos : 0 < base) (h : FirstOffence base bound value cs f) : value ≤ bound := by
  obtain ⟨_, _, _, ds, _, _, hbound, _⟩ := h
  exact Nat.le_trans (le_valueFrom hpos value ds) hbound

theorem extend_eq_error_iff (hpos : 0 < base) (hbase : base ≤ 16) (hvalue : value ≤ bound) :
    extend base bound value cs = .error f ↔ FirstOffence base bound value cs f := by
  induction cs generalizing value with
  | nil =>
    refine ⟨nofun, ?_⟩
    rintro ⟨before, _, _, _, hsplit, _⟩
    cases before <;> cases hsplit
  | cons c cs ih =>
    rw [firstOffence_cons hvalue]
    by_cases hdigit : ∃ d, IsDigit base c d
    · obtain ⟨d, hd⟩ := hdigit
      rw [extend_of_isDigit hbase hd]
      split_ifs with hbound
      · rw [ih hbound]
        constructor
        · exact fun h => .inr ⟨d, hd, h⟩
        · rintro ((hno | ⟨hd', hbeyond⟩) | ⟨d', hd', h⟩)
          · exact absurd hd (hno d)
          · exact absurd (hd.unique hbase hd' ▸ hbound) (Nat.not_le.2 hbeyond)
          · exact hd.unique hbase hd' ▸ h
      · constructor
        · intro h
          cases h
          exact .inl (.beyond hd (Nat.not_le.1 hbound))
        · rintro ((hno | -) | ⟨d', hd', h⟩)
          · exact absurd hd (hno d)
          · rfl
          · exact absurd (hd.unique hbase hd' ▸ h.le_bound hpos) hbound
    · rw [extend_of_not_isDigit hbase (not_exists.1 hdigit)]
      constructor
      · intro h
        cases h
        exact .inl (.noDigit (not_exists.1 hdigit))
      · rintro ((- | ⟨hd, -⟩) | ⟨d, hd, -⟩)
        · rfl
        · exact absurd ⟨_, hd⟩ hdigit
        · exact absurd ⟨d, hd⟩ hdigit

/-! Whole texts. -/

/-- One digit or more that have this value together. -/
structure Digits (base : Nat) (cs : List Char) (n : Nat) : Prop where
  ne_nil : cs ≠ []
  value : ∃ ds, List.Forall₂ (IsDigit base) cs ds ∧ valueFrom base 0 ds = n

/-- A text that is a numeral of this value: digits, behind one plus sign or none. -/
inductive Denotes (base : Nat) : List Char → Nat → Prop
  | plain {cs : List Char} {n : Nat} (h : Digits base cs n) : Denotes base cs n
  | signed {cs : List Char} {n : Nat} (h : Digits base cs n) : Denotes base ('+' :: cs) n

/-- What stands behind the sign. A sign by itself is none. -/
def unsigned : List Char → List Char
  | '+' :: c :: cs => c :: cs
  | cs => cs

/-- What is wrong with a text that is no numeral up to the bound. -/
inductive Misread (base bound : Nat) : List Char → Fault → Prop
  | empty : Misread base bound [] .empty
  | offence {cs : List Char} {f : Fault} (h : FirstOffence base bound 0 (unsigned cs) f) : Misread base bound cs f

theorem Digits.isDigit (h : Digits base cs n) : ∀ c ∈ cs, ∃ d, IsDigit base c d := by
  obtain ⟨-, ds, hds, -⟩ := h
  induction hds with
  | nil => exact fun _ hc => absurd hc List.not_mem_nil
  | cons hc _ ih => exact List.forall_mem_cons.2 ⟨⟨_, hc⟩, ih⟩

theorem read_eq (hne : cs ≠ []) : read base bound cs = extend base bound 0 (unsigned cs) := by
  fun_cases unsigned cs with
  | case1 c cs => rfl
  | case2 cs hplus =>
    rw [read]
    · exact hne
    · exact hplus

theorem not_isDigit_plus (base d : Nat) : ¬IsDigit base '+' d :=
  fun h => absurd h.1.mem (by decide)

theorem denotes_iff : Denotes base cs n ↔ Digits base (unsigned cs) n := by
  constructor
  · rintro (h | ⟨hne, hvalue⟩)
    · have hplain : unsigned cs = cs := by
        fun_cases unsigned cs with
        | case1 c cs =>
          obtain ⟨d, hd⟩ := h.isDigit '+' List.mem_cons_self
          exact absurd hd (not_isDigit_plus base d)
        | case2 => rfl
      rwa [hplain]
    · obtain ⟨c, cs, rfl⟩ := List.exists_cons_of_ne_nil hne
      exact ⟨List.cons_ne_nil c cs, hvalue⟩
  · intro h
    fun_cases unsigned cs with
    | case1 c cs => exact .signed h
    | case2 cs hplus =>
      rw [unsigned] at h
      · exact .plain h
      · exact hplus

/-- The texts that are read are the numerals up to the bound. -/
theorem read_eq_ok_iff (hpos : 0 < base) (hbase : base ≤ 16) :
    read base bound cs = .ok n ↔ Denotes base cs n ∧ n ≤ bound := by
  rw [denotes_iff]
  by_cases hne : cs = []
  · subst hne
    exact ⟨nofun, fun h => absurd rfl h.1.ne_nil⟩
  · have hbehind : unsigned cs ≠ [] := by
      fun_cases unsigned cs with
      | case1 c cs => exact List.cons_ne_nil c cs
      | case2 => exact hne
    rw [read_eq hne, extend_eq_ok_iff hpos hbase (Nat.zero_le bound)]
    constructor
    · rintro ⟨ds, h, hn, hbound⟩
      exact ⟨⟨hbehind, ds, h, hn⟩, hbound⟩
    · rintro ⟨⟨-, ds, h, hn⟩, hbound⟩
      exact ⟨ds, h, hn, hbound⟩

theorem read_eq_error_iff (hpos : 0 < base) (hbase : base ≤ 16) :
    read base bound cs = .error f ↔ Misread base bound cs f := by
  by_cases hne : cs = []
  · subst hne
    constructor
    · intro h
      cases h
      exact .empty
    · rintro (- | ⟨before, _, _, _, hsplit, _⟩)
      · rfl
      · cases before <;> cases hsplit
  · rw [read_eq hne, extend_eq_error_iff hpos hbase (Nat.zero_le bound)]
    constructor
    · exact .offence
    · rintro (- | h)
      · exact absurd rfl hne
      · exact h

/-! Numerals as they are written. -/

theorem isDigit_of_toLower (h : IsDigit base c.toLower n) : IsDigit base c n := by
  obtain ⟨hdigit, hn⟩ := h
  refine ⟨?_, hn⟩
  by_cases hc : c.toNat < 128
  · have hvalue : Hex.value? (UInt8.ofNat c.toLower.toNat) = Hex.value? (UInt8.ofNat c.toNat) :=
      Hex.forall_ascii (P := fun c => Hex.value? (UInt8.ofNat c.toLower.toNat) = Hex.value? (UInt8.ofNat c.toNat))
        (by decide +kernel) hc
    exact Hex.isDigit_iff.2 ⟨hc, hvalue ▸ (Hex.isDigit_iff.1 hdigit).2⟩
  · have hkept : c.toLower = c := by
      refine dif_neg fun h => hc ?_
      exact Nat.lt_of_le_of_lt (UInt32.le_iff_toNat_le.1 h.2) (by decide)
    rwa [hkept] at hdigit

theorem digits_toDigits (htwo : 1 < base) (hbase : base ≤ 16) (n : Nat) : Digits base (base.toDigits n) n := by
  have hread := extend_toDigits htwo hbase (Nat.le_refl n)
  obtain ⟨ds, hds, hn, -⟩ := (extend_eq_ok_iff (by omega) hbase (Nat.zero_le n)).1 hread
  exact ⟨Nat.toDigits_ne_nil, ds, hds, hn⟩

theorem Digits.of_toLower (h : Digits base (cs.map Char.toLower) n) : Digits base cs n := by
  obtain ⟨hne, ds, hds, hn⟩ := h
  rw [List.forall₂_map_left_iff] at hds
  exact ⟨mt (congrArg (List.map Char.toLower)) hne, ds, hds.imp fun _ _ => isDigit_of_toLower, hn⟩

theorem Digits.zeros (hpos : 0 < base) (h : Digits base cs n) (zeros : Nat) :
    Digits base (List.replicate zeros '0' ++ cs) n := by
  obtain ⟨hne, ds, hds, rfl⟩ := h
  have hzeros : List.Forall₂ (IsDigit base) (List.replicate zeros '0') (List.replicate zeros 0) := by
    induction zeros with
    | zero => exact .nil
    | succ k ih => exact .cons ⟨.inl rfl, hpos⟩ ih
  exact ⟨List.append_ne_nil_of_right_ne_nil _ hne, _, List.rel_append hzeros hds, valueFrom_zeros base zeros ds⟩

end Doip.Numeral
