import Mathlib.Data.List.Forall2
import Doip.Text.Blank
import Doip.Text.Hex
import Doip.Proofs.Text.Utf8

/-! What hexadecimal texts say. A text spells bytes when its characters are their digits, the higher one of each byte
first and each in either letter case (`Spells`). Reading works on the bytes of the text in UTF-8, where no character
beyond ASCII has a byte that is a digit (`shows_encode`). So a text is read as the bytes that it spells
(`decode_eq_ok_iff`); of a text that spells none, the number of bytes or the first bad one is named
(`decode_eq_error_iff`). -/

namespace Doip.Hex

variable {c : Char} {cs : List Char} {bs text : Bytes} {b : UInt8} {n position : Nat}

/-- The character is the digit of value `n`, in either letter case. -/
def IsDigit (c : Char) (n : Nat) : Prop := lowerDigits[n]? = some c ∨ upperDigits[n]? = some c

instance (c : Char) (n : Nat) : Decidable (IsDigit c n) := inferInstanceAs (Decidable (_ ∨ _))

/-- The values of the two digits of a byte. -/
def nibbles (b : UInt8) : List Nat := [b.toNat / 16, b.toNat % 16]

/-- The characters are the digits of the bytes. -/
def Spells (cs : List Char) (bs : Bytes) : Prop := List.Forall₂ IsDigit cs (bs.flatMap nibbles)

/-! Digits and their values. -/

theorem IsDigit.lt (h : IsDigit c n) : n < 16 := by
  rcases h with h | h <;> exact (List.getElem?_eq_some_iff.1 h).1

theorem IsDigit.mem (h : IsDigit c n) : c ∈ lowerDigits ++ upperDigits :=
  List.mem_append.2 (h.imp List.mem_of_getElem? List.mem_of_getElem?)

theorem IsDigit.elim {P : Char → Nat → Prop} (h : IsDigit c n)
    (hall : ∀ n < 16, P (lowerDigits.getD n '0') n ∧ P (upperDigits.getD n '0') n) : P c n := by
  have hn := hall n h.lt
  simp only [List.getD_eq_getElem?_getD] at hn
  rcases h with h | h <;> rw [h] at hn
  · exact hn.1
  · exact hn.2

theorem IsDigit.not_blank (h : IsDigit c n) : Blank.isBlank c = false :=
  h.elim (P := fun c _ => Blank.isBlank c = false) (by decide)

theorem forall_ascii {P : Char → Prop} (h : ∀ k < 128, P (Char.ofNat k)) (hc : c.toNat < 128) : P c := by
  have hchar := h c.toNat hc
  rwa [Char.ofNat_toNat] at hchar

theorem value?_lt (h : value? b = some n) : n < 16 := by
  simp only [value?] at h
  split_ifs at h <;> cases h <;> omega

theorem value?_of_large (h : 128 ≤ b.toNat) : value? b = none := by
  simp only [value?]
  split_ifs <;> first | rfl | omega

theorem isDigit_iff : IsDigit c n ↔ c.toNat < 128 ∧ value? (UInt8.ofNat c.toNat) = some n := by
  constructor
  · intro h
    exact h.elim (P := fun c n => c.toNat < 128 ∧ value? (UInt8.ofNat c.toNat) = some n) (by decide)
  · rintro ⟨hc, hvalue⟩
    exact forall_ascii (P := fun c => ∀ n ∈ value? (UInt8.ofNat c.toNat), IsDigit c n) (by decide +kernel) hc n hvalue

/-! Texts in UTF-8. -/

/-- The bytes are the digits of these values. -/
def Shows (text : Bytes) (ns : List Nat) : Prop := List.Forall₂ (fun b n => value? b = some n) text ns

/-- The bytes of a text are digits exactly where its characters are. -/
theorem shows_encode {ns : List Nat} : Shows (Utf8.encode cs) ns ↔ List.Forall₂ IsDigit cs ns := by
  induction cs generalizing ns with
  | nil =>
    show Shows [] ns ↔ _
    rw [Shows, List.forall₂_nil_left_iff, List.forall₂_nil_left_iff]
  | cons c cs ih =>
    rw [List.forall₂_cons_left_iff, Utf8.encode, List.flatMap_cons, ← Utf8.encode]
    by_cases hc : c.toNat < 128
    · rw [Utf8.utf8EncodeChar_of_lt hc, List.singleton_append, Shows, List.forall₂_cons_left_iff]
      constructor
      · rintro ⟨n, ns, hn, hns, rfl⟩
        exact ⟨n, ns, isDigit_iff.2 ⟨hc, hn⟩, ih.1 hns, rfl⟩
      · rintro ⟨n, ns, hn, hns, rfl⟩
        exact ⟨n, ns, (isDigit_iff.1 hn).2, ih.2 hns, rfl⟩
    · obtain ⟨b, bs, hbytes, hb⟩ := Utf8.utf8EncodeChar_of_le (Nat.not_lt.1 hc)
      rw [hbytes, List.cons_append, Shows, List.forall₂_cons_left_iff]
      constructor
      · rintro ⟨n, _, hn, _⟩
        rw [value?_of_large hb] at hn
        cases hn
      · rintro ⟨n, _, hn, _⟩
        exact absurd (isDigit_iff.1 hn).1 hc

/-! Reading. -/

theorem nibbles_pair {hi lo : Nat} (hhi : hi < 16) (hlo : lo < 16) :
    nibbles (UInt8.ofNat (hi * 16 + lo)) = [hi, lo] := by
  rw [nibbles, UInt8.toNat_ofNat', Nat.mod_eq_of_lt (by omega)]
  congr 2 <;> omega

theorem ofNat_nibbles (b : UInt8) : UInt8.ofNat (b.toNat / 16 * 16 + b.toNat % 16) = b := by
  rw [Nat.div_add_mod', UInt8.ofNat_toNat]

/-- The byte is a digit, as the character of its number. -/
def IsDigitByte (b : UInt8) : Prop := ∃ n, IsDigit (Char.ofNat b.toNat) n

theorem isDigitByte_iff : IsDigitByte b ↔ value? b ≠ none := by
  have hvalid : b.toNat.isValidChar := .inl (Nat.lt_trans b.toNat_lt (by decide))
  have hchar := Utf8.toNat_ofNat hvalid
  rw [Option.ne_none_iff_exists']
  refine exists_congr fun n => ?_
  rw [isDigit_iff, hchar, UInt8.ofNat_toNat]
  refine and_iff_right_of_imp fun h => ?_
  by_contra hlarge
  rw [value?_of_large (Nat.not_lt.1 hlarge)] at h
  cases h

/-- The byte is the first one of a text that is no digit, and this many digits stand in front of it. -/
def FirstBad (text : Bytes) (b : UInt8) (position : Nat) : Prop :=
  ∃ before after, text = before ++ b :: after ∧ before.length = position ∧ (∀ d ∈ before, IsDigitByte d) ∧
    ¬IsDigitByte b

theorem firstBad_cons_of_none {a : UInt8} (h : value? a = none) :
    FirstBad (a :: text) b position ↔ b = a ∧ position = 0 := by
  have ha : ¬IsDigitByte a := fun hdigit => isDigitByte_iff.1 hdigit h
  constructor
  · rintro ⟨before, after, hsplit, rfl, hbefore, -⟩
    rcases List.cons_eq_append_iff.1 hsplit with ⟨rfl, hrest⟩ | ⟨before, rfl, -⟩
    · exact ⟨(List.cons.inj hrest).1, rfl⟩
    · exact absurd (hbefore a List.mem_cons_self) ha
  · rintro ⟨rfl, rfl⟩
    exact ⟨[], text, rfl, rfl, fun _ hd => absurd hd List.not_mem_nil, ha⟩

theorem firstBad_cons_of_some {a : UInt8} (h : value? a = some n) :
    FirstBad (a :: text) b position ↔ ∃ i, position = i + 1 ∧ FirstBad text b i := by
  have ha : IsDigitByte a := isDigitByte_iff.2 (h ▸ Option.some_ne_none n)
  constructor
  · rintro ⟨before, after, hsplit, rfl, hbefore, hb⟩
    rcases List.cons_eq_append_iff.1 hsplit with ⟨rfl, hrest⟩ | ⟨before, rfl, hrest⟩
    · exact absurd ((List.cons.inj hrest).1 ▸ ha) hb
    · exact ⟨_, rfl, before, after, hrest, rfl, fun d hd => hbefore d (List.mem_cons_of_mem a hd), hb⟩
  · rintro ⟨_, rfl, before, after, rfl, rfl, hbefore, hb⟩
    exact ⟨a :: before, after, rfl, rfl, List.forall_mem_cons.2 ⟨ha, hbefore⟩, hb⟩

theorem decodeFrom_first {a a' : UInt8} (ha : value? a = none) :
    decodeFrom position (a :: a' :: text) = .error (.badByte a position) := by
  rw [decodeFrom, digitAt, ha]
  rfl

theorem decodeFrom_second {a a' : UInt8} (ha : value? a = some n) (ha' : value? a' = none) :
    decodeFrom position (a :: a' :: text) = .error (.badByte a' (position + 1)) := by
  rw [decodeFrom, digitAt, digitAt, ha, ha']
  rfl

theorem decodeFrom_pair {a a' : UInt8} {hi lo : Nat} (ha : value? a = some hi) (ha' : value? a' = some lo) :
    decodeFrom position (a :: a' :: text) =
      (decodeFrom (position + 2) text).map (UInt8.ofNat (hi * 16 + lo) :: ·) := by
  rw [decodeFrom, digitAt, digitAt, ha, ha']
  cases decodeFrom (position + 2) text <;> rfl

theorem pairs_induction {α : Type} {P : List α → Prop} {xs : List α} (nil : P [])
    (pair : ∀ x x' xs, P xs → P (x :: x' :: xs)) (heven : xs.length % 2 = 0) : P xs := by
  induction hn : xs.length using Nat.strongRecOn generalizing xs with
  | ind n ih =>
    match xs, heven with
    | [], _ => exact nil
    | x :: x' :: rest, heven =>
      simp only [List.length_cons] at heven hn
      exact pair x x' rest (ih rest.length (by omega) (by omega) rfl)

theorem decodeFrom_of_shows (h : Shows text (bs.flatMap nibbles)) : decodeFrom position text = .ok bs := by
  induction bs generalizing position text with
  | nil =>
    obtain rfl := List.forall₂_nil_right_iff.1 h
    rfl
  | cons b bs ih =>
    rw [List.flatMap_cons, nibbles, List.cons_append, List.singleton_append] at h
    obtain ⟨a, _, ha, hbehind, rfl⟩ := List.forall₂_cons_right_iff.1 h
    obtain ⟨a', text, ha', hrest, rfl⟩ := List.forall₂_cons_right_iff.1 hbehind
    rw [decodeFrom_pair ha ha', ih hrest]
    exact congrArg (fun b => Except.ok (b :: bs)) (ofNat_nibbles b)

theorem decodeFrom_of_firstBad (heven : text.length % 2 = 0) {i : Nat} (h : FirstBad text b i) :
    decodeFrom position text = .error (.badByte b (position + i)) := by
  refine pairs_induction (P := fun text => ∀ i position, FirstBad text b i →
    decodeFrom position text = .error (.badByte b (position + i))) ?_ ?_ heven i position h
  · rintro i position ⟨before, after, hsplit, -⟩
    cases before <;> cases hsplit
  · intro a a' text ih i position h
    cases ha : value? a with
    | none =>
      obtain ⟨rfl, rfl⟩ := (firstBad_cons_of_none ha).1 h
      exact decodeFrom_first ha
    | some hi =>
      obtain ⟨j, rfl, hbehind⟩ := (firstBad_cons_of_some ha).1 h
      cases ha' : value? a' with
      | none =>
        obtain ⟨rfl, rfl⟩ := (firstBad_cons_of_none ha').1 hbehind
        exact decodeFrom_second ha ha'
      | some lo =>
        obtain ⟨k, rfl, hrest⟩ := (firstBad_cons_of_some ha').1 hbehind
        have hplace : position + 2 + k = position + (k + 1 + 1) := by omega
        rw [decodeFrom_pair ha ha', ih k (position + 2) hrest, hplace]
        rfl

theorem shows_or_firstBad (heven : text.length % 2 = 0) :
    (∃ bs : Bytes, Shows text (bs.flatMap nibbles)) ∨ ∃ b i, FirstBad text b i := by
  refine pairs_induction (P := fun text => (∃ bs : Bytes, Shows text (bs.flatMap nibbles)) ∨ ∃ b i, FirstBad text b i)
    (.inl ⟨[], .nil⟩) (fun a a' text ih => ?_) heven
  cases ha : value? a with
  | none => exact .inr ⟨a, 0, (firstBad_cons_of_none ha).2 ⟨rfl, rfl⟩⟩
  | some hi =>
    cases ha' : value? a' with
    | none => exact .inr ⟨a', 1, (firstBad_cons_of_some ha).2 ⟨0, rfl, (firstBad_cons_of_none ha').2 ⟨rfl, rfl⟩⟩⟩
    | some lo =>
      rcases ih with ⟨bs, hbs⟩ | ⟨b, i, hb⟩
      · refine .inl ⟨UInt8.ofNat (hi * 16 + lo) :: bs, ?_⟩
        rw [List.flatMap_cons, nibbles_pair (value?_lt ha) (value?_lt ha')]
        exact .cons ha (.cons ha' hbs)
      · exact .inr ⟨b, i + 2, (firstBad_cons_of_some ha).2 ⟨i + 1, rfl, (firstBad_cons_of_some ha').2 ⟨i, rfl, hb⟩⟩⟩

theorem Spells.length (h : Spells cs bs) : cs.length = bs.length * 2 := by
  rw [List.Forall₂.length_eq h, List.length_flatMap]
  simp [nibbles]

theorem Spells.eq_nil_iff (h : Spells cs bs) : cs = [] ↔ bs = [] := by
  have := h.length
  rw [← List.length_eq_zero_iff, ← List.length_eq_zero_iff]
  omega

theorem Spells.isDigit (h : Spells cs bs) : ∀ c ∈ cs, ∃ n, IsDigit c n := by
  unfold Spells at h
  generalize bs.flatMap nibbles = ns at h
  induction h with
  | nil => exact fun _ hc => absurd hc List.not_mem_nil
  | cons hc _ ih => exact List.forall_mem_cons.2 ⟨⟨_, hc⟩, ih⟩

theorem exists_spells_iff : (∃ bs, Spells cs bs) ↔ cs.length % 2 = 0 ∧ ∀ c ∈ cs, ∃ n, IsDigit c n := by
  constructor
  · rintro ⟨bs, h⟩
    have := h.length
    exact ⟨by omega, h.isDigit⟩
  · rintro ⟨heven, hdigits⟩
    refine pairs_induction (P := fun cs => (∀ c ∈ cs, ∃ n, IsDigit c n) → ∃ bs, Spells cs bs) ?_ ?_ heven hdigits
    · exact fun _ => ⟨[], .nil⟩
    · intro c c' cs ih hdigits
      obtain ⟨⟨hi, hhi⟩, ⟨lo, hlo⟩, hrest⟩ := by simpa only [List.forall_mem_cons] using hdigits
      obtain ⟨bs, hbs⟩ := ih hrest
      refine ⟨UInt8.ofNat (hi * 16 + lo) :: bs, ?_⟩
      rw [Spells, List.flatMap_cons, nibbles_pair hhi.lt hlo.lt]
      exact .cons hhi (.cons hlo hbs)

/-- A text is read as the bytes that it spells. -/
theorem decode_eq_ok_iff : decode (Utf8.encode cs) = .ok bs ↔ Spells cs bs := by
  rw [Spells, ← shows_encode]
  generalize Utf8.encode cs = text
  unfold decode
  constructor
  · intro h
    split_ifs at h with hodd
    have heven : text.length % 2 = 0 := by omega
    rcases shows_or_firstBad heven with ⟨bs', hshows⟩ | ⟨b, i, hbad⟩
    · rw [decodeFrom_of_shows hshows] at h
      cases h
      exact hshows
    · rw [decodeFrom_of_firstBad heven hbad] at h
      cases h
  · intro h
    have heven : text.length = bs.length * 2 := by
      rw [h.length_eq, List.length_flatMap]
      simp [nibbles]
    rw [if_neg (by omega), decodeFrom_of_shows h]

/-- Of a text that is not read the odd number of its bytes is named, else the first byte that is no digit. -/
theorem decode_eq_error_iff {f : Fault} :
    decode text = .error f ↔
      text.length % 2 = 1 ∧ f = .oddLength ∨
      text.length % 2 = 0 ∧ ∃ b i, FirstBad text b i ∧ f = .badByte b i := by
  unfold decode
  split_ifs with hodd
  · simp [hodd, eq_comm]
  · have heven : text.length % 2 = 0 := by omega
    constructor
    · intro h
      rcases shows_or_firstBad heven with ⟨bs, hshows⟩ | ⟨b, i, hbad⟩
      · rw [decodeFrom_of_shows hshows] at h
        cases h
      · rw [decodeFrom_of_firstBad heven hbad, Nat.zero_add] at h
        cases h
        exact .inr ⟨heven, b, i, hbad, rfl⟩
    · rintro (⟨h, -⟩ | ⟨-, b, i, hbad, rfl⟩)
      · exact absurd h hodd
      · rw [decodeFrom_of_firstBad heven hbad, Nat.zero_add]

/-! What is written spells the bytes. -/

/-- The digits of one letter case. -/
def Cased (digits : List Char) : Prop := digits = lowerDigits ∨ digits = upperDigits

theorem Cased.isDigit {digits : List Char} (h : Cased digits) (hn : n < 16) : IsDigit (digits.getD n '0') n := by
  have hall : ∀ n < 16, IsDigit (lowerDigits.getD n '0') n ∧ IsDigit (upperDigits.getD n '0') n := by decide
  rcases h with rfl | rfl
  · exact (hall n hn).1
  · exact (hall n hn).2

theorem Cased.spells {digits : List Char} (h : Cased digits) (bs : Bytes) : Spells (bs.flatMap (pair digits)) bs := by
  induction bs with
  | nil => exact .nil
  | cons b bs ih =>
    have hb := b.toNat_lt
    exact .cons (h.isDigit (by omega)) (.cons (h.isDigit (by omega)) ih)

theorem filter_separated {digits : List Char} (h : Cased digits) {keep : Char → Bool} {separator : Char}
    (hkeep : ∀ c n, IsDigit c n → keep c = true) (hdrop : keep separator = false) (bs : Bytes) :
    (((bs.map (pair digits)).intersperse [separator]).flatten).filter keep = bs.flatMap (pair digits) := by
  have hpair (b : UInt8) : (pair digits b).filter keep = pair digits b := by
    have hb := b.toNat_lt
    refine List.filter_eq_self.2 fun c hc => ?_
    rcases List.mem_cons.1 hc with rfl | hc
    · exact hkeep _ _ (h.isDigit (by omega))
    · obtain rfl := List.mem_singleton.1 hc
      exact hkeep _ _ (h.isDigit (by omega))
  induction bs with
  | nil => rfl
  | cons b bs ih =>
    cases bs with
    | nil => simp [hpair]
    | cons b' bs =>
      rw [List.map_cons] at ih
      simp only [List.map_cons, List.intersperse_cons_cons, List.flatten_cons, List.filter_append, hpair, ih]
      simp [hdrop]

end Doip.Hex
