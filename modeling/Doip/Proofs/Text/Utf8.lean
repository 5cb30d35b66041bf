import Mathlib.Data.List.Basic
import Mathlib.Data.List.TakeWhile
import Mathlib.Tactic.SplitIfs
import Doip.Text.Utf8

/-! What bytes say in UTF-8. The bits of a number are spread over the bytes of its character (`Spread`), and these are
the sequences that the table of lead bytes allows (`utf8EncodeChar_eq_cons_iff`); with fewer bytes they are the
beginnings of characters (`begins_cons_iff`). So the characters that are read are those that the bytes spell, with
U+FFFD for every longest beginning that is not completed and every byte that begins nothing (`lossyChars_eq_iff`). -/

namespace Doip.Utf8

variable {b t : UInt8} {bs bad rest tail more : Bytes} {c : Char} {cs : List Char} {l : Lead} {n : Nat}

/-! What may follow a lead byte. -/

/-- Bytes that may follow a lead byte, at most as many as it asks for. -/
structure Lead.Fits (l : Lead) (tail : Bytes) : Prop where
  length_le : tail.length ≤ l.trailing
  first : ∀ t ∈ tail.head?, l.low ≤ t.toNat ∧ t.toNat ≤ l.high
  later : ∀ t ∈ tail.tail, isTrailing t = true

theorem isTrailing_iff : isTrailing b = true ↔ 0x80 ≤ b.toNat ∧ b.toNat ≤ 0xBF := by
  rw [isTrailing, Bool.and_eq_true, decide_eq_true_iff, decide_eq_true_iff]

namespace Lead

theorem fits_nil (l : Lead) : l.Fits [] :=
  ⟨Nat.zero_le _, fun _ h => (nomatch h), fun _ h => (nomatch h)⟩

theorem fits_cons :
    l.Fits (t :: tail) ↔
      tail.length < l.trailing ∧ (l.low ≤ t.toNat ∧ t.toNat ≤ l.high) ∧ ∀ u ∈ tail, isTrailing u = true := by
  constructor
  · intro h
    exact ⟨h.length_le, h.first t rfl, h.later⟩
  · rintro ⟨hlength, hfirst, hlater⟩
    exact ⟨hlength, fun _ h => Option.some.inj h ▸ hfirst, hlater⟩

theorem fits_mk_cons {trailing low high : Nat} :
    (⟨trailing, low, high⟩ : Lead).Fits (t :: tail) ↔
      tail.length < trailing ∧ (low ≤ t.toNat ∧ t.toNat ≤ high) ∧ ∀ u ∈ tail, 0x80 ≤ u.toNat ∧ u.toNat ≤ 0xBF := by
  simp only [fits_cons, isTrailing_iff]

theorem Fits.of_append (h : l.Fits (tail ++ more)) : l.Fits tail := by
  cases tail with
  | nil => exact l.fits_nil
  | cons t tail =>
    rw [List.cons_append] at h
    obtain ⟨hlength, hfirst, hlater⟩ := fits_cons.1 h
    rw [List.length_append] at hlength
    exact fits_cons.2 ⟨by omega, hfirst, fun u hu => hlater u (List.mem_append_left _ hu)⟩

/-- Bytes that follow a lead byte can be completed. -/
theorem Fits.exists_complete (h : l.Fits tail) (hbounds : l.low ≤ l.high ∧ l.high < 0x100) :
    ∃ more, l.Fits (tail ++ more) ∧ (tail ++ more).length = l.trailing := by
  have hfill : ∀ k, ∀ u ∈ List.replicate k (0x80 : UInt8), isTrailing u = true := fun k u hu =>
    (List.eq_of_mem_replicate hu) ▸ rfl
  cases tail with
  | nil =>
    rcases Nat.eq_zero_or_pos l.trailing with hnone | hsome
    · exact ⟨[], l.fits_nil, hnone.symm⟩
    · have hlow : (UInt8.ofNat l.low).toNat = l.low :=
        UInt8.toNat_ofNat_of_lt' (Nat.lt_of_le_of_lt hbounds.1 hbounds.2)
      refine ⟨UInt8.ofNat l.low :: List.replicate (l.trailing - 1) 0x80, ?_, ?_⟩
      · refine fits_cons.2 ⟨?_, ⟨hlow.ge, hlow.le.trans hbounds.1⟩, hfill _⟩
        rw [List.length_replicate]
        omega
      · rw [List.nil_append, List.length_cons, List.length_replicate]
        omega
  | cons t tail =>
    obtain ⟨hlength, hfirst, hlater⟩ := fits_cons.1 h
    refine ⟨List.replicate (l.trailing - 1 - tail.length) 0x80, ?_, ?_⟩
    · rw [List.cons_append]
      refine fits_cons.2 ⟨?_, hfirst, fun u hu => (List.mem_append.1 hu).elim (hlater u) (hfill _ u)⟩
      rw [List.length_append, List.length_replicate]
      omega
    · rw [List.length_append, List.length_cons, List.length_replicate]
      omega

theorem follow_prefix (l : Lead) (rest : Bytes) : l.follow rest <+: rest := by
  cases rest with
  | nil => exact List.prefix_refl _
  | cons t rest =>
    rw [follow]
    split
    · exact List.cons_prefix_cons.2 ⟨rfl, (List.takeWhile_prefix _).trans (List.take_prefix _ _)⟩
    · exact List.nil_prefix

theorem fits_follow (l : Lead) (rest : Bytes) : l.Fits (l.follow rest) := by
  cases rest with
  | nil => exact l.fits_nil
  | cons t rest =>
    rw [follow]
    split
    · rename_i ht
      have htake := (List.takeWhile_prefix (l := rest.take (l.trailing - 1)) isTrailing).length_le
      rw [List.length_take] at htake
      exact fits_cons.2 ⟨by omega, ht.2, fun u => List.mem_takeWhile_imp⟩
    · exact l.fits_nil

theorem Fits.prefix_follow (h : l.Fits tail) (rest : Bytes) : tail <+: l.follow (tail ++ rest) := by
  cases tail with
  | nil => exact List.nil_prefix
  | cons t tail =>
    obtain ⟨hlength, hfirst, hlater⟩ := fits_cons.1 h
    have hroom : (tail ++ rest).take (l.trailing - 1) = tail ++ rest.take (l.trailing - 1 - tail.length) := by
      rw [List.take_append, List.take_of_length_le (by omega)]
    rw [List.cons_append, follow, if_pos ⟨by omega, hfirst⟩, hroom, List.takeWhile_append_of_pos hlater]
    exact List.cons_prefix_cons.2 ⟨rfl, List.prefix_append _ _⟩

/-- What is taken ends where the next byte may not follow any more. -/
theorem follow_append_eq_iff :
    l.follow (tail ++ rest) = tail ↔ l.Fits tail ∧ ∀ t ∈ rest.head?, ¬l.Fits (tail ++ [t]) := by
  constructor
  · intro h
    refine ⟨h ▸ l.fits_follow _, fun t ht hlonger => ?_⟩
    cases rest with
    | nil => cases ht
    | cons t' rest =>
      cases ht
      have hfollow := (hlonger.prefix_follow rest).length_le
      rw [List.append_assoc, List.singleton_append, h, List.length_append, List.length_singleton] at hfollow
      omega
  · rintro ⟨hfits, hend⟩
    obtain ⟨more, hmore⟩ := hfits.prefix_follow rest
    cases more with
    | nil => rw [← hmore, List.append_nil]
    | cons t more =>
      have hrest : t :: more <+: rest := (List.prefix_append_right_inj _).1 (hmore ▸ l.follow_prefix _)
      obtain ⟨rest, rfl⟩ := hrest
      have hlonger : l.Fits (tail ++ [t] ++ more) := by
        rw [List.append_assoc, List.singleton_append, hmore]
        exact l.fits_follow _
      exact absurd hlonger.of_append (hend t rfl)

end Lead

/-! The table of lead bytes and the bytes of characters. -/

theorem lead?_one (h : b.toNat < 0x80) : lead? b = some ⟨0, 0x80, 0xBF⟩ := if_pos h

theorem lead?_two (h : 0xC2 ≤ b.toNat ∧ b.toNat < 0xE0) : lead? b = some ⟨1, 0x80, 0xBF⟩ := by
  grind [lead?]

theorem lead?_three (h : 0xE0 ≤ b.toNat ∧ b.toNat < 0xF0) :
    lead? b = some ⟨2, if b.toNat = 0xE0 then 0xA0 else 0x80, if b.toNat = 0xED then 0x9F else 0xBF⟩ := by
  grind [lead?]

theorem lead?_four (h : 0xF0 ≤ b.toNat ∧ b.toNat ≤ 0xF4) :
    lead? b = some ⟨3, if b.toNat = 0xF0 then 0x90 else 0x80, if b.toNat = 0xF4 then 0x8F else 0xBF⟩ := by
  grind [lead?]

theorem lead?_ranges (h : lead? b = some l) :
    b.toNat < 0x80 ∨ (0xC2 ≤ b.toNat ∧ b.toNat < 0xE0) ∨ (0xE0 ≤ b.toNat ∧ b.toNat < 0xF0) ∨
      (0xF0 ≤ b.toNat ∧ b.toNat ≤ 0xF4) := by
  grind [lead?]

theorem lead?_bounds (h : lead? b = some l) : l.low ≤ l.high ∧ l.high < 0x100 := by
  rcases lead?_ranges h with hb | hb | hb | hb
  · cases h.symm.trans (lead?_one hb)
    decide
  · cases h.symm.trans (lead?_two hb)
    decide
  · cases h.symm.trans (lead?_three hb)
    grind
  · cases h.symm.trans (lead?_four hb)
    grind

/-- The bits of a number that is no surrogate, spread over one to four bytes. -/
def Spread (n : Nat) : Bytes → Prop
  | [b] => n < 0x80 ∧ b.toNat = n
  | [b, t] => (0x80 ≤ n ∧ n < 0x800) ∧ b.toNat = 0xC0 + n / 0x40 ∧ t.toNat = 0x80 + n % 0x40
  | [b, t, u] => (0x800 ≤ n ∧ n < 0x10000) ∧ (n < 0xD800 ∨ 0xDFFF < n) ∧ b.toNat = 0xE0 + n / 0x1000 ∧
      t.toNat = 0x80 + n / 0x40 % 0x40 ∧ u.toNat = 0x80 + n % 0x40
  | [b, t, u, v] => (0x10000 ≤ n ∧ n < 0x110000) ∧ b.toNat = 0xF0 + n / 0x40000 ∧
      t.toNat = 0x80 + n / 0x1000 % 0x40 ∧ u.toNat = 0x80 + n / 0x40 % 0x40 ∧ v.toNat = 0x80 + n % 0x40
  | _ => False

theorem Spread.isValidChar (h : Spread n bs) : n.isValidChar := by
  unfold Nat.isValidChar
  rcases bs with _ | ⟨b, _ | ⟨t, _ | ⟨u, _ | ⟨v, _ | ⟨w, more⟩⟩⟩⟩⟩ <;> simp only [Spread] at h <;> omega

theorem toNat_ofNat (h : n.isValidChar) : (Char.ofNat n).toNat = n := by
  rw [Char.ofNat, dif_pos h]
  rfl

theorem utf8EncodeChar_eq_iff : String.utf8EncodeChar c = bs ↔ Spread c.toNat bs := by
  have hvalid : c.toNat < 0xD800 ∨ 0xDFFF < c.toNat ∧ c.toNat < 0x110000 := c.valid
  simp only [String.utf8EncodeChar, show c.val.toNat = c.toNat from rfl]
  -- one case for each number of bytes, and in each the four ranges of the number
  rcases bs with _ | ⟨b, _ | ⟨t, _ | ⟨u, _ | ⟨v, _ | ⟨w, more⟩⟩⟩⟩⟩ <;> split_ifs <;>
    simp only [Spread, List.cons.injEq, ← UInt8.toNat_inj, UInt8.toNat_ofNat', reduceCtorEq, and_true, and_false,
      false_iff] <;>
    omega

theorem codePoint_two (b t : UInt8) : codePoint b [t] = b.toNat % 0x20 * 0x40 + t.toNat % 0x40 := rfl

theorem codePoint_three (b t u : UInt8) :
    codePoint b [t, u] = (b.toNat % 0x10 * 0x40 + t.toNat % 0x40) * 0x40 + u.toNat % 0x40 := rfl

theorem codePoint_four (b t u v : UInt8) :
    codePoint b [t, u, v] =
      ((b.toNat % 0x08 * 0x40 + t.toNat % 0x40) * 0x40 + u.toNat % 0x40) * 0x40 + v.toNat % 0x40 := rfl

theorem Spread.exists_lead? (h : Spread n (b :: tail)) :
    ∃ l, lead? b = some l ∧ l.Fits tail ∧ tail.length = l.trailing ∧ codePoint b tail = n := by
  rcases tail with _ | ⟨t, _ | ⟨u, _ | ⟨v, _ | ⟨w, more⟩⟩⟩⟩ <;> simp only [Spread] at h
  · obtain ⟨hn, hb⟩ := h
    exact ⟨_, lead?_one (by omega), Lead.fits_nil _, rfl, hb⟩
  · obtain ⟨⟨hn, hn'⟩, hb, ht⟩ := h
    refine ⟨_, lead?_two (by omega), Lead.fits_mk_cons.2 ⟨Nat.zero_lt_one, by omega, List.forall_mem_nil _⟩, rfl, ?_⟩
    rw [codePoint_two]
    omega
  · obtain ⟨⟨hn, hn'⟩, hsurrogate, hb, ht, hu⟩ := h
    have hlater : ∀ w ∈ [u], 0x80 ≤ w.toNat ∧ w.toNat ≤ 0xBF := List.forall_mem_singleton.2 (by omega)
    refine ⟨_, lead?_three (by omega), Lead.fits_mk_cons.2 ⟨Nat.one_lt_two, ⟨?_, ?_⟩, hlater⟩, rfl, ?_⟩
    · split_ifs <;> omega
    · split_ifs <;> omega
    · rw [codePoint_three]
      omega
  · obtain ⟨⟨hn, hn'⟩, hb, ht, hu, hv⟩ := h
    have hlater : ∀ w ∈ [u, v], 0x80 ≤ w.toNat ∧ w.toNat ≤ 0xBF :=
      List.forall_mem_cons.2 ⟨by omega, List.forall_mem_singleton.2 (by omega)⟩
    refine ⟨_, lead?_four (by omega), Lead.fits_mk_cons.2 ⟨Nat.lt_succ_self 2, ⟨?_, ?_⟩, hlater⟩, rfl, ?_⟩
    · split_ifs <;> omega
    · split_ifs <;> omega
    · rw [codePoint_four]
      omega

/-- What the bytes behind a lead byte make of it is spread over all of them. -/
theorem spread_codePoint (hlead : lead? b = some l) (hfits : l.Fits tail) (hlength : tail.length = l.trailing) :
    Spread (codePoint b tail) (b :: tail) := by
  rcases lead?_ranges hlead with hb | hb | hb | hb
  · cases hlead.symm.trans (lead?_one hb)
    obtain rfl := List.length_eq_zero_iff.1 hlength
    exact ⟨hb, rfl⟩
  · cases hlead.symm.trans (lead?_two hb)
    obtain ⟨t, rfl⟩ := List.length_eq_one_iff.1 hlength
    obtain ⟨-, ht, -⟩ := Lead.fits_mk_cons.1 hfits
    rw [codePoint_two, Spread]
    omega
  · cases hlead.symm.trans (lead?_three hb)
    obtain ⟨t, u, rfl⟩ := List.length_eq_two.1 hlength
    obtain ⟨-, ⟨ht, ht'⟩, hlater⟩ := Lead.fits_mk_cons.1 hfits
    have hu := hlater u List.mem_cons_self
    rw [codePoint_three, Spread]
    split_ifs at ht ht' <;> omega
  · cases hlead.symm.trans (lead?_four hb)
    obtain ⟨t, u, v, rfl⟩ := List.length_eq_three.1 hlength
    obtain ⟨-, ⟨ht, ht'⟩, hlater⟩ := Lead.fits_mk_cons.1 hfits
    obtain ⟨hu, hv⟩ := List.forall_mem_cons.1 hlater
    have hv := hv v List.mem_cons_self
    rw [codePoint_four, Spread]
    split_ifs at ht ht' <;> omega

/-- The bytes of a character are a lead byte and as many others as it asks for. -/
theorem utf8EncodeChar_eq_cons_iff :
    String.utf8EncodeChar c = b :: tail ↔
      ∃ l, lead? b = some l ∧ l.Fits tail ∧ tail.length = l.trailing ∧ Char.ofNat (codePoint b tail) = c := by
  rw [utf8EncodeChar_eq_iff]
  constructor
  · intro h
    obtain ⟨l, hlead, hfits, hlength, hpoint⟩ := h.exists_lead?
    exact ⟨l, hlead, hfits, hlength, by rw [hpoint, Char.ofNat_toNat]⟩
  · rintro ⟨l, hlead, hfits, hlength, rfl⟩
    have hspread := spread_codePoint hlead hfits hlength
    rwa [toNat_ofNat hspread.isValidChar]

theorem exists_utf8EncodeChar_eq_cons (c : Char) : ∃ b tail, String.utf8EncodeChar c = b :: tail :=
  List.exists_cons_of_ne_nil String.utf8EncodeChar_ne_nil

theorem utf8EncodeChar_eq_cons_of_lt (hb : b.toNat < 0x80) :
    String.utf8EncodeChar c = b :: tail ↔ tail = [] ∧ Char.ofNat b.toNat = c := by
  rw [utf8EncodeChar_eq_cons_iff]
  constructor
  · rintro ⟨l, hlead, -, hlength, hpoint⟩
    cases hlead.symm.trans (lead?_one hb)
    obtain rfl := List.length_eq_zero_iff.1 hlength
    exact ⟨rfl, hpoint⟩
  · rintro ⟨rfl, hpoint⟩
    exact ⟨_, lead?_one hb, Lead.fits_nil _, rfl, hpoint⟩

theorem utf8EncodeChar_of_lt (h : c.toNat < 0x80) : String.utf8EncodeChar c = [UInt8.ofNat c.toNat] :=
  utf8EncodeChar_eq_iff.2 ⟨h, UInt8.toNat_ofNat_of_lt' (Nat.lt_trans h (by decide))⟩

/-- Every character beyond ASCII begins with a byte that no ASCII character has. -/
theorem utf8EncodeChar_of_le (h : 0x80 ≤ c.toNat) :
    ∃ b bs, String.utf8EncodeChar c = b :: bs ∧ 0x80 ≤ b.toNat := by
  obtain ⟨b, bs, hbytes⟩ := exists_utf8EncodeChar_eq_cons c
  refine ⟨b, bs, hbytes, Nat.le_of_not_lt fun hb => ?_⟩
  obtain ⟨-, rfl⟩ := (utf8EncodeChar_eq_cons_of_lt hb).1 hbytes
  rw [toNat_ofNat (.inl (by omega))] at h
  omega

/-! Beginnings of characters. -/

/-- The bytes are the beginning of a character, or all of it. -/
def Begins (bs : Bytes) : Prop := ∃ c, bs <+: String.utf8EncodeChar c

theorem begins_cons_iff : Begins (b :: tail) ↔ ∃ l, lead? b = some l ∧ l.Fits tail := by
  constructor
  · rintro ⟨c, more, hc⟩
    obtain ⟨l, hlead, hfits, -, -⟩ := utf8EncodeChar_eq_cons_iff.1 hc.symm
    exact ⟨l, hlead, hfits.of_append⟩
  · rintro ⟨l, hlead, hfits⟩
    obtain ⟨more, hcomplete, hlength⟩ := hfits.exists_complete (lead?_bounds hlead)
    exact ⟨_, more, (utf8EncodeChar_eq_cons_iff.2 ⟨l, hlead, hcomplete, hlength, rfl⟩).symm⟩

theorem begins_cons_of_lead (hlead : lead? b = some l) (tail : Bytes) : Begins (b :: tail) ↔ l.Fits tail := by
  rw [begins_cons_iff]
  constructor
  · rintro ⟨l', hlead', hfits⟩
    cases hlead.symm.trans hlead'
    exact hfits
  · intro hfits
    exact ⟨l, hlead, hfits⟩

theorem lead?_eq_none_iff : lead? b = none ↔ ¬Begins [b] := by
  cases hlead : lead? b with
  | none =>
    refine iff_of_true rfl fun h => ?_
    obtain ⟨l, hlead', -⟩ := begins_cons_iff.1 h
    cases hlead.symm.trans hlead'
  | some l => exact iff_of_false (Option.some_ne_none l) (not_not_intro ((begins_cons_of_lead hlead []).2 l.fits_nil))

/-! Reading. -/

/-- Bytes that are read as one U+FFFD in front of others: a byte that begins no character, or the longest beginning of
a character that is not completed. -/
inductive Broken : Bytes → Bytes → Prop
  | stray {b : UInt8} {rest : Bytes} (h : ¬Begins [b]) : Broken [b] rest
  | cut {bad rest : Bytes} (hne : bad ≠ []) (hbegins : Begins bad) (hopen : ∀ c, String.utf8EncodeChar c ≠ bad)
      (hend : ∀ b ∈ rest.head?, ¬Begins (bad ++ [b])) : Broken bad rest

/-- The characters of the bytes, with one U+FFFD for each of the broken parts. -/
inductive Reads : Bytes → List Char → Prop
  | nil : Reads [] []
  | char {rest : Bytes} {cs : List Char} (c : Char) (h : Reads rest cs) :
      Reads (String.utf8EncodeChar c ++ rest) (c :: cs)
  | broken {bad rest : Bytes} {cs : List Char} (hbad : Broken bad rest) (h : Reads rest cs) :
      Reads (bad ++ rest) ('\uFFFD' :: cs)

/-- Behind a lead byte as many bytes are broken as follow it, if they are too few. -/
theorem broken_cons_of_lead (hlead : lead? b = some l) :
    Broken (b :: tail) rest ↔ l.follow (tail ++ rest) = tail ∧ tail.length ≠ l.trailing := by
  rw [Lead.follow_append_eq_iff]
  constructor
  · intro h
    cases h with
    | stray h => exact absurd ((begins_cons_of_lead hlead []).2 l.fits_nil) h
    | cut _ hbegins hopen hend =>
      have hfits := (begins_cons_of_lead hlead tail).1 hbegins
      refine ⟨⟨hfits, fun t ht hlonger => hend t ht ((begins_cons_of_lead hlead _).2 hlonger)⟩, fun hlength => ?_⟩
      exact hopen _ (utf8EncodeChar_eq_cons_iff.2 ⟨l, hlead, hfits, hlength, rfl⟩)
  · rintro ⟨⟨hfits, hend⟩, hlength⟩
    refine .cut (List.cons_ne_nil b tail) ((begins_cons_of_lead hlead tail).2 hfits) (fun c hc => ?_)
      fun t ht hlonger => hend t ht ((begins_cons_of_lead hlead _).1 hlonger)
    obtain ⟨l', hlead', -, hlength', -⟩ := utf8EncodeChar_eq_cons_iff.1 hc
    cases hlead.symm.trans hlead'
    exact hlength hlength'

theorem Broken.ne_nil (h : Broken bad rest) : bad ≠ [] := by
  cases h with
  | stray => exact List.cons_ne_nil _ _
  | cut hne => exact hne

theorem lossyChars_nil : lossyChars [] = [] := by
  rw [lossyChars, chunks]
  rfl

theorem lossyChars_stray (h : lead? b = none) (rest : Bytes) :
    lossyChars (b :: rest) = '\uFFFD' :: lossyChars rest := by
  rw [lossyChars, chunks, h]
  rfl

theorem lossyChars_append (hlead : lead? b = some l) (hfollow : l.follow (tail ++ rest) = tail) :
    lossyChars (b :: (tail ++ rest)) =
      (if tail.length = l.trailing then Char.ofNat (codePoint b tail) else '\uFFFD') :: lossyChars rest := by
  rw [lossyChars, chunks, hlead]
  simp only [hfollow, List.drop_left, List.map_cons, lossyChars]
  split_ifs <;> rfl

theorem lossyChars_char (c : Char) (rest : Bytes) :
    lossyChars (String.utf8EncodeChar c ++ rest) = c :: lossyChars rest := by
  obtain ⟨b, tail, hbytes⟩ := exists_utf8EncodeChar_eq_cons c
  obtain ⟨l, hlead, hfits, hlength, rfl⟩ := utf8EncodeChar_eq_cons_iff.1 hbytes
  have hfollow : l.follow (tail ++ rest) = tail := by
    refine Lead.follow_append_eq_iff.2 ⟨hfits, fun t _ hlonger => ?_⟩
    have hroom := hlonger.length_le
    rw [List.length_append, List.length_singleton] at hroom
    omega
  rw [hbytes, List.cons_append, lossyChars_append hlead hfollow, if_pos hlength]

theorem Broken.lossyChars_append (h : Broken bad rest) : lossyChars (bad ++ rest) = '\uFFFD' :: lossyChars rest := by
  obtain ⟨b, tail, rfl⟩ := List.exists_cons_of_ne_nil h.ne_nil
  cases hlead : lead? b with
  | none =>
    cases h with
    | stray => exact lossyChars_stray hlead rest
    | cut _ hbegins =>
      obtain ⟨l, hlead', -⟩ := begins_cons_iff.1 hbegins
      cases hlead.symm.trans hlead'
  | some l =>
    obtain ⟨hfollow, hlength⟩ := (broken_cons_of_lead hlead).1 h
    rw [List.cons_append, Utf8.lossyChars_append hlead hfollow, if_neg hlength]

theorem Reads.lossyChars_eq (h : Reads bs cs) : lossyChars bs = cs := by
  induction h with
  | nil => exact lossyChars_nil
  | char c _ ih => rw [lossyChars_char, ih]
  | broken hbad _ ih => rw [hbad.lossyChars_append, ih]

theorem reads_lossyChars (bs : Bytes) : Reads bs (lossyChars bs) := by
  induction hn : bs.length using Nat.strongRecOn generalizing bs with
  | ind n ih =>
    cases bs with
    | nil => exact lossyChars_nil ▸ .nil
    | cons b rest =>
      cases hlead : lead? b with
      | none =>
        have hrest := ih rest.length (hn ▸ Nat.lt_succ_self _) rest rfl
        rw [lossyChars_stray hlead]
        exact .broken (.stray (lead?_eq_none_iff.1 hlead)) hrest
      | some l =>
        -- what follows the lead byte comes off together with it
        obtain ⟨tail, htail⟩ : ∃ tail, l.follow rest = tail := ⟨_, rfl⟩
        obtain ⟨rest, rfl⟩ := htail ▸ l.follow_prefix rest
        have hrest : Reads rest (lossyChars rest) := by
          refine ih rest.length ?_ rest rfl
          rw [← hn, List.length_cons, List.length_append]
          omega
        rw [lossyChars_append hlead htail, ← List.cons_append]
        split_ifs with hlength
        · have hfits := (Lead.follow_append_eq_iff.1 htail).1
          rw [← utf8EncodeChar_eq_cons_iff.2 ⟨l, hlead, hfits, hlength, rfl⟩]
          exact .char _ hrest
        · exact .broken ((broken_cons_of_lead hlead).2 ⟨htail, hlength⟩) hrest

/-- What is read is what the bytes say. -/
theorem lossyChars_eq_iff : lossyChars bs = cs ↔ Reads bs cs :=
  ⟨fun h => h ▸ reads_lossyChars bs, Reads.lossyChars_eq⟩

/-! What can be told of the characters from the bytes. -/

theorem Reads.length_le (h : Reads bs cs) : cs.length ≤ bs.length := by
  induction h with
  | nil => exact le_rfl
  | char c _ ih =>
    have hpos := List.length_pos_iff.2 (String.utf8EncodeChar_ne_nil (c := c))
    rw [List.length_cons, List.length_append]
    omega
  | broken hbad _ ih =>
    have hpos := List.length_pos_iff.2 hbad.ne_nil
    rw [List.length_cons, List.length_append]
    omega

theorem forall_utf8EncodeChar_zero_iff : (∀ b ∈ String.utf8EncodeChar c, b = 0) ↔ c = '\x00' := by
  constructor
  · intro h
    obtain ⟨b, tail, hbytes⟩ := exists_utf8EncodeChar_eq_cons c
    rw [hbytes] at h
    obtain rfl := h b List.mem_cons_self
    exact ((utf8EncodeChar_eq_cons_of_lt (by decide)).1 hbytes).2.symm
  · rintro rfl
    exact fun b hb => List.mem_singleton.1 hb

/-- A zero byte is a character, so it does not begin broken bytes. -/
theorem Broken.exists_ne_zero (h : Broken bad rest) : ∃ b ∈ bad, b ≠ 0 := by
  obtain ⟨b, tail, rfl⟩ := List.exists_cons_of_ne_nil h.ne_nil
  refine ⟨b, List.mem_cons_self, ?_⟩
  rintro rfl
  cases h with
  | stray h => exact h ⟨'\x00', List.prefix_refl _⟩
  | cut _ hbegins hopen _ =>
    obtain ⟨c, more, hc⟩ := hbegins
    obtain ⟨hnil, -⟩ := (utf8EncodeChar_eq_cons_of_lt (by decide)).1 hc.symm
    obtain ⟨rfl, -⟩ := List.append_eq_nil_iff.1 hnil
    exact hopen '\x00' rfl

theorem Reads.forall_nul_iff (h : Reads bs cs) : (∀ c ∈ cs, c = '\x00') ↔ ∀ b ∈ bs, b = 0 := by
  induction h with
  | nil => exact iff_of_true (List.forall_mem_nil _) (List.forall_mem_nil _)
  | char c _ ih => rw [List.forall_mem_cons, List.forall_mem_append, forall_utf8EncodeChar_zero_iff, ih]
  | broken hbad _ _ =>
    obtain ⟨b, hb, hne⟩ := hbad.exists_ne_zero
    constructor
    · intro hall
      exact absurd (hall _ List.mem_cons_self) (by decide)
    · intro hall
      exact absurd (hall b (List.mem_append_left _ hb)) hne

theorem reads_encode (cs : List Char) : Reads (encode cs) cs := by
  induction cs with
  | nil => exact .nil
  | cons c cs ih => exact .char c ih

/-- Bytes of ASCII are the bytes of the characters with their numbers. -/
theorem encode_ascii (h : ∀ b ∈ bs, b.toNat < 0x80) : encode (bs.map fun b => Char.ofNat b.toNat) = bs := by
  induction bs with
  | nil => rfl
  | cons b bs ih =>
    obtain ⟨hb, hbs⟩ := List.forall_mem_cons.1 h
    have hbyte := (utf8EncodeChar_eq_cons_of_lt hb).2 ⟨rfl, rfl⟩
    rw [List.map_cons, encode, List.flatMap_cons, hbyte, ← encode, ih hbs]
    rfl

end Doip.Utf8
