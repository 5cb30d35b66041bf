import Doip.CommandLine.Literals
import Doip.Proofs.Text.Blank
import Doip.Proofs.Text.Numeral

/-! Addresses as they are typed. Blanks around a text do not count; what remains is a numeral behind a mark `0x`, in
front of an `h` or by itself (`Notated`). All numerals up to 65535 are read and nothing else is, and of what is refused
the first character is to blame that does not fit (`addresses_read_back`). -/

namespace Doip.CommandLine

variable {t digits : List Char} {base : Nat} {text : String} {a : Address} {f : AddressFault}

/-- A text that begins with `0x`, in either letter case. -/
def Marked (cs : List Char) : Prop := ∃ mark digits, (mark = 'x' ∨ mark = 'X') ∧ cs = '0' :: mark :: digits

/-- The base of a text and its digits: sixteen behind a mark, else sixteen in front of a final `h`, else ten. -/
inductive Notated : List Char → Nat → List Char → Prop
  | marked {mark : Char} {digits : List Char} (h : mark = 'x' ∨ mark = 'X') : Notated ('0' :: mark :: digits) 16 digits
  | suffixed {digits : List Char} (h : ¬Marked (digits ++ ['h'])) : Notated (digits ++ ['h']) 16 digits
  | plain {digits : List Char} (h : ¬Marked digits) (hlast : digits.getLast? ≠ some 'h') : Notated digits 10 digits

/-- The ways to write an address. -/
inductive Written (a : Address) : List Char → Prop
  | decimal (zeros : Nat) : Written a (List.replicate zeros '0' ++ Nat.toDigits 10 a.toNat)
  | marked {mark : Char} (h : mark = 'x' ∨ mark = 'X') (zeros : Nat) {hex : List Char}
      (hhex : hex.map Char.toLower = Nat.toDigits 16 a.toNat) :
      Written a ('0' :: mark :: (List.replicate zeros '0' ++ hex))
  | suffixed (zeros : Nat) {hex : List Char} (hhex : hex.map Char.toLower = Nat.toDigits 16 a.toNat) :
      Written a (List.replicate zeros '0' ++ hex ++ ['h'])

/-! The base and the digits. -/

theorem addressDigits_of_not_marked (h : ¬Marked t) :
    addressDigits t = if t.getLast? = some 'h' then (16, t.dropLast) else (10, t) := by
  fun_cases addressDigits t with
  | case1 digits => exact absurd ⟨'x', digits, .inl rfl, rfl⟩ h
  | case2 digits => exact absurd ⟨'X', digits, .inr rfl, rfl⟩ h
  | case3 => rw [if_pos ‹_›]
  | case4 => rw [if_neg ‹_›]

theorem Notated.addressDigits (h : Notated t base digits) : addressDigits t = (base, digits) := by
  cases h with
  | marked h => rcases h with rfl | rfl <;> rfl
  | suffixed h => rw [addressDigits_of_not_marked h, if_pos List.getLast?_concat, List.dropLast_concat]
  | plain h hlast => rw [addressDigits_of_not_marked h, if_neg hlast]

theorem exists_notated (t : List Char) : ∃ base digits, Notated t base digits := by
  by_cases hmark : Marked t
  · obtain ⟨mark, digits, h, rfl⟩ := hmark
    exact ⟨16, digits, .marked h⟩
  · by_cases hlast : t.getLast? = some 'h'
    · obtain ⟨digits, rfl⟩ := List.getLast?_eq_some_iff.1 hlast
      exact ⟨16, digits, .suffixed hmark⟩
    · exact ⟨10, t, .plain hmark hlast⟩

theorem Notated.unique {base' : Nat} {digits' : List Char} (h : Notated t base digits) (h' : Notated t base' digits') :
    base = base' ∧ digits = digits' :=
  Prod.mk.inj (h.addressDigits.symm.trans h'.addressDigits)

theorem Notated.base_range (h : Notated t base digits) : 0 < base ∧ base ≤ 16 := by
  cases h <;> decide

/-! Reading. -/

theorem Notated.readAddress_eq_ok_iff (h : Notated (Blank.trim text.toList) base digits) :
    readAddress text = .ok a ↔ Numeral.Denotes base digits a.toNat := by
  obtain ⟨hpos, hbase⟩ := h.base_range
  have hbound : a.toNat ≤ 0xFFFF := Nat.le_of_lt_succ a.toNat_lt
  have hread : Numeral.read base 0xFFFF digits = .ok a.toNat ↔ Numeral.Denotes base digits a.toNat := by
    rw [Numeral.read_eq_ok_iff hpos hbase, and_iff_left hbound]
  rw [← hread]
  simp only [readAddress, h.addressDigits]
  cases hvalue : Numeral.read base 0xFFFF digits with
  | error fault => exact ⟨nofun, nofun⟩
  | ok n =>
    have hn := ((Numeral.read_eq_ok_iff hpos hbase).1 hvalue).2
    constructor
    · intro h
      cases h
      rw [UInt16.toNat_ofNat', Nat.mod_eq_of_lt (Nat.lt_succ_of_le hn)]
    · intro h
      cases h
      exact congrArg Except.ok UInt16.ofNat_toNat

theorem Notated.readAddress_eq_error_iff (h : Notated (Blank.trim text.toList) base digits) :
    readAddress text = .error f ↔
      f.text = String.ofList (Blank.trim text.toList) ∧ Numeral.Misread base 0xFFFF digits f.fault := by
  obtain ⟨hpos, hbase⟩ := h.base_range
  rw [← Numeral.read_eq_error_iff hpos hbase]
  simp only [readAddress, h.addressDigits]
  cases Numeral.read base 0xFFFF digits with
  | ok n => exact ⟨nofun, fun h => nomatch h.2⟩
  | error fault =>
    obtain ⟨text', fault'⟩ := f
    simp only [Except.error.injEq, AddressFault.mk.injEq, eq_comm]

/-! Writing. -/

variable {rest : List Char} {n : Nat}

theorem not_marked_of_digits (h : Numeral.Digits base digits n) (hrest : ∀ c ∈ rest, c ≠ 'x' ∧ c ≠ 'X') :
    ¬Marked (digits ++ rest) := by
  rintro ⟨mark, behind, hmark, hsplit⟩
  -- the mark would be one of the digits, or what stands behind them
  have hmem : mark ∈ digits ++ rest := by simp [hsplit]
  rcases List.mem_append.1 hmem with hmem | hmem
  · obtain ⟨d, hd, -⟩ := h.isDigit mark hmem
    rcases hmark with rfl | rfl <;> exact absurd hd.mem (by decide)
  · exact hmark.elim (hrest mark hmem).1 (hrest mark hmem).2

theorem not_blank_of_digits (h : Numeral.Digits base digits n) : ∀ c ∈ digits, Blank.isBlank c = false := by
  intro c hc
  obtain ⟨d, hd, -⟩ := h.isDigit c hc
  exact hd.not_blank

theorem digits_decimal (a : Address) (zeros : Nat) :
    Numeral.Digits 10 (List.replicate zeros '0' ++ Nat.toDigits 10 a.toNat) a.toNat :=
  (Numeral.digits_toDigits (by decide) (by decide) a.toNat).zeros (by decide) zeros

theorem digits_hex {hex : List Char} (h : hex.map Char.toLower = Nat.toDigits 16 a.toNat) (zeros : Nat) :
    Numeral.Digits 16 (List.replicate zeros '0' ++ hex) a.toNat := by
  have hdigits : Numeral.Digits 16 (Nat.toDigits 16 a.toNat) a.toNat :=
    Numeral.digits_toDigits (by decide) (by decide) a.toNat
  rw [← h] at hdigits
  exact hdigits.of_toLower.zeros (by decide) zeros

theorem Written.exists_notated (h : Written a t) :
    ∃ base digits, Notated t base digits ∧ Numeral.Denotes base digits a.toNat := by
  cases h with
  | decimal zeros =>
    have hdigits := digits_decimal a zeros
    have hmark : ¬Marked (_ ++ []) := not_marked_of_digits hdigits fun _ hc => absurd hc List.not_mem_nil
    rw [List.append_nil] at hmark
    refine ⟨10, _, .plain hmark fun hlast => ?_, .plain hdigits⟩
    obtain ⟨d, hd, -⟩ := hdigits.isDigit 'h' (List.mem_of_mem_getLast? hlast)
    exact absurd hd.mem (by decide)
  | marked hmark zeros hhex => exact ⟨16, _, .marked hmark, .plain (digits_hex hhex zeros)⟩
  | suffixed zeros hhex =>
    have hdigits := digits_hex hhex zeros
    have hmark := not_marked_of_digits hdigits (List.forall_mem_singleton.2 (by decide : 'h' ≠ 'x' ∧ 'h' ≠ 'X'))
    exact ⟨16, _, .suffixed hmark, .plain hdigits⟩

theorem Written.not_blank (h : Written a t) : ∀ c ∈ t, Blank.isBlank c = false := by
  cases h with
  | decimal zeros => exact not_blank_of_digits (digits_decimal a zeros)
  | marked hmark zeros hhex =>
    have hblank := not_blank_of_digits (digits_hex hhex zeros)
    rcases hmark with rfl | rfl <;>
      exact List.forall_mem_cons.2 ⟨by decide, List.forall_mem_cons.2 ⟨by decide, hblank⟩⟩
  | suffixed zeros hhex =>
    exact List.forall_mem_append.2 ⟨not_blank_of_digits (digits_hex hhex zeros), List.forall_mem_singleton.2 rfl⟩

/-- What is read of a text without the blanks at its ends is the numeral that it is in its base, when this is at most
65535. Of any other text the fault is that of the first character that does not fit, or that there is none. An address
is read back however it is written, between any blanks. -/
theorem addresses_read_back :
    (∀ text : String, ∃ t, Blank.Stripped Blank.isBlank text.toList t ∧
      (∀ a : Address, readAddress text = .ok a ↔
        ∃ base digits, Notated t base digits ∧ Numeral.Denotes base digits a.toNat) ∧
      (∀ f : AddressFault, readAddress text = .error f ↔
        f.text = String.ofList t ∧
          ∃ base digits, Notated t base digits ∧ Numeral.Misread base 0xFFFF digits f.fault)) ∧
    ∀ (a : Address) (before t after : List Char), (∀ c ∈ before, Blank.isBlank c = true) → Written a t →
      (∀ c ∈ after, Blank.isBlank c = true) → readAddress (String.ofList (before ++ t ++ after)) = .ok a := by
  constructor
  · intro text
    obtain ⟨base, digits, h⟩ := exists_notated (Blank.trim text.toList)
    refine ⟨_, Blank.stripped_strip Blank.isBlank text.toList, fun a => ?_, fun f => ?_⟩
    · rw [h.readAddress_eq_ok_iff]
      constructor
      · exact fun hdenotes => ⟨base, digits, h, hdenotes⟩
      · rintro ⟨base', digits', h', hdenotes⟩
        obtain ⟨rfl, rfl⟩ := h.unique h'
        exact hdenotes
    · rw [h.readAddress_eq_error_iff]
      refine and_congr_right fun _ => ⟨fun hmisread => ⟨base, digits, h, hmisread⟩, ?_⟩
      rintro ⟨base', digits', h', hmisread⟩
      obtain ⟨rfl, rfl⟩ := h.unique h'
      exact hmisread
  · intro a before t after hbefore hwritten hafter
    have htrim : Blank.trim (String.ofList (before ++ t ++ after)).toList = t := by
      rw [String.toList_ofList]
      exact (Blank.stripped_of_forall hbefore hwritten.not_blank hafter).strip_eq
    obtain ⟨base, digits, h, hdenotes⟩ := hwritten.exists_notated
    rw [← htrim] at h
    exact h.readAddress_eq_ok_iff.2 hdenotes

/-- Zeros and blanks do not count. Of two characters that do not fit, the first one decides. -/
theorem padded_address_read :
    readAddress "\t\u30000X00fA25\n" = .ok 0xFA25 ∧
      ∃ f, readAddress "0x1FFFFg" = .error f ∧ f.fault = .tooLarge := by
  obtain ⟨hread, hwritten⟩ := addresses_read_back
  have hhex : "fA25".toList.map Char.toLower = Nat.toDigits 16 (0xFA25 : Address).toNat := rfl
  refine ⟨?_, ?_⟩
  · have hbefore : ∀ c ∈ ['\t', '\u3000'], Blank.isBlank c = true :=
      List.forall_mem_cons.2 ⟨rfl, List.forall_mem_singleton.2 rfl⟩
    have hafter : ∀ c ∈ ['\n'], Blank.isBlank c = true := List.forall_mem_singleton.2 rfl
    exact hwritten 0xFA25 _ _ _ hbefore (.marked (.inr rfl) 2 hhex) hafter
  · obtain ⟨t, ht, -, herror⟩ := hread "0x1FFFFg"
    have hstrip : Blank.strip Blank.isBlank "0x1FFFFg".toList = "0x1FFFFg".toList := rfl
    obtain rfl := hstrip.symm.trans ht.strip_eq
    refine ⟨⟨_, .tooLarge⟩, (herror _).2 ⟨rfl, 16, "1FFFFg".toList, .marked (.inl rfl), .offence ?_⟩, rfl⟩
    refine ⟨"1FFF".toList, 'F', ['g'], [1, 15, 15, 15], rfl, ?_, by decide, .beyond (d := 15) ?_ (by decide)⟩
    · unfold Numeral.IsDigit
      decide
    · exact ⟨.inr rfl, by decide⟩

end Doip.CommandLine
