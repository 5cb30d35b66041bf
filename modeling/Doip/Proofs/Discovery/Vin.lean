import Doip.Discovery
import Doip.Proofs.Text.Blank
import Doip.Proofs.Text.Utf8

/-! What is shown of a VIN. Its text is empty exactly when the VIN is not configured (`vinText_eq_empty_iff`), since
only zero bytes are read as NUL. Otherwise the text is what the bytes say in UTF-8, without the NULs at both ends
(`stripped_vinText`), and never longer than the bytes. -/

namespace Doip

variable {vin : Bytes} {cs : List Char}

/-- Every byte is one of those with which entities fill a VIN that they do not know. -/
def Unconfigured (vin : Bytes) : Prop := ∀ b ∈ vin, b = 0x00 ∨ b = 0xFF

instance (vin : Bytes) : Decidable (Unconfigured vin) := List.decidableBAll (fun b => b = 0x00 ∨ b = 0xFF) vin

theorem all_fill_iff : (vin.all fun b => b = 0x00 || b = 0xFF) = true ↔ Unconfigured vin := by
  simp only [Unconfigured, List.all_eq_true, Bool.or_eq_true, decide_eq_true_iff]

theorem vinText_of_unconfigured (h : Unconfigured vin) : vinText vin = "" := by
  rw [vinText, if_pos (all_fill_iff.2 h)]

theorem stripped_vinText (h : ¬Unconfigured vin) (hcs : Utf8.Reads vin cs) :
    Blank.Stripped (· = '\x00') cs (vinText vin).toList := by
  rw [vinText, if_neg (mt all_fill_iff.1 h), String.toList_ofList, Utf8.lossyChars_eq_iff.2 hcs]
  exact Blank.strip_eq_iff.1 rfl

theorem vinText_eq_empty_iff : vinText vin = "" ↔ Unconfigured vin := by
  refine ⟨fun hempty => by_contra fun h => h fun b hb => ?_, vinText_of_unconfigured⟩
  have hread := Utf8.reads_lossyChars vin
  have hnil : (vinText vin).toList = [] := String.toList_eq_nil_iff.2 hempty
  have hnul := (stripped_vinText h hread).eq_nil_iff.1 hnil
  exact .inl (hread.forall_nul_iff.1 (fun c hc => of_decide_eq_true (hnul c hc)) b hb)

theorem stripped_vinText_of_ascii (h : ∀ b ∈ vin, b.toNat < 0x80) :
    Blank.Stripped (· = '\x00') (vin.map fun b => Char.ofNat b.toNat) (vinText vin).toList := by
  have hread := Utf8.reads_encode (vin.map fun b => Char.ofNat b.toNat)
  rw [Utf8.encode_ascii h] at hread
  by_cases hvin : Unconfigured vin
  · have hzero : ∀ b ∈ vin, b = 0 := fun b hb =>
      (hvin b hb).resolve_right fun hfill => absurd (h b hb) (hfill ▸ by decide)
    have hstripped := Blank.stripped_strip (· = '\x00') (vin.map fun b => Char.ofNat b.toNat)
    have hnul := hread.forall_nul_iff.2 hzero
    rw [hstripped.eq_nil_iff.2 fun c hc => decide_eq_true (hnul c hc)] at hstripped
    rw [vinText_of_unconfigured hvin]
    exact hstripped
  · exact stripped_vinText hvin hread

/-- The VIN of a vehicle is unknown exactly when its announcement holds nothing but fill bytes. Otherwise it has one to
17 characters, neither the first nor the last of them NUL: those that the bytes say in UTF-8, with U+FFFD for what is
broken, but without the NULs at both ends. Of ASCII these are the bytes themselves. -/
theorem vin_unknown_iff_unconfigured (a : Announcement) (sender : IpAddress) :
    let text := (Vehicle.ofAnnouncement a sender).vin
    (text = "" ↔ Unconfigured a.vin.bytes) ∧
      (¬Unconfigured a.vin.bytes →
        (1 ≤ text.length ∧ text.length ≤ 17) ∧
          text.toList.head? ≠ some '\x00' ∧ text.toList.getLast? ≠ some '\x00' ∧
          ∃ cs, Utf8.Reads a.vin.bytes cs ∧ Blank.Stripped (· = '\x00') cs text.toList) ∧
      ((∀ b ∈ a.vin.bytes, b.toNat < 0x80) →
        Blank.Stripped (· = '\x00') (a.vin.bytes.map fun b => Char.ofNat b.toNat) text.toList) := by
  intro text
  refine ⟨vinText_eq_empty_iff, fun h => ?_, stripped_vinText_of_ascii⟩
  have hread := Utf8.reads_lossyChars a.vin.bytes
  have hstripped : Blank.Stripped (· = '\x00') _ text.toList := stripped_vinText h hread
  have hlength := hstripped.length_le.trans hread.length_le
  rw [String.length_toList, a.vin.length_bytes] at hlength
  refine ⟨⟨Nat.one_le_iff_ne_zero.2 fun hzero => ?_, hlength⟩, fun hnul => ?_, fun hnul => ?_, _, hread, hstripped⟩
  · exact h (vinText_eq_empty_iff.1 (String.length_eq_zero_iff.1 hzero))
  · exact absurd (hstripped.first _ hnul) (by decide)
  · exact absurd (hstripped.last _ hnul) (by decide)

def announcementOf (vin : Octets 17) : Announcement := ⟨1, vin, .replicate 6 0, .replicate 6 0, 0, none⟩

/-- NULs at both ends and one between, a character of two bytes that lacks the second, one of four bytes, a fill byte,
two bytes of a surrogate, and once more a character that breaks off. -/
def damagedVin : Octets 17 :=
  ⟨[0x00, 0x41, 0x00, 0xE2, 0x82, 0x42, 0xF0, 0x9F, 0x9A, 0x97, 0xFF, 0xED, 0xA0, 0x43, 0x00, 0xC3, 0x00], rfl⟩

def paddedVin : Octets 17 := ⟨[0x00, 0x57, 0x00, 0x56] ++ List.replicate 13 0, rfl⟩

theorem damaged_vin_shown :
    let shown (vin : Octets 17) := (Vehicle.ofAnnouncement (announcementOf vin) .unspecified).vin
    ¬Unconfigured damagedVin.bytes ∧ (1 ≤ (shown damagedVin).length ∧ (shown damagedVin).length ≤ 17) ∧
      shown damagedVin = "A\x00\uFFFDB🚗\uFFFD\uFFFD\uFFFDC\x00\uFFFD" ∧
      (∀ b ∈ paddedVin.bytes, b.toNat < 0x80) ∧ shown paddedVin = "W\x00V" := by
  intro shown
  have hdamaged : ¬Unconfigured damagedVin.bytes := by decide
  have hascii : ∀ b ∈ paddedVin.bytes, b.toNat < 0x80 := by simp [paddedVin]
  obtain ⟨-, hknown, -⟩ := vin_unknown_iff_unconfigured (announcementOf damagedVin) .unspecified
  obtain ⟨hlength, -, -, cs, hread, hstripped⟩ := hknown hdamaged
  obtain ⟨-, -, hplain⟩ := vin_unknown_iff_unconfigured (announcementOf paddedVin) .unspecified
  refine ⟨hdamaged, hlength, ?_, hascii, ?_⟩
  · rw [← String.ofList_toList (s := shown damagedVin), ← hstripped.strip_eq, ← hread.lossyChars_eq]
    decide +kernel
  · rw [← String.ofList_toList (s := shown paddedVin), ← (hplain hascii).strip_eq]
    decide +kernel

end Doip
