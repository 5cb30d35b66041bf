import Doip.Document.Json
import Doip.Proofs.Text.Numeral

/-! Texts and numbers of JSON documents. A text is read as it was written, whatever escapes it needs
(`string_stringText`), and a number up to what ends it (`number_toDigits`). -/

namespace Doip.Json

/-! Texts. -/

/-- A piece in front of what is read behind it. -/
def withPiece (p : Piece) (read : List Piece × List Char) : List Piece × List Char := (p :: read.1, read.2)

theorem stringBody_escaped {e c : Char} (h : unescape? e = some c) (cs : List Char) :
    stringBody ('\\' :: e :: cs) = (stringBody cs).map (withPiece (.char c)) := by
  have hunit : e ≠ 'u' := by
    rintro rfl
    have hnone : unescape? 'u' = none := by decide
    cases hnone ▸ h
  rw [stringBody.eq_3 _ _ (fun a b c d rest he _ => hunit he), h]
  cases stringBody cs <;> rfl

theorem stringBody_unit {a b c d : Char} {n : Nat} (h : unit? a b c d = some n) (cs : List Char) :
    stringBody ('\\' :: 'u' :: a :: b :: c :: d :: cs) = (stringBody cs).map (withPiece (.ofUnit n)) := by
  rw [stringBody, h]
  cases stringBody cs <;> rfl

theorem stringBody_plain {c : Char} (hquote : c ≠ quote) (hbackslash : c ≠ '\\') (hcontrol : ¬c.toNat < 0x20)
    (cs : List Char) : stringBody (c :: cs) = (stringBody cs).map (withPiece (.char c)) := by
  rw [stringBody.eq_4 _ _ (fun _ _ _ _ _ hc _ => hbackslash hc) (fun _ _ hc _ => hbackslash hc), if_neg hquote,
    if_neg (not_or.2 ⟨hbackslash, hcontrol⟩)]
  cases stringBody cs <;> rfl

/-- What is written of a character is read as that character. -/
theorem stringBody_escape (c : Char) (cs : List Char) :
    stringBody (escape c ++ cs) = (stringBody cs).map (withPiece (.char c)) := by
  have hlow : ∀ n < 0x10, unit? '0' '0' '0' n.digitChar = some n := by decide
  have hhigh : ∀ n < 0x10, unit? '0' '0' '1' n.digitChar = some (n + 0x10) := by decide
  have hpiece : c.toNat < 0x20 → Piece.ofUnit c.toNat = .char c := by
    intro hc
    rw [Piece.ofUnit, if_neg (by omega), Char.ofNat_toNat]
  rw [escape]
  split
  · rename_i hc
    exact stringBody_escaped (if_pos (hc.imp id .inl)) cs
  -- the five controls with letters of their own
  iterate 5
    split
    · rename_i hc
      exact stringBody_escaped (hc ▸ rfl) cs
  split
  · rename_i hc
    rw [← hpiece (by omega)]
    exact stringBody_unit (hlow _ hc) cs
  split
  · rename_i hc
    rw [← hpiece hc]
    have hread := hhigh (c.toNat - 0x10) (by omega)
    rw [Nat.sub_add_cancel (by omega)] at hread
    exact stringBody_unit hread cs
  · rename_i hspecial _ _ _ _ _ _ hcontrol
    exact stringBody_plain (fun h => hspecial (.inl h)) (fun h => hspecial (.inr h)) hcontrol cs

theorem stringBody_flatMap (cs rest : List Char) :
    stringBody (cs.flatMap escape ++ quote :: rest) = some (cs.map .char, rest) := by
  induction cs with
  | nil => rfl
  | cons c cs ih =>
    rw [List.flatMap_cons, List.append_assoc, stringBody_escape, ih]
    rfl

theorem join_map_char (cs : List Char) : join (cs.map .char) = some cs := by
  induction cs with
  | nil => rfl
  | cons c cs ih =>
    rw [List.map_cons, join, ih]
    rfl

/-- A text is read as it was written. -/
theorem string_stringText (s : String) (rest : List Char) :
    string (s.toList.flatMap escape ++ quote :: rest) = some (some s, rest) := by
  rw [string, stringBody_flatMap]
  show some ((join (s.toList.map .char)).map String.ofList, rest) = _
  rw [join_map_char, Option.map_some, String.ofList_toList]

/-! Numbers. -/

/-- What ends a number: nothing, a blank, or what stands behind an item. -/
def Ends (rest : List Char) : Prop := ∀ c ∈ rest.head?, isSpace c = true ∨ c = ',' ∨ c = ']' ∨ c = '}'

theorem Ends.parts {rest : List Char} (h : Ends rest) :
    rest.takeWhile isDigit = [] ∧ fraction rest = some (false, rest) ∧ exponent rest = some (false, rest) := by
  cases rest with
  | nil => exact ⟨rfl, rfl, rfl⟩
  | cons c rest =>
    have hc : c = ' ' ∨ c = '\t' ∨ c = '\n' ∨ c = '\r' ∨ c = ',' ∨ c = ']' ∨ c = '}' := by
      simpa [isSpace, or_assoc] using h c rfl
    rcases hc with rfl | rfl | rfl | rfl | rfl | rfl | rfl <;> exact ⟨rfl, rfl, rfl⟩

theorem ofDigits_toDigits (n : Nat) : ofDigits (Nat.toDigits 10 n) = n := by
  have hfold : ∀ cs value, cs.foldl (fun n c => n * 10 + (c.toNat - '0'.toNat)) value =
      Nat.ofDigitChars 10 cs value := by
    intro cs value
    simp only [Nat.ofDigitChars, Nat.mul_comm]
  rw [ofDigits, hfold, Nat.ofDigitChars_toDigits (by decide) (by decide)]

theorem integer_toDigits (n : Nat) {rest : List Char} (hrest : Ends rest) :
    integer (Nat.toDigits 10 n ++ rest) = some (n, rest) := by
  have hdigits : ∀ c ∈ Nat.toDigits 10 n, isDigit c = true := fun c hc =>
    Nat.isDigit_of_mem_toDigits (by decide) (by decide) hc
  have htake : (Nat.toDigits 10 n ++ rest).takeWhile isDigit = Nat.toDigits 10 n := by
    rw [List.takeWhile_append_of_pos hdigits, hrest.parts.1, List.append_nil]
  have hdrop : (Nat.toDigits 10 n ++ rest).dropWhile isDigit = rest := by
    have hwhole := List.takeWhile_append_dropWhile (p := isDigit) (l := Nat.toDigits 10 n ++ rest)
    rw [htake] at hwhole
    exact List.append_cancel_left hwhole
  by_cases hzero : n = 0
  · rw [hzero]
    rfl
  · have hhead : ∀ tail, Nat.toDigits 10 n ++ rest ≠ '0' :: tail := by
      intro tail htail
      have hfirst := congrArg List.head? htail
      rw [Numeral.head?_toDigits_append] at hfirst
      exact Numeral.head?_toDigits (by decide) (by decide) hzero hfirst
    rw [integer.eq_2 _ (fun tail htail => hhead tail htail), digits, htake, hdrop, if_neg (by simp), ofDigits_toDigits]
    rfl

theorem toDigits_eq_cons (n : Nat) : ∃ c cs, Nat.toDigits 10 n = c :: cs ∧ isDigit c = true := by
  obtain ⟨c, cs, hcs⟩ := List.exists_cons_of_ne_nil (Nat.toDigits_ne_nil (n := n) (b := 10))
  exact ⟨c, cs, hcs, Nat.isDigit_of_mem_toDigits (by decide) (by decide) (hcs ▸ List.mem_cons_self)⟩

theorem number_toDigits (n : Nat) {rest : List Char} (hrest : Ends rest) :
    number (Nat.toDigits 10 n ++ rest) = some (.natural n, rest) := by
  obtain ⟨c, cs, hcs, hdigit⟩ := toDigits_eq_cons n
  obtain ⟨-, hfraction, hexponent⟩ := hrest.parts
  have hread := integer_toDigits n hrest
  have hsign : c ≠ '-' := by
    rintro rfl
    exact absurd hdigit (by decide)
  rw [hcs, List.cons_append] at hread ⊢
  simp [number, hsign, hread, hfraction, hexponent]

end Doip.Json
