import Doip.Bytes

/-! UTF-8. `chunks` cuts bytes into characters and the longest beginnings of characters that are not
completed; `decode?` takes a text only when there are none of these, `lossy` writes U+FFFD for each. -/

namespace Doip.Utf8

def encode (cs : List Char) : Bytes := cs.flatMap String.utf8EncodeChar

/-- A character, or bytes that begin none or break off inside one. -/
inductive Chunk
  | char (c : Char)
  | invalid
deriving DecidableEq

/-- What a lead byte asks for: how many bytes follow, and the bounds of the first of them. -/
structure Lead where
  trailing : Nat
  low : Nat := 0x80
  high : Nat := 0xBF

/-- Overlong forms, surrogates and numbers above U+10FFFF are ruled out by the second byte. -/
def lead? (b : UInt8) : Option Lead :=
  let n := b.toNat
  if n < 0x80 then some { trailing := 0 }
  else if n < 0xC2 then none
  else if n < 0xE0 then some { trailing := 1 }
  else if n = 0xE0 then some { trailing := 2, low := 0xA0 }
  else if n = 0xED then some { trailing := 2, high := 0x9F }
  else if n < 0xF0 then some { trailing := 2 }
  else if n = 0xF0 then some { trailing := 3, low := 0x90 }
  else if n < 0xF4 then some { trailing := 3 }
  else if n = 0xF4 then some { trailing := 3, high := 0x8F }
  else none

def isTrailing (b : UInt8) : Bool := 0x80 ≤ b.toNat && b.toNat ≤ 0xBF

def Lead.follow (l : Lead) : Bytes → Bytes
  | b :: rest =>
    if l.trailing ≠ 0 ∧ l.low ≤ b.toNat ∧ b.toNat ≤ l.high then
      b :: (rest.take (l.trailing - 1)).takeWhile isTrailing
    else []
  | [] => []

def codePoint (b : UInt8) (trailing : Bytes) : Nat :=
  let bits := match trailing.length with
    | 0 => b.toNat
    | 1 => b.toNat % 0x20
    | 2 => b.toNat % 0x10
    | _ => b.toNat % 0x08
  trailing.foldl (fun n t => n * 0x40 + t.toNat % 0x40) bits

def chunks : Bytes → List Chunk
  | [] => []
  | b :: rest =>
    match lead? b with
    | none => .invalid :: chunks rest
    | some l =>
      let tail := l.follow rest
      let chunk := if tail.length = l.trailing then .char (Char.ofNat (codePoint b tail)) else .invalid
      chunk :: chunks (rest.drop tail.length)
termination_by bs => bs.length
decreasing_by all_goals simp; try omega

def Chunk.char? : Chunk → Option Char
  | .char c => some c
  | .invalid => none

def decode? (bs : Bytes) : Option String := ((chunks bs).mapM Chunk.char?).map String.ofList

def lossyChars (bs : Bytes) : List Char := (chunks bs).map fun c => c.char?.getD '\uFFFD'

def lossy (bs : Bytes) : String := String.ofList (lossyChars bs)

end Doip.Utf8
