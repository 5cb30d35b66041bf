import Doip.Bytes
import Doip.Text.Quoted

/-! Hexadecimal text. Bytes are written as pairs of digits, plain, spaced or joined by colons, and
`decode` reads pairs of either letter case back. It works on the bytes of the text: an odd number
of them is refused first, then the leftmost byte that is no digit. -/

namespace Doip.Hex

def lowerDigits : List Char := "0123456789abcdef".toList

def upperDigits : List Char := "0123456789ABCDEF".toList

def pair (digits : List Char) (b : UInt8) : List Char :=
  [digits.getD (b.toNat / 16) '0', digits.getD (b.toNat % 16) '0']

/-- Lowercase digits without separators. -/
def encode (bs : Bytes) : String := String.ofList (bs.flatMap (pair lowerDigits))

/-- Uppercase pairs with one space between bytes. -/
def spaced (bs : Bytes) : String :=
  String.ofList ((bs.map (pair upperDigits)).intersperse [' ']).flatten

def colons (bs : Bytes) : String :=
  String.ofList ((bs.map (pair lowerDigits)).intersperse [':']).flatten

def digitsOf : Nat → Nat → List Char
  | 0, _ => []
  | k + 1, n => digitsOf k (n / 16) ++ [upperDigits.getD (n % 16) '0']

def byteText (b : UInt8) : String := "0x" ++ String.ofList (digitsOf 2 b.toNat)

def wordText (w : UInt16) : String := "0x" ++ String.ofList (digitsOf 4 w.toNat)

def value? (b : UInt8) : Option Nat :=
  let n := b.toNat
  if 0x30 ≤ n ∧ n ≤ 0x39 then some (n - 0x30)
  else if 0x61 ≤ n ∧ n ≤ 0x66 then some (n - 0x61 + 10)
  else if 0x41 ≤ n ∧ n ≤ 0x46 then some (n - 0x41 + 10)
  else none

inductive Fault
  | oddLength
  | badByte (byte : UInt8) (position : Nat)
deriving DecidableEq, Repr

/-- A bad byte is shown as the character of that number. -/
def Fault.message : Fault → String
  | oddLength => "Odd number of digits"
  | badByte b position => s!"Invalid character {Quoted.char (Char.ofNat b.toNat)} at position {position}"

def digitAt (position : Nat) (b : UInt8) : Except Fault Nat :=
  match value? b with
  | some v => .ok v
  | none => .error (.badByte b position)

/-- Reads pairs from left to right, the first of them at `position`. -/
def decodeFrom : Nat → Bytes → Except Fault Bytes
  | position, a :: b :: rest => do
    let hi ← digitAt position a
    let lo ← digitAt (position + 1) b
    let bs ← decodeFrom (position + 2) rest
    return UInt8.ofNat (hi * 16 + lo) :: bs
  | _, _ => .ok []

def decode (text : Bytes) : Except Fault Bytes :=
  if text.length % 2 = 1 then .error .oddLength else decodeFrom 0 text

end Doip.Hex
