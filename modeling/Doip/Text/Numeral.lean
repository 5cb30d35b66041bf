/-! Unsigned numerals in a base up to sixteen. One plus sign may precede the digits. Reading goes from left
to right, and the first character that is no digit or takes the value above the bound decides the fault. -/

namespace Doip.Numeral

inductive Fault
  | empty
  | invalidDigit
  | tooLarge
deriving DecidableEq, Repr

def Fault.message : Fault → String
  | empty => "cannot parse integer from empty string"
  | invalidDigit => "invalid digit found in string"
  | tooLarge => "number too large to fit in target type"

/-- The value of an ASCII digit or letter, taken as a digit of a base that is large enough. -/
def digitValue? (c : Char) : Option Nat :=
  if '0' ≤ c ∧ c ≤ '9' then some (c.toNat - '0'.toNat)
  else if 'a' ≤ c ∧ c ≤ 'z' then some (c.toNat - 'a'.toNat + 10)
  else if 'A' ≤ c ∧ c ≤ 'Z' then some (c.toNat - 'A'.toNat + 10)
  else none

def digit? (base : Nat) (c : Char) : Option Nat := (digitValue? c).filter (· < base)

/-- Extends a value by further digits, as long as it stays within `bound`. -/
def extend (base bound : Nat) : Nat → List Char → Except Fault Nat
  | value, [] => .ok value
  | value, c :: cs =>
    match digit? base c with
    | none => .error .invalidDigit
    | some d => if value * base + d ≤ bound then extend base bound (value * base + d) cs else .error .tooLarge

def read (base bound : Nat) : List Char → Except Fault Nat
  | [] => .error .empty
  | '+' :: c :: cs => extend base bound 0 (c :: cs)
  | cs => extend base bound 0 cs

end Doip.Numeral
