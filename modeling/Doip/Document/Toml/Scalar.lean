import Doip.Document.Value
import Doip.Text.Numeral

/-! Scalars of TOML documents that are written without quotes: numbers, dates, times and truth values. A
scalar is recognised as a whole; only a whole number that is not negative can be a setting, and a date is a
table without settings. -/

namespace Doip.Toml

/-- Digits of a base with single underscores between them: the digits, and what follows. -/
def digitRun (base : Nat) : List Char → Option (List Char × List Char)
  | [] => none
  | c :: rest =>
    if (Numeral.digit? base c).isNone then none
    else match rest with
      | '_' :: next :: more =>
        (digitRun base (next :: more)).map fun (ds, rest) => (c :: ds, rest)
      | '_' :: [] => none
      | next :: more =>
        if (Numeral.digit? base next).isSome then
          (digitRun base (next :: more)).map fun (ds, rest) => (c :: ds, rest)
        else some ([c], rest)
      | [] => some ([c], [])

def valueOf (base : Nat) (ds : List Char) : Nat :=
  ds.foldl (fun n c => n * base + ((Numeral.digit? base c).getD 0)) 0

def sign : List Char → Bool × List Char
  | '-' :: rest => (true, rest)
  | '+' :: rest => (false, rest)
  | cs => (false, cs)

def decimalInteger : List Char → Option (List Char × List Char)
  | '0' :: rest => some (['0'], rest)
  | cs => digitRun 10 cs

def ofInteger (negative : Bool) (n : Nat) : Option Value :=
  if negative then (if n ≤ 1 <<< 63 then some (if n = 0 then .natural 0 else .other) else none)
  else if n < 1 <<< 63 then some (.natural n) else none

def based (base : Nat) (cs : List Char) : Option Value :=
  match digitRun base cs with
  | some (ds, []) => ofInteger false (valueOf base ds)
  | _ => none

def integer? : List Char → Option Value
  | '0' :: 'x' :: rest => based 16 rest
  | '0' :: 'o' :: rest => based 8 rest
  | '0' :: 'b' :: rest => based 2 rest
  | cs =>
    let (negative, cs) := sign cs
    match decimalInteger cs with
    | some (ds, []) => ofInteger negative (valueOf 10 ds)
    | _ => none

/-- Whether `digits · 10 ^ scale` rounds to infinity in double precision. -/
def overflows (digits : List Char) (scale : Int) : Bool :=
  let significant := digits.dropWhile (· = '0')
  let order := (significant.length : Int) + scale
  let bound := 1 <<< 1024 - 1 <<< 970
  let n := valueOf 10 significant
  if significant.isEmpty || order < 300 then false
  else if 320 < order then true
  else if 0 ≤ scale then bound ≤ n * Nat.pow 10 scale.toNat
  else bound * Nat.pow 10 (-scale).toNat ≤ n

def exponent? (cs : List Char) : Option Int :=
  let (negative, cs) := sign cs
  match digitRun 10 cs with
  | some (ds, []) => some (if negative then -(valueOf 10 ds : Int) else valueOf 10 ds)
  | _ => none

/-- A number with a fraction, an exponent or both; one too large for double precision is refused. -/
def float? (cs : List Char) : Option Value := do
  let (negative, cs) := sign cs
  let (whole, cs) ← decimalInteger cs
  let (fraction, cs) ← match cs with
    | '.' :: rest => digitRun 10 rest
    | cs => some ([], cs)
  let scale ← match cs with
    | [] => if fraction.isEmpty then none else some 0
    | c :: rest => if c = 'e' ∨ c = 'E' then exponent? rest else none
  if !negative && overflows (whole ++ fraction) (scale - fraction.length) then none else some .other

def twoDigits (low high : Nat) : List Char → Option (Nat × List Char)
  | a :: b :: rest => do
    let n := (← Numeral.digit? 10 a) * 10 + (← Numeral.digit? 10 b)
    if low ≤ n ∧ n ≤ high then some (n, rest) else none
  | _ => none

def lit (c : Char) : List Char → Option (List Char)
  | d :: rest => if d = c then some rest else none
  | [] => none

def isLeapYear (year : Nat) : Bool := year % 4 = 0 && (year % 100 ≠ 0 || year % 400 = 0)

def daysIn (year month : Nat) : Nat :=
  if month = 2 then (if isLeapYear year then 29 else 28)
  else if month = 4 ∨ month = 6 ∨ month = 9 ∨ month = 11 then 30 else 31

def date (cs : List Char) : Option (List Char) := do
  let (century, cs) ← twoDigits 0 99 cs
  let (year, cs) ← twoDigits 0 99 cs
  let (month, cs) ← twoDigits 1 12 (← lit '-' cs)
  let (_, cs) ← twoDigits 1 (daysIn (century * 100 + year) month) (← lit '-' cs)
  return cs

def time (cs : List Char) : Option (List Char) := do
  let (_, cs) ← twoDigits 0 23 cs
  let (_, cs) ← twoDigits 0 59 (← lit ':' cs)
  let (_, cs) ← twoDigits 0 60 (← lit ':' cs)
  match cs with
  | '.' :: rest =>
    let after := rest.dropWhile fun c => (Numeral.digit? 10 c).isSome
    if after.length = rest.length then none else some after
  | cs => some cs

def offset : List Char → Option (List Char)
  | [] => some []
  | c :: rest =>
    if c = 'Z' ∨ c = 'z' then some rest
    else if c = '+' ∨ c = '-' then do
      let (_, cs) ← twoDigits 0 23 rest
      let (_, cs) ← twoDigits 0 59 (← lit ':' cs)
      return cs
    else none

/-- A date, a time of day, or both with or without an offset. -/
def isMoment (cs : List Char) : Bool :=
  match date cs with
  | some [] => true
  | some (c :: rest) => (c = 'T' || c = 't' || c = ' ') && ((time rest).bind offset) = some []
  | none => time cs = some []

def isWord (cs : List Char) : Bool :=
  let unsigned := (sign cs).2
  cs = "true".toList || cs = "false".toList || unsigned = "inf".toList || unsigned = "nan".toList

/-- A date or a time of day as a table with one member, which is no setting. -/
def ofMoment (cs : List Char) : Value := .ofFields [("moment", .text (String.ofList cs))]

def scalar? (cs : List Char) : Option Value :=
  if isWord cs then some .other
  else if isMoment cs then some (ofMoment cs)
  else (float? cs).or (integer? cs)

end Doip.Toml
