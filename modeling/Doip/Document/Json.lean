import Doip.Document.Value
import Doip.Text.Numeral

/-! JSON documents: reading them into trees and writing trees as JSON, in one line or indented. -/

namespace Doip.Json

def quote : Char := '\x22'

def isSpace (c : Char) : Bool := c = ' ' || c = '\t' || c = '\n' || c = '\r'

def skip (cs : List Char) : List Char := cs.dropWhile isSpace

/-! Reading. -/

/-- A piece of a string: a character, or half of a surrogate pair. -/
inductive Piece
  | char (c : Char)
  | surrogate (unit : Nat)

def Piece.ofUnit (n : Nat) : Piece := if 0xD800 ≤ n ∧ n < 0xE000 then .surrogate n else .char (Char.ofNat n)

/-- Joins surrogate pairs; a half without its partner leaves no text. -/
def join : List Piece → Option (List Char)
  | [] => some []
  | .char c :: rest => (join rest).map (c :: ·)
  | .surrogate high :: .surrogate low :: rest =>
    if high < 0xDC00 ∧ 0xDC00 ≤ low then
      (join rest).map (Char.ofNat (0x10000 + (high - 0xD800) * 0x400 + (low - 0xDC00)) :: ·)
    else none
  | .surrogate _ :: _ => none

def unescape? (c : Char) : Option Char :=
  if c = quote ∨ c = '\\' ∨ c = '/' then some c
  else if c = 'b' then some '\x08'
  else if c = 'f' then some '\x0C'
  else if c = 'n' then some '\n'
  else if c = 'r' then some '\r'
  else if c = 't' then some '\t'
  else none

def unit? (a b c d : Char) : Option Nat := (Numeral.extend 16 0xFFFF 0 [a, b, c, d]).toOption

/-- The pieces of a string up to its closing quote, and what follows. -/
def stringBody : List Char → Option (List Piece × List Char)
  | [] => none
  | '\\' :: 'u' :: a :: b :: c :: d :: rest => do
    let n ← unit? a b c d
    let (ps, rest) ← stringBody rest
    return (.ofUnit n :: ps, rest)
  | '\\' :: e :: rest => do
    let c ← unescape? e
    let (ps, rest) ← stringBody rest
    return (.char c :: ps, rest)
  | c :: rest =>
    if c = quote then some ([], rest)
    else if c = '\\' ∨ c.toNat < 0x20 then none
    else do
      let (ps, rest) ← stringBody rest
      return (.char c :: ps, rest)

/-- The text of a string behind its opening quote, none when a surrogate stands alone. -/
def string (cs : List Char) : Option (Option String × List Char) := do
  let (ps, rest) ← stringBody cs
  return ((join ps).map String.ofList, rest)

def isDigit (c : Char) : Bool := '0' ≤ c && c ≤ '9'

/-- At least one digit, and what follows the digits. -/
def digits (cs : List Char) : Option (List Char) :=
  if (cs.takeWhile isDigit).isEmpty then none else some (cs.dropWhile isDigit)

def fraction : List Char → Option (Bool × List Char)
  | '.' :: rest => (digits rest).map (true, ·)
  | cs => some (false, cs)

def exponent : List Char → Option (Bool × List Char)
  | [] => some (false, [])
  | c :: rest =>
    if c = 'e' ∨ c = 'E' then
      match rest with
      | '+' :: rest | '-' :: rest => (digits rest).map (true, ·)
      | rest => (digits rest).map (true, ·)
    else some (false, c :: rest)

def ofDigits (cs : List Char) : Nat := cs.foldl (fun n c => n * 10 + (c.toNat - '0'.toNat)) 0

/-- Digits without a leading zero, and what follows. -/
def integer : List Char → Option (Nat × List Char)
  | '0' :: rest => some (0, rest)
  | cs => (digits cs).map (ofDigits (cs.takeWhile isDigit), ·)

/-- A number; one with a sign, a fraction or an exponent is no setting. -/
def number (cs : List Char) : Option (Value × List Char) := do
  let (negative, cs) := match cs with
    | '-' :: rest => (true, rest)
    | cs => (false, cs)
  let (n, cs) ← integer cs
  let (fractional, cs) ← fraction cs
  let (scaled, cs) ← exponent cs
  return (if negative || fractional || scaled then .other else .natural n, cs)

def word (w cs : List Char) : Option (Value × List Char) :=
  if w.isPrefixOf cs then some (.other, cs.drop w.length) else none

mutual

/-- Reads a value and the blanks before it. -/
def value : (fuel : Nat) → List Char → Option (Value × List Char)
  | 0, _ => none
  | fuel + 1, cs =>
    match skip cs with
    | '[' :: rest =>
      match skip rest with
      | ']' :: rest => some (.list [], rest)
      | rest => do
        let (vs, rest) ← items fuel rest
        return (.list vs, rest)
    | '{' :: rest =>
      match skip rest with
      | '}' :: rest => some (.table [], rest)
      | rest => do
        let (ms, rest) ← members fuel rest
        return (.table ms, rest)
    | 'n' :: rest => word "ull".toList rest
    | 't' :: rest => word "rue".toList rest
    | 'f' :: rest => word "alse".toList rest
    | c :: rest =>
      if c = quote then do
        let (s, rest) ← string rest
        return ((s.map Value.text).getD .other, rest)
      else number (c :: rest)
    | [] => none

def items : (fuel : Nat) → List Char → Option (List Value × List Char)
  | 0, _ => none
  | fuel + 1, cs => do
    let (v, rest) ← value fuel cs
    match skip rest with
    | ']' :: rest => return ([v], rest)
    | ',' :: rest => do
      let (vs, rest) ← items fuel rest
      return (v :: vs, rest)
    | _ => none

def members : (fuel : Nat) → List Char → Option (List (Option String × Value) × List Char)
  | 0, _ => none
  | fuel + 1, cs =>
    match skip cs with
    | c :: rest =>
      if c = quote then do
        let (key, rest) ← string rest
        match skip rest with
        | ':' :: rest => do
          let (v, rest) ← value fuel rest
          match skip rest with
          | '}' :: rest => return ([(key, v)], rest)
          | ',' :: rest => do
            let (ms, rest) ← members fuel rest
            return ((key, v) :: ms, rest)
          | _ => none
        | _ => none
      else none
    | [] => none

end

def parse? (text : String) : Option Value := do
  let cs := text.toList
  let (v, rest) ← value (2 * cs.length + 2) cs
  if (skip rest).isEmpty then some v else none

/-! Writing. -/

def escape (c : Char) : List Char :=
  if c = quote ∨ c = '\\' then ['\\', c]
  else if c = '\x08' then ['\\', 'b']
  else if c = '\x0C' then ['\\', 'f']
  else if c = '\n' then ['\\', 'n']
  else if c = '\r' then ['\\', 'r']
  else if c = '\t' then ['\\', 't']
  else if c.toNat < 0x10 then ['\\', 'u', '0', '0', '0', Nat.digitChar c.toNat]
  else if c.toNat < 0x20 then ['\\', 'u', '0', '0', '1', Nat.digitChar (c.toNat - 0x10)]
  else [c]

def stringText (s : String) : List Char := quote :: s.toList.flatMap escape ++ [quote]

def keyText (key : Option String) : List Char := stringText (key.getD "")

mutual

def write : Value → List Char
  | .natural n => Nat.toDigits 10 n
  | .text s => stringText s
  | .list vs => '[' :: writeItems vs ++ [']']
  | .table ms => '{' :: writeMembers ms ++ ['}']
  | .other => "null".toList

def writeItems : List Value → List Char
  | [] => []
  | [v] => write v
  | v :: vs => write v ++ ',' :: writeItems vs

def writeMembers : List (Option String × Value) → List Char
  | [] => []
  | [(k, v)] => keyText k ++ ':' :: write v
  | (k, v) :: ms => keyText k ++ ':' :: write v ++ ',' :: writeMembers ms

end

def newLine (depth : Nat) : List Char := '\n' :: List.replicate (2 * depth) ' '

mutual

/-- A tree over several lines, two spaces deeper for each level. -/
def indent (depth : Nat) : Value → List Char
  | .natural n => Nat.toDigits 10 n
  | .text s => stringText s
  | .list [] => "[]".toList
  | .list (v :: vs) => '[' :: indentItems (depth + 1) (v :: vs) ++ newLine depth ++ [']']
  | .table [] => ['{', '}']
  | .table (m :: ms) => '{' :: indentMembers (depth + 1) (m :: ms) ++ newLine depth ++ ['}']
  | .other => "null".toList

def indentItems (depth : Nat) : List Value → List Char
  | [] => []
  | [v] => newLine depth ++ indent depth v
  | v :: vs => newLine depth ++ indent depth v ++ ',' :: indentItems depth vs

def indentMembers (depth : Nat) : List (Option String × Value) → List Char
  | [] => []
  | [(k, v)] => newLine depth ++ keyText k ++ ':' :: ' ' :: indent depth v
  | (k, v) :: ms => newLine depth ++ keyText k ++ ':' :: ' ' :: indent depth v ++ ',' :: indentMembers depth ms

end

def text (v : Value) : String := String.ofList (write v)

def indented (v : Value) : String := String.ofList (indent 0 v)

end Doip.Json
