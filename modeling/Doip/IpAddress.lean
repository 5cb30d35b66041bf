import Doip.Bytes
import Doip.Text.Numeral

/-! Internet addresses and their texts. An IPv4 address is four decimal numbers without leading zeros; an IPv6
address is eight groups of up to four hexadecimal digits, where one `::` stands for at least one group
of zeros and the last two groups may be an IPv4 address. -/

namespace Doip

structure Ipv4 where
  a : UInt8
  b : UInt8
  c : UInt8
  d : UInt8
deriving DecidableEq, Repr

structure Ipv6 where
  groups : List UInt16
  length_groups : groups.length = 8
deriving DecidableEq

inductive IpAddress
  | v4 (address : Ipv4)
  | v6 (address : Ipv6)
deriving DecidableEq

/-- The two groups an IPv4 address stands for inside an IPv6 address. -/
def Ipv4.groups (v : Ipv4) : List UInt16 := [address v.a v.b, address v.c v.d]

namespace IpAddress

def unspecified : IpAddress := .v4 ⟨0, 0, 0, 0⟩

def broadcast : IpAddress := .v4 ⟨255, 255, 255, 255⟩

def localhost : IpAddress := .v4 ⟨127, 0, 0, 1⟩

/-! Reading. -/

def expect (c : Char) : List Char → Option (List Char)
  | [] => none
  | d :: rest => if d = c then some rest else none

/-- Reads all the digits a text begins with, between one and `most` of them. -/
def number (base most : Nat) (cs : List Char) : Option (Nat × List Char) :=
  let digits := cs.takeWhile fun c => (Numeral.digit? base c).isSome
  if digits.length = 0 ∨ most < digits.length then none
  else (Numeral.extend base (base.pow most) 0 digits).toOption.map (·, cs.drop digits.length)

/-- A decimal number up to 255 without leading zeros. -/
def octet (cs : List Char) : Option (UInt8 × List Char) := do
  let (n, rest) ← number 10 3 cs
  if 255 < n ∨ (cs.head? = some '0' ∧ rest.length + 1 < cs.length) then none
  else some (UInt8.ofNat n, rest)

def readV4 (cs : List Char) : Option (Ipv4 × List Char) := do
  let (a, cs) ← octet cs
  let (b, cs) ← octet (← expect '.' cs)
  let (c, cs) ← octet (← expect '.' cs)
  let (d, cs) ← octet (← expect '.' cs)
  return (⟨a, b, c, d⟩, cs)

/-- Reads up to `limit` groups with colons between them, as many as there are. An IPv4 address stands for
the last two of them and ends the list; the flag tells that one was read. -/
def readGroups : (limit : Nat) → (first : Bool) → List Char → List UInt16 × Bool × List Char
  | 0, _, cs => ([], false, cs)
  | limit + 1, first, cs =>
    let start := if first then some cs else expect ':' cs
    match if limit = 0 then none else start.bind readV4 with
    | some (v, rest) => (v.groups, true, rest)
    | none =>
      match start.bind (number 16 4) with
      | none => ([], false, cs)
      | some (g, rest) =>
        let (gs, embedded, rest) := readGroups limit false rest
        (UInt16.ofNat g :: gs, embedded, rest)

def ofGroups? (gs : List UInt16) : Option IpAddress := if h : gs.length = 8 then some (.v6 ⟨gs, h⟩) else none

def readV6 (cs : List Char) : Option (IpAddress × List Char) := do
  let (front, embedded, cs) := readGroups 8 true cs
  if front.length = 8 then return (← ofGroups? front, cs)
  if embedded then none
  let cs ← expect ':' (← expect ':' cs)
  let (back, _, cs) := readGroups (7 - front.length) true cs
  return (← ofGroups? (front ++ List.replicate (8 - front.length - back.length) 0 ++ back), cs)

def read (cs : List Char) : Option (IpAddress × List Char) :=
  match readV4 cs with
  | some (v, rest) => some (.v4 v, rest)
  | none => readV6 cs

def parse? (text : String) : Option IpAddress :=
  match read text.toList with
  | some (ip, []) => some ip
  | _ => none

/-! Writing. -/

def v4Text (v : Ipv4) : List Char :=
  ([v.a, v.b, v.c, v.d].map fun n => Nat.toDigits 10 n.toNat).intersperse ['.'] |>.flatten

def groupsText (gs : List UInt16) : List Char :=
  (gs.map fun g => Nat.toDigits 16 g.toNat).intersperse [':'] |>.flatten

/-- The first of the longest runs of zeros, as its start and length; `i` is the index of the head. -/
def longestZeros : (i : Nat) → List UInt16 → Nat × Nat
  | _, [] => (0, 0)
  | i, g :: gs =>
    let run := ((g :: gs).takeWhile (· = 0)).length
    let later := longestZeros (i + 1) gs
    if later.2 ≤ run then (i, run) else later

def compressed (gs : List UInt16) : List Char :=
  let (start, run) := longestZeros 0 gs
  if run ≤ 1 then groupsText gs
  else groupsText (gs.take start) ++ [':', ':'] ++ groupsText (gs.drop (start + run))

/-- An IPv4 address in the range reserved for them is shown in its own notation. -/
def v6Text (v : Ipv6) : List Char :=
  match v.groups with
  | [0, 0, 0, 0, 0, 0xFFFF, g, h] =>
    let byte (n : Nat) := UInt8.ofNat n
    "::ffff:".toList ++
      v4Text ⟨byte (g.toNat / 256), byte g.toNat, byte (h.toNat / 256), byte h.toNat⟩
  | gs => compressed gs

def text : IpAddress → String
  | v4 v => String.ofList (v4Text v)
  | v6 v => String.ofList (v6Text v)

def isV4 : IpAddress → Bool
  | v4 _ => true
  | v6 _ => false

end IpAddress
end Doip
