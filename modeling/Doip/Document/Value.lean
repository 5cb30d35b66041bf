/-! Settings documents as trees, whatever notation they are written in. Settings are natural numbers, texts,
lists and tables; `other` stands for all that no setting can be: truth values, negative and fractional
numbers, and texts with a surrogate that has no partner. A key of the last kind is `none`. -/

namespace Doip

inductive Value
  | natural (n : Nat)
  | text (s : String)
  | list (items : List Value)
  | table (members : List (Option String × Value))
  | other
deriving Inhabited

namespace Value

/-- A table written in the given order. -/
def ofFields (fields : List (String × Value)) : Value := table (fields.map fun (k, v) => (some k, v))

/-- The settings of a record with the given field names. It is written as a table, where unknown keys are
skipped and a known one may stand only once, or as the list of its first fields in order. In a `longer` list
the items behind the last field are skipped. -/
def record? (longer : Bool) (names : List String) : Value → Option (List (String × Value))
  | list items => if longer || items.length ≤ names.length then some (names.zip items) else none
  | table members =>
    let known := members.filterMap fun (k, v) => k.bind fun name => if name ∈ names then some (name, v) else none
    if members.all (·.1.isSome) ∧ (known.map (·.1)).Nodup then some known else none
  | _ => none

def required {α : Type} (fields : List (String × Value)) (name : String) (decode : Value → Option α) : Option α :=
  (fields.lookup name).bind decode

/-- A field that stands for `default` when it is left out. -/
def optional {α : Type} (fields : List (String × Value)) (name : String) (default : α)
    (decode : Value → Option α) : Option α :=
  match fields.lookup name with
  | none => some default
  | some v => decode v

def naturalUpTo (bound : Nat) : Value → Option Nat
  | natural n => if n ≤ bound then some n else none
  | _ => none

def byte? (v : Value) : Option UInt8 := (naturalUpTo (UInt8.size - 1) v).map UInt8.ofNat

def word? (v : Value) : Option UInt16 := (naturalUpTo (UInt16.size - 1) v).map UInt16.ofNat

def doubleWord? (v : Value) : Option UInt32 := (naturalUpTo (UInt32.size - 1) v).map UInt32.ofNat

def quadWord? (v : Value) : Option UInt64 := (naturalUpTo (UInt64.size - 1) v).map UInt64.ofNat

def text? : Value → Option String
  | text s => some s
  | _ => none

def list? {α : Type} (decode : Value → Option α) : Value → Option (List α)
  | list items => items.mapM decode
  | _ => none

end Value
end Doip
