import Doip.Document.Toml.Syntax

/-! TOML documents. The lines are read in order into one tree: a header names the table that the settings
below it go to, a table is given only once, and a table in a list starts a new element each time. -/

namespace Doip.Toml

/-- The tree read so far and the path of the table that settings go to. -/
structure Draft where
  root : List (String × Node) := []
  current : List String := []

def startTable (name : String) (ms : List (String × Node)) : Option (List (String × Node)) :=
  match ms.lookup name with
  | none => some (setMember name (.table false false []) ms)
  | some (.table true false inner) => some (setMember name (.table false false inner) ms)
  | some _ => none

def startElement (name : String) (ms : List (String × Node)) : Option (List (String × Node)) :=
  match ms.lookup name with
  | none => some (setMember name (.tables [[]]) ms)
  | some (.tables es) => some (setMember name (.tables (es ++ [[]])) ms)
  | some _ => none

def Draft.start (d : Draft) (path : List String)
    (begin : String → List (String × Node) → Option (List (String × Node))) : Option Draft := do
  let name ← path.getLast?
  let root ← within false (fun _ ms => begin name ms) false path.dropLast d.root
  return ⟨root, path⟩

def Draft.add (d : Draft) : Line → Option Draft
  | .table path => d.start path startTable
  | .element path => d.start path startElement
  | .setting keys v => do
    let root ← within false (fun _ ms => insert keys v ms) false d.current d.root
    return { d with root }

/-- The tree of a whole text; a byte order mark in front is skipped. -/
def parse? (text : String) : Option Value := do
  let cs := match text.toList with
    | '\uFEFF' :: rest => rest
    | cs => cs
  let ls ← lines (cs.length + 1) cs
  let draft ← ls.foldlM Draft.add {}
  return .table (membersToValues draft.root)

end Doip.Toml
