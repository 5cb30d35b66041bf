import Doip.Document.Json

/-! What the command line prints: failures with their causes, tables and named values. -/

namespace Doip.CommandLine

structure Failure where
  message : String
  causes : List String := []
deriving DecidableEq, Repr

def indentLines (first more : String) (text : String) : String :=
  first ++ String.ofList (text.toList.flatMap fun c => if c = '\n' then c :: more.toList else [c])

def causeNumber (i : Nat) : String :=
  let digits := toString i
  String.ofList (List.replicate (5 - digits.length) ' ') ++ digits ++ ": "

/-- Several causes are numbered, a single one is not. -/
def causeLines : List String → List String
  | [] => []
  | [cause] => [indentLines "    " "    " cause]
  | causes => causes.zipIdx.map fun (cause, i) => indentLines (causeNumber i) "       " cause

def Failure.text (f : Failure) : String :=
  let causes := if f.causes.isEmpty then [] else ["", "Caused by:"] ++ causeLines f.causes
  "\n".intercalate (s!"Error: {f.message}" :: causes) ++ "\n"

/-! Tables. -/

def ruler (widths : List Nat) : String :=
  "+" ++ "+".intercalate (widths.map fun w => String.ofList (List.replicate (w + 2) '-')) ++ "+"

def cell (width : Nat) (text : String) : String :=
  " " ++ text ++ String.ofList (List.replicate (width - text.length) ' ') ++ " "

def row (widths : List Nat) (cells : List String) : String :=
  "|" ++ "|".intercalate (widths.zipWith cell cells) ++ "|"

/-- Every column is as wide as its widest cell, and a ruler stands around every row. -/
def table (header : List String) (rows : List (List String)) : String :=
  let widths := (header :: rows).foldl
    (fun widths cells => widths.zipWith max (cells.map (·.length))) (header.map fun _ => 0)
  "\n".intercalate (ruler widths :: (header :: rows).flatMap fun cells => [row widths cells, ruler widths]) ++ "\n"

/-! Named values. -/

def pairLines (pairs : List (String × String)) : String :=
  String.join (pairs.map fun (key, value) => s!"{key}: {value}\n")

/-- The fields of a record are sorted by name. -/
def pairObject (pairs : List (String × String)) : String :=
  let sorted := pairs.mergeSort fun a b => a.1 ≤ b.1
  Json.indented (.ofFields (sorted.map fun (key, value) => (key, .text value))) ++ "\n"

end Doip.CommandLine
