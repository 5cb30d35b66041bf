/-! The arguments of a command, read from left to right as options and bare texts. An option is written
`--name value`, `--name=value`, `-n value`, `-nvalue` or `-n=value`; letters of options without a value can be
written together. Behind `--` every argument is bare. A value that stands by itself does not begin with a
dash, unless it is one. Reading stops at the first fault, and where help is asked for. -/

namespace Doip.CommandLine

inductive OptionKind
  | flag
  /-- Nothing: the option asks for help and ends the reading. -/
  | help
  | value (accepts : String → Bool)

def OptionKind.anyText : OptionKind := value fun _ => true

structure OptionSpec where
  name : String
  letter : Option Char := none
  kind : OptionKind

inductive Item
  /-- An option, with an empty value if it takes none. -/
  | option (name value : String)
  | bare (text : String)
deriving DecidableEq, Repr

namespace Item

def name? : Item → Option String
  | option name _ => some name
  | bare _ => none

def bare? : Item → Option String
  | option _ _ => none
  | bare text => some text

end Item

def value? (items : List Item) (name : String) : Option String :=
  items.findSome? fun | .option n value => if n = name then some value else none | .bare _ => none

def isGiven (items : List Item) (name : String) : Bool := (value? items name).isSome

inductive Stop
  | help
  | fault
deriving DecidableEq, Repr

/-- What has been read so far. -/
structure Reader where
  items : List Item := []
  /-- The last option if its value stands by itself, and that value once it is read. It is checked when
  something other than its value follows, or when the arguments end. -/
  held : Option (OptionSpec × Option String) := none

namespace Reader

/-- Adds an option, which is given only once and with a value that it accepts. -/
def add (r : Reader) (spec : OptionSpec) (value : String) : Except Stop Reader :=
  let added : Except Stop Reader :=
    if isGiven r.items spec.name then .error .fault
    else .ok { r with items := r.items ++ [.option spec.name value] }
  match spec.kind with
  | .help => .error .help
  | .flag => added
  | .value accepts => if accepts value then added else .error .fault

def settle (r : Reader) : Except Stop Reader :=
  match r.held with
  | none => .ok r
  | some (_, none) => .error .fault
  | some (spec, some value) => { r with held := none }.add spec value

def take (r : Reader) (spec : OptionSpec) (value : String) : Except Stop Reader := do
  (← r.settle).add spec value

def await (r : Reader) (spec : OptionSpec) : Except Stop Reader := do
  return { ← r.settle with held := some (spec, none) }

def fill? (r : Reader) (text : String) : Option Reader :=
  match r.held with
  | some (spec, none) => some { r with held := some (spec, some text) }
  | _ => none

/-- The value written behind the letter of an option. -/
def attached? : List Char → Option (List Char)
  | [] => none
  | '=' :: cs => some cs
  | cs => some cs

def readLetters (specs : List OptionSpec) : Reader → List Char → Except Stop Reader
  | r, [] => .ok r
  | r, c :: cs =>
    match specs.find? (·.letter = some c) with
    | none => .error .fault
    | some spec =>
      match spec.kind, attached? cs with
      | .value _, some value => r.take spec (String.ofList value)
      | .value _, none => r.await spec
      | _, _ => do readLetters specs (← r.take spec "") cs

def readName (specs : List OptionSpec) (r : Reader) (cs : List Char) : Except Stop Reader :=
  let name := cs.takeWhile (· ≠ '=')
  match specs.find? (·.name.toList = name), cs.dropWhile (· ≠ '=') with
  | none, _ => .error .fault
  | some spec, after =>
    match spec.kind, after with
    | .value _, [] => r.await spec
    | .value _, _ :: value => r.take spec (String.ofList value)
    | _, [] => r.take spec ""
    | _, _ :: _ => .error .fault

end Reader

/-- What one argument looks like. -/
inductive Argument
  | bare
  /-- The two dashes that end all options. -/
  | terminator
  | name (cs : List Char)
  | letters (cs : List Char)
deriving DecidableEq, Repr

def Argument.of (argument : String) : Argument :=
  match argument.toList with
  | ['-'] => bare
  | ['-', '-'] => terminator
  | '-' :: '-' :: cs => name cs
  | '-' :: cs => letters cs
  | _ => bare

/-- Reads the options up to the first bare text, and leaves it with all that follows. The last option may still
be unchecked then. -/
def readSettings (specs : List OptionSpec) : Reader → List String → Except Stop (Reader × List String)
  | r, [] => .ok (r, [])
  | r, argument :: rest =>
    match Argument.of argument with
    | .terminator => .error .fault
    | .name cs => do readSettings specs (← r.readName specs cs) rest
    | .letters cs => do readSettings specs (← Reader.readLetters specs r cs) rest
    | .bare =>
      match r.fill? argument with
      | some r => readSettings specs r rest
      | none => .ok (r, argument :: rest)

/-- Reads all arguments; bare texts are a fault unless they are asked for. -/
def readItems (specs : List OptionSpec) (takesBare : Bool) : Reader → List String → Except Stop (List Item)
  | r, [] => do return (← r.settle).items
  | r, argument :: rest =>
    match Argument.of argument with
    | .terminator => do
      let r ← r.settle
      if takesBare || rest.isEmpty then return r.items ++ rest.map .bare else .error .fault
    | .name cs => do readItems specs takesBare (← r.readName specs cs) rest
    | .letters cs => do readItems specs takesBare (← Reader.readLetters specs r cs) rest
    | .bare =>
      match r.fill? argument with
      | some r => readItems specs takesBare r rest
      | none =>
        if takesBare then do
          let r ← r.settle
          readItems specs takesBare { r with items := r.items ++ [.bare argument] } rest
        else .error .fault

end Doip.CommandLine
