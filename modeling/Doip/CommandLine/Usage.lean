import Doip.CommandLine.Arguments
import Doip.CommandLine.Literals
import Doip.IpAddress

/-! What the command line asks for: settings of the whole run, and one of three commands. Arguments that ask for
nothing of the kind are refused as a whole, unless help is asked for in front of the first fault. -/

namespace Doip.CommandLine

inductive Format
  | table
  | json
deriving DecidableEq, Repr

def Format.ofText? : String → Option Format
  | "table" => some table
  | "json" => some json
  | _ => none

structure Target where
  /-- The name of a conversation; the first one is taken without it. -/
  tester : Option String
  server : Address
  /-- Goes before the host that the server is mapped to. -/
  host : Option IpAddress

inductive Command
  | discover (vin eid : Option String) (window : Option Nat)
  | connect (target : Target)
  | send (target : Target) (payload : List String)

structure Invocation where
  /-- The path of the settings. -/
  config : Option String
  format : Format
  quiet : Bool
  command : Command

def readWindow (text : String) : Option Nat := (Numeral.read 10 (UInt64.size - 1) text.toList).toOption

def readTargetAddress (text : String) : Option Address := (readAddress text).toOption

/-- A value that some reader understands. -/
def OptionKind.ofReader {α : Type} (read : String → Option α) : OptionKind := value fun text => (read text).isSome

def helpSpecs : List OptionSpec := [
  { name := "help", letter := some 'h', kind := .help },
  { name := "version", letter := some 'V', kind := .help }]

def globalSpecs : List OptionSpec := helpSpecs ++ [
  { name := "config", letter := some 'c', kind := .value fun path => !path.isEmpty },
  { name := "output", letter := some 'o', kind := .ofReader Format.ofText? },
  { name := "no-color", kind := .flag },
  { name := "quiet", letter := some 'q', kind := .flag },
  { name := "verbose", letter := some 'v', kind := .flag }]

def discoverSpecs : List OptionSpec := helpSpecs ++ [
  { name := "vin", kind := .anyText },
  { name := "eid", kind := .anyText },
  { name := "timeout-ms", kind := .ofReader readWindow }]

def targetSpecs : List OptionSpec := helpSpecs ++ [
  { name := "tester", letter := some 't', kind := .anyText },
  { name := "target", kind := .ofReader readTargetAddress },
  { name := "host", kind := .ofReader IpAddress.parse? }]

def optional {α : Type} (items : List Item) (name : String) (read : String → Option α) : Option α :=
  (value? items name).bind read

/-- The server must be named. -/
def readTarget (items : List Item) : Option Target := do
  let server ← optional items "target" readTargetAddress
  return { tester := value? items "tester", server, host := optional items "host" IpAddress.parse? }

/-- Vehicles are selected in one way only. -/
def readDiscover (items : List Item) : Option Command :=
  if isGiven items "vin" && isGiven items "eid" then none
  else some (.discover (value? items "vin") (value? items "eid") (optional items "timeout-ms" readWindow))

def readConnect (items : List Item) : Option Command := (readTarget items).map .connect

def readSend (items : List Item) : Option Command := do
  let target ← readTarget items
  let payload := items.filterMap Item.bare?
  if payload.isEmpty then none else some (.send target payload)

/-- The options of a command, whether it takes bare texts, and what its items mean. -/
structure CommandSpec where
  options : List OptionSpec
  takesBare : Bool
  read : List Item → Option Command

def command? : String → Option CommandSpec
  | "discover" => some ⟨discoverSpecs, false, readDiscover⟩
  | "connect" => some ⟨targetSpecs, false, readConnect⟩
  | "send" => some ⟨targetSpecs, true, readSend⟩
  | _ => none

/-- Whether there is help on a topic: on all of it, or on one command. -/
def isTopic : List String → Bool
  | [] => true
  | [name] => name = "help" || (command? name).isSome
  | _ => false

/-- Reads the arguments of a command behind the settings of the run, whose last one is checked in the end. -/
def readCommand (settings : Reader) : List String → Except Stop Invocation
  | [] => .error .fault
  | "help" :: topic => .error (if isTopic topic then .help else .fault)
  | name :: arguments =>
    match command? name with
    | none => .error .fault
    | some spec => do
      let items ← readItems spec.options spec.takesBare {} arguments
      match spec.read items with
      | none => .error .fault
      | some command =>
        let settings := (← settings.settle).items
        return {
          config := value? settings "config"
          format := (optional settings "output" Format.ofText?).getD .table
          quiet := isGiven settings "quiet"
          command }

def readUsage (arguments : List String) : Except Stop Invocation := do
  let (settings, rest) ← readSettings globalSpecs {} arguments
  readCommand settings rest

end Doip.CommandLine
