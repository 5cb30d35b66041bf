import Doip.Bench.Basic
import Doip.CommandLine.Output
import Doip.CommandLine.Usage

/-! A run of the command line from its arguments to what it prints. Files are read by a function, and the network
is that of the bench which is set up around the manager. -/

namespace Doip.CommandLine

structure Outcome where
  exit : Nat := 0
  stdout : String := ""
  stderr : String := ""
deriving DecidableEq, Repr

/-- The tester that is there without settings. -/
def defaultConfig : Config := { conversations := [{ name := "diagctl", source := 0x0E80 }] }

def loadConfig (read : String → Except String Bytes) : Option String → Except Failure Config
  | none => .ok defaultConfig
  | some path =>
    match Config.load path (read path) with
    | .ok config => .ok config
    | .error e =>
      let causes := match e with
        | .unreadable _ cause => [e.message, cause]
        | _ => [e.message]
      .error ⟨s!"Failed to load config file: {path}", causes⟩

/-- The number of the conversation that a target names. -/
def conversationOf (bench : Bench) (target : Target) : Except Failure Nat :=
  match target.tester.or bench.manager.names.head? with
  | none => .error ⟨"No conversation configured", []⟩
  | some name =>
    match bench.manager.conversation name with
    | .ok i => .ok i
    | .error e => .error ⟨s!"Unknown tester: {name}", [e.message]⟩

def printPairs (format : Format) (pairs : List (String × String)) : String :=
  match format with
  | .table => pairLines pairs
  | .json => pairObject pairs

def vehicleColumns : List (String × String × (Vehicle → String)) := [
  ("Address", "logical_address", fun v => Hex.wordText v.logicalAddress),
  ("VIN", "vin", fun v => if v.vin.isEmpty then "-" else v.vin),
  ("EID", "eid", Vehicle.eidText),
  ("GID", "gid", Vehicle.gidText),
  ("IP", "ip_address", fun v => v.ipAddress.text)]

def printVehicles (format : Format) (quiet : Bool) (vehicles : List Vehicle) : String :=
  match format with
  | .table =>
    if vehicles.isEmpty then (if quiet then "" else "No data\n")
    else table (vehicleColumns.map (·.1)) (vehicles.map fun v => vehicleColumns.map fun (_, _, text) => text v)
  | .json =>
    Json.indented (.list (vehicles.map fun v =>
      .ofFields (vehicleColumns.map fun (_, field, text) => (field, .text (text v))))) ++ "\n"

def failed (f : Failure) : Outcome := { exit := 1, stderr := f.text }

def runDiscover (bench : Bench) (i : Invocation) (vin eid : Option String) (window : Option Nat) : Bench × Outcome :=
  let filter : Except DiscoveryError Filter := match vin, eid with
    | some vin, _ => .ok (.vin vin)
    | none, some eid => Filter.ofEid eid
    | none, none => .ok .any
  match filter with
  | .error e => (bench, failed ⟨e.message, []⟩)
  | .ok filter =>
    match bench.discover filter window with
    | (bench, .error e) => (bench, failed ⟨"Vehicle discovery failed", [e.message]⟩)
    | (bench, .ok vehicles) => (bench, { stdout := printVehicles i.format i.quiet vehicles })

def outcomeName : Option Doip.Outcome → String
  | some (.connect result) => result.name
  | some (.disconnect result) => result.name
  | _ => ""

def runConnect (bench : Bench) (i : Invocation) (target : Target) : Bench × Outcome :=
  match conversationOf bench target with
  | .error f => (bench, failed f)
  | .ok c =>
    let source := (bench.conversation? c).elim 0 (·.settings.source)
    let tester := (bench.conversation? c).elim "" (·.settings.name)
    match bench.call c (.connect target.server target.host) with
    | (bench, some (.connect .failed)) =>
      let notice := s!"Routing activation to {Hex.wordText target.server} failed\n"
      (bench, { exit := 1, stderr := notice ++ (⟨"Connect failed", []⟩ : Failure).text })
    | (bench, connected) =>
      let (bench, disconnected) := bench.call c .disconnect
      let notice :=
        if i.quiet || i.format ≠ .table then "" else s!"Routing activated to {Hex.wordText target.server}\n"
      (bench, { stdout := notice ++ printPairs i.format [
        ("tester", tester),
        ("source_address", Hex.wordText source),
        ("target_address", Hex.wordText target.server),
        ("connect", outcomeName connected),
        ("disconnect", outcomeName disconnected)] })

def payloadFailure : PayloadFault → Failure
  | .notHex digits fault => ⟨s!"Invalid hex payload: {digits}", [fault.message]⟩
  | .empty => ⟨"Payload is empty", []⟩

def runSend (bench : Bench) (i : Invocation) (target : Target) (payload : List String) : Bench × Outcome :=
  match readPayload payload with
  | .error fault => (bench, failed (payloadFailure fault))
  | .ok request =>
    match conversationOf bench target with
    | .error f => (bench, failed f)
    | .ok c =>
      match bench.call c (.connect target.server target.host) with
      | (bench, some (.connect .failed)) =>
        (bench, failed ⟨s!"Routing activation to {Hex.wordText target.server} failed", []⟩)
      | (bench, _) =>
        let (bench, answered) := bench.call c (.request request)
        let (bench, _) := bench.call c .disconnect
        match answered with
        | some (.request (.ok response)) =>
          (bench, { stdout := printPairs i.format [
            ("source_address", Hex.wordText response.source),
            ("target_address", Hex.wordText response.target),
            ("request", Hex.spaced request),
            ("response", Hex.spaced response.data)] })
        | some (.request (.error e)) => (bench, failed ⟨"Diagnostic request failed", [e.message]⟩)
        | _ => (bench, failed ⟨"Diagnostic request failed", []⟩)

def runCommand (bench : Bench) (i : Invocation) : Bench × Outcome :=
  match i.command with
  | .discover vin eid window => runDiscover bench i vin eid window
  | .connect target => runConnect bench i target
  | .send target payload => runSend bench i target payload

def startManager (config : Config) : Except Failure Manager :=
  match Manager.ofConfig config with
  | .error e => .error ⟨"Invalid client configuration", [e.message]⟩
  | .ok manager =>
    match manager.start with
    | .error e => .error ⟨"Failed to start diagnostic client", [e.message]⟩
    | .ok manager => .ok manager

/-- Runs the command line: what it prints, and the bench it leaves when it got as far as to have one. Arguments
that are not understood end it with exit code 2. -/
def run (read : String → Except String Bytes) (bench : Manager → Bench) (arguments : List String) :
    Outcome × Option Bench :=
  match readUsage arguments with
  | .error .fault => ({ exit := 2 }, none)
  | .error .help => ({}, none)
  | .ok i =>
    match (loadConfig read i.config).bind startManager with
    | .error f => (failed f, none)
    | .ok manager =>
      let (bench, outcome) := runCommand (bench manager) i
      (outcome, some bench.close)

end Doip.CommandLine
