import Doip.Bench.Basic

/-! Scenarios on a bench: a list of steps on the manager and on the conversations of named testers, each with
its report. A tester is looked up when it is first named, and the conversation found then is kept. -/

namespace Doip.Bench

structure Scenario where
  bench : Bench
  /-- The conversations in use, by the name of their tester. -/
  handles : List (String × Nat) := []
  /-- The connects and the requests that were started in the background and are not joined yet, the last one
  first. -/
  connecting : List (Nat × Nat) := []
  requesting : List (Nat × Nat) := []

inductive Preselection
  | any
  | vin (text : String)
  | eid (text : String)

def Preselection.filter : Preselection → Except DiscoveryError Filter
  | any => .ok .any
  | vin text => .ok (.vin text)
  | eid text => Filter.ofEid text

inductive TesterStep
  | call (operation : Operation)
  /-- The call goes on in the background. -/
  | begin (operation : Operation)
  | look
  | describe

inductive Step
  | start
  | stop
  | names
  | lookup (name : String)
  | discover (preselection : Preselection) (window : Option Nat)
  | vehicles
  | sleep (ms : Nat)
  | tester (name : String) (step : TesterStep)
  | joinConnect
  | joinRequest

inductive Report
  | nothing
  | done
  | managerError (e : ManagerError)
  | discoveryError (e : DiscoveryError)
  | names (names : List String)
  | conversation (name : String) (source : Address) (running : Bool)
  | vehicles (vehicles : List Vehicle)
  | outcome (outcome : Outcome)
  /-- The outcome of a call that went on in the background. -/
  | joined (outcome : Outcome)
  | text (text : String)

structure View where
  state : ConnectionState
  server : Option Address
  running : Bool

inductive Entry
  | step (report : Report) (managerRunning : Bool) (view : Option View)
  /-- The tester could not be looked up. -/
  | unknownTester (e : ManagerError)

namespace Scenario

def view? (s : Scenario) (i : Nat) : Option View :=
  (s.bench.conversation? i).map fun c => ⟨c.state, c.serverAddress, c.running⟩

def entryWith (s : Scenario) (report : Report) (view : Option View) : Scenario × Entry :=
  (s, .step report s.bench.manager.isRunning view)

def entry (s : Scenario) (report : Report) : Scenario × Entry := s.entryWith report none

def handle (s : Scenario) (name : String) : Except ManagerError (Scenario × Nat) :=
  match s.handles.lookup name with
  | some i => .ok (s, i)
  | none => (s.bench.manager.conversation name).map fun i => ({ s with handles := (name, i) :: s.handles }, i)

/-- A call in the background is kept for its join. -/
def remember (s : Scenario) (operation : Operation) (call : Nat × Nat) : Scenario :=
  match operation with
  | .connect _ _ => { s with connecting := call :: s.connecting }
  | .request _ => { s with requesting := call :: s.requesting }
  | _ => s

def testerStep (s : Scenario) (i : Nat) : TesterStep → Scenario × Entry
  | .call operation =>
    let (bench, outcome) := s.bench.call i operation
    let s := { s with bench }
    s.entryWith (outcome.elim .nothing .outcome) (s.view? i)
  | .begin operation =>
    let (bench, id) := s.bench.start i operation
    ({ s with bench }.remember operation (i, id)).entry .nothing
  | .look => s.entryWith .nothing (s.view? i)
  | .describe => s.entryWith (((s.bench.conversation? i).map (·.describe)).elim .nothing .text) (s.view? i)

def join (s : Scenario) : Option (Nat × Nat) → Scenario × Entry
  | none => s.entry .nothing
  | some (i, id) =>
    let (bench, outcome) := s.bench.finish i id
    { s with bench }.entry (outcome.elim .nothing .joined)

def step (s : Scenario) : Step → Scenario × Entry
  | .start =>
    match s.bench.manager.start with
    | .ok manager => { s with bench := { s.bench with manager } }.entry .done
    | .error e => s.entry (.managerError e)
  | .stop => { s with bench := s.bench.stop }.entry .nothing
  | .names => s.entry (.names s.bench.manager.names)
  | .lookup name =>
    match s.bench.manager.conversation name with
    | .error e => s.entry (.managerError e)
    | .ok i =>
      s.entry <| ((s.bench.conversation? i).map fun c =>
        Report.conversation c.settings.name c.settings.source c.running).getD .nothing
  | .discover preselection window =>
    match preselection.filter with
    | .error e => s.entry (.discoveryError e)
    | .ok filter =>
      match s.bench.discover filter window with
      | (bench, .ok vehicles) => { s with bench }.entry (.vehicles vehicles)
      | (bench, .error e) => { s with bench }.entry (.discoveryError e)
  | .vehicles => s.entry (.vehicles s.bench.manager.vehicles)
  | .sleep ms => { s with bench := s.bench.pass ms }.entry .nothing
  | .tester name step =>
    match s.handle name with
    | .error e => (s, .unknownTester e)
    | .ok (s, i) => s.testerStep i step
  | .joinConnect => { s with connecting := s.connecting.tail }.join s.connecting.head?
  | .joinRequest => { s with requesting := s.requesting.tail }.join s.requesting.head?

def runSteps : Scenario → List Step → Bench × List Entry
  | s, [] => (s.bench, [])
  | s, step :: steps =>
    let (s, entry) := s.step step
    let (bench, entries) := runSteps s steps
    (bench, entry :: entries)

end Scenario

/-! Scenarios on a bench of their own. -/

/-- How the servers of a scenario are reached: the entity under further addresses, or a port that refuses. -/
structure Alias where
  address : Address
  refusing : Bool := false

/-- Where the entity of a scenario listens, and a port where nobody does. -/
def entityTcp : Endpoint := ⟨.localhost, 49152⟩

def entityUdp : Endpoint := ⟨.localhost, 49153⟩

def refusingPort : UInt16 := 1

/-- Adds a mapping behind those of other addresses. -/
def mapServer (servers : List ServerMapping) (a : Alias) : List ServerMapping :=
  servers.filter (·.logicalAddress ≠ a.address) ++
    [⟨a.address, entityTcp.host, if a.refusing then refusingPort else entityTcp.port⟩]

/-- Settings under which the testers reach the entity. -/
def config (version : UInt8) (testers : List ConversationSettings) (aliases : List Alias) : Config where
  version
  discovery := {
    localAddress := .localhost
    broadcastAddress := entityUdp.host
    port := entityUdp.port
    timeout := 300 }
  conversations := testers
  servers := aliases.foldl mapServer []

/-- A bench with the entity of a script, under settings that can be used. -/
def ofScript (network : Network) (script : Script) (config : Config) : Except ConfigError Bench := do
  let manager ← Manager.ofConfig config
  return { network, manager, entity := { script }, tcp := some entityTcp, udp := some entityUdp }

end Doip.Bench
