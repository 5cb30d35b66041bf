import Doip.Config.Load
import Doip.Conversation.Step
import Doip.Discovery

/-! The manager owns the worker, one conversation for each configured tester and the list of known vehicles.
It is started once and stopped once; what it handed out before stays usable but reaches the network no
more. -/

namespace Doip

inductive ManagerError
  | notInitialized
  | alreadyInitialized
  | shutDown
  | runtime (cause : String)
  | config (e : ConfigError)
deriving DecidableEq, Repr

def ManagerError.message : ManagerError → String
  | notInitialized => "Manager is not initialized"
  | alreadyInitialized => "Manager is already initialized"
  | shutDown => "Manager has been shut down"
  | runtime cause => s!"Failed to start execution context: {cause}"
  | config e => e.message

inductive Lifecycle
  | created
  | running
  | shutDown
deriving DecidableEq, Repr

structure Manager where
  config : Config
  lifecycle : Lifecycle := .created
  worker : Worker := {}
  /-- One conversation for each configured tester, in their order. They outlive the shutdown. -/
  conversations : List Conversation := []
  /-- What the last successful discovery found. -/
  vehicles : List Vehicle := []

namespace Manager

def ofConfig (config : Config) : Except ConfigError Manager := do
  config.validate
  return { config }

def isRunning (m : Manager) : Bool := m.lifecycle = .running

/-- Datagrams are read with the default limit, whatever that of the conversations is. -/
def codec (m : Manager) : Codec := { version := m.config.version }

def start (m : Manager) : Except ManagerError Manager :=
  match m.lifecycle with
  | .running => .error .alreadyInitialized
  | .shutDown => .error .shutDown
  | .created => .ok { m with
      lifecycle := .running
      conversations := m.config.conversations.map fun settings =>
        { settings, version := m.config.version, servers := m.config.servers, running := true } }

def stop (m : Manager) : Manager :=
  match m.lifecycle with
  | .running =>
    let worker := m.worker.stop
    { m with
      lifecycle := .shutDown
      worker
      conversations := m.conversations.map fun c =>
        ((c.shutdown m.worker).apply worker .shutDown).apply worker .dropTasks }
  | _ => { m with lifecycle := .shutDown }

/-- The numbers of conversations, each under a name of its own. -/
abbrev Table := List (String × Nat)

/-- An entry replaces the one that had its name before. -/
def Table.insert (table : Table) (entry : String × Nat) : Table := entry :: table.filter (·.1 ≠ entry.1)

def table (m : Manager) : Table :=
  (m.conversations.mapIdx fun i c => (c.settings.name, i)).foldl Table.insert []

def conversation (m : Manager) (name : String) : Except ManagerError Nat :=
  match m.lifecycle with
  | .created => .error .notInitialized
  | .shutDown => .error .shutDown
  | .running =>
    match m.table.lookup name with
    | some i => .ok i
    | none => .error (.config (.conversationNotFound name))

def names (m : Manager) : List String := m.config.conversations.map (·.name)

def apply (m : Manager) (i : Nat) (e : Conversation.Event) : Manager :=
  { m with conversations := m.conversations.modify i (·.apply m.worker e) }

def identificationRequest (m : Manager) (network : Network) (filter : Filter) : Except DiscoveryError Bytes :=
  if m.isRunning then Discovery.send network m.codec filter else .error .cancelled

/-- Takes note of the vehicles that have announced themselves. -/
def learn (m : Manager) (datagrams : List Datagram) : Manager :=
  { m with vehicles := Discovery.collect m.codec datagrams }

/-- A discovery: asks, and lists what announces itself in answer to the frame. -/
def discover (m : Manager) (network : Network) (filter : Filter) (answers : Bytes → List Datagram) :
    Manager × Except DiscoveryError (List Vehicle) :=
  match m.identificationRequest network filter with
  | .error e => (m, .error e)
  | .ok frame =>
    let m := m.learn (answers frame)
    (m, .ok m.vehicles)

end Manager
end Doip
