import Doip.Connection.Basic
import Doip.Conversation.Error

/-! A conversation between one tester and one server, and the calls under way on it. The slot holds the
connection and is taken by one call at a time; the link reaches the same connection without taking the slot.
Calls come from any number of threads, and each stands at a point between two of its atomic steps. -/

namespace Doip

inductive ConnectResult
  | success
  | failed
  | alreadyConnected
deriving DecidableEq, Repr

def ConnectResult.name : ConnectResult → String
  | success => "Success"
  | failed => "Failed"
  | alreadyConnected => "AlreadyConnected"

inductive DisconnectResult
  | success
  /-- There was no connection to close. -/
  | failed
deriving DecidableEq, Repr

def DisconnectResult.name : DisconnectResult → String
  | success => "Success"
  | failed => "Failed"

structure Response where
  source : Address
  target : Address
  data : Bytes
deriving DecidableEq

inductive Outcome
  | connect (result : ConnectResult)
  | disconnect (result : DisconnectResult)
  | request (result : Except RequestError Response)
  | done

inductive Operation
  | connect (target : Address) (host : Option IpAddress)
  | disconnect
  | request (data : Bytes)
  | startup
  | shutdown

/-- Where a connect stands. From `queued` on it runs on the worker; it holds the slot from `replacing` on. -/
inductive ConnectPoint
  | entered
  | checked
  | submitting (endpoint : Endpoint)
  | queued (endpoint : Endpoint)
  /-- The connection it replaces says goodbye. -/
  | replacing (endpoint : Endpoint) (stale : Nat)
  | waiting (endpoint : Endpoint) (connection : Nat) (waiting : Waiting)
  /-- The activation request is about to be written. -/
  | writing (endpoint : Endpoint) (connection : Nat)
  /-- The connection that could not be set up says goodbye. -/
  | failing (connection : Nat)
  /-- The worker did not take the call, or dropped it. -/
  | refused
deriving DecidableEq

/-- Where a disconnect stands. From `queued` on it runs on the worker. -/
inductive DisconnectPoint
  | entered
  | stopping
  | submitting
  | queued
  | closing (connection : Nat)
deriving DecidableEq

/-- Where a request stands. From `queued` on it runs on the worker; it holds the slot from `writing` on. -/
inductive RequestPoint
  | entered
  | submitting
  | queued
  | writing (connection : Nat) (frame : Bytes)
  | waiting (connection : Nat) (waiting : Waiting)
  /-- The connection that a shutdown left behind says goodbye. -/
  | closing (connection : Nat) (result : Except RequestError Response)

inductive ShutdownPoint
  | entered
  | cancelling
  | stopping
  | releasing
deriving DecidableEq

inductive Call
  | connect (target : Address) (host : Option IpAddress) (point : ConnectPoint)
  | disconnect (point : DisconnectPoint)
  | request (data : Bytes) (point : RequestPoint)
  | shutdown (point : ShutdownPoint)
  | startup
  | returned (outcome : Outcome)

def Call.of : Operation → Call
  | .connect target host => connect target host .entered
  | .disconnect => disconnect .entered
  | .request data => request data .entered
  | .startup => startup
  | .shutdown => shutdown .entered

def Call.isOpen : Call → Bool
  | .returned _ => false
  | _ => true

theorem Call.isOpen_eq_false_iff {call : Call} : call.isOpen = false ↔ ∃ outcome, call = returned outcome := by
  cases call <;> simp [isOpen]

structure Thread where
  call : Call
  inside : Bool := false

/-- Reaches a connection without taking the slot. -/
structure Link where
  connection : Nat
  server : Address
deriving DecidableEq

structure Conversation where
  settings : ConversationSettings
  version : UInt8
  servers : List ServerMapping
  running : Bool := false
  link : Option Link := none
  /-- The number of the connection in use. -/
  slot : Option Nat := none
  /-- The call that has taken the slot. -/
  holder : Option Nat := none
  /-- The calls that wait for the slot, first come first served. -/
  line : List Nat := []
  timer : Timer := {}
  /-- Every connection ever made, by number. -/
  connections : List Connection := []
  /-- Every call ever made, by number. -/
  threads : List Thread := []

namespace Conversation

/-- The connection state as the link shows it. -/
def state (c : Conversation) : ConnectionState :=
  match c.link.bind fun l => c.connections[l.connection]? with
  | none => .disconnected
  | some conn => conn.state

def serverAddress (c : Conversation) : Option Address := c.link.map (·.server)

/-- A host given with the call goes before the mapped one, and a mapped port before the configured one. -/
def resolve (c : Conversation) (target : Address) (host : Option IpAddress) : Option Endpoint :=
  match host, c.servers.find? (·.logicalAddress = target) with
  | some ip, some s => some ⟨ip, s.port⟩
  | some ip, none => some ⟨ip, c.settings.tcpPort⟩
  | none, some s => some ⟨s.host, s.port⟩
  | none, none => none

def describe (c : Conversation) : String :=
  "Conversation \x7b name: " ++ Quoted.text c.settings.name ++
    s!", source_address: {c.settings.source.toNat}, state: {c.state.name} \x7d"

def modifyConnection (c : Conversation) (i : Nat) (f : Connection → Connection) : Conversation :=
  { c with connections := c.connections.modify i f }

def tryLock (c : Conversation) (id : Nat) : Option Conversation :=
  if c.holder.isNone then some { c with holder := some id } else none

def unlock (c : Conversation) : Conversation :=
  { c with holder := c.line.head?, line := c.line.tail }

end Conversation
end Doip
