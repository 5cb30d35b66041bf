import Doip.Connection.Error
import Doip.Connection.Stream
import Doip.Config.Basic
import Doip.Network
import Doip.Timer.Basic

/-! A connection to one diagnostic server. Its state is written by the caller's operations and by the receivers
of its streams, which record a loss unless the connection was closed before. An operation that has to
wait is begun, polled until it gives a result, and leaves a `Waiting` between polls. -/

namespace Doip

inductive ConnectionState
  | disconnected
  | connecting
  | activating
  | activated
  | faulted
deriving DecidableEq, Repr

def ConnectionState.name : ConnectionState → String
  | disconnected => "Disconnected"
  | connecting => "Connecting"
  | activating => "Activating"
  | activated => "Activated"
  | faulted => "Faulted"

structure ConnectionSettings where
  client : Address
  activationType : ActivationType
  connectTimeout : Nat
  activationTimeout : Nat
  codec : Codec
deriving DecidableEq

def ConnectionSettings.of (c : ConversationSettings) (version : UInt8) : ConnectionSettings where
  client := c.source
  activationType := .ofRaw c.activationType
  connectTimeout := c.connectTimeout.toNat
  activationTimeout := c.activationTimeout.toNat
  codec := { version, limit := c.limit }

inductive AckOutcome
  | positive
  | negative (code : UInt8)
deriving DecidableEq, Repr

structure Connection where
  settings : ConnectionSettings
  server : Address
  state : ConnectionState := .disconnected
  /-- The connection was torn down; a loss after that is not recorded. -/
  closed : Bool := false
  dial : Dial := .pending
  /-- The stream that is written to and read from. -/
  stream : Option Stream := none
  /-- Streams of earlier sessions, oldest first; their receivers may still run. -/
  former : List Stream := []
  /-- Responses that came before their acknowledgement. -/
  early : List Bytes := []
deriving DecidableEq

inductive Waiting
  | connect
  | activation
  | acknowledgement (aside : List Bytes)
  | response
deriving DecidableEq, Repr

inductive Settled
  | connect (result : Except ConnectError Unit)
  | activation (result : Except ActivationError Unit)
  | acknowledgement (result : Except ReceiveError AckOutcome)
  | response (result : Except ReceiveError Bytes)

namespace Connection

/-- The streams of a connection by number, in the order they were opened. -/
def stream? (c : Connection) (i : Nat) : Option Stream :=
  if i = c.former.length then c.stream else c.former[i]?

/-! The receivers' side. -/

def arrive (c : Connection) (a : Arrival) : Connection :=
  match c.stream with
  | none => c
  | some s =>
    let (s, lost) := s.arrive c.settings.codec c.settings.client a
    { c with stream := some s, state := if lost && !c.closed then .faulted else c.state }

def arriveFormer (c : Connection) (i : Nat) (a : Arrival) : Connection :=
  match c.former[i]? with
  | none => c
  | some s =>
    let (s, lost) := s.arrive c.settings.codec c.settings.client a
    { c with former := c.former.set i s, state := if lost && !c.closed then .faulted else c.state }

def noticeClosed (c : Connection) : Connection :=
  if c.closed then
    { c with
      stream := c.stream.map fun s => { s with receiving := false }
      former := c.former.map fun s => { s with receiving := false } }
  else c

/-! The caller's side. -/

def close (c : Connection) : Connection := { c with closed := true }

/-- Sends a frame on the current stream; `none` when there is none or it is broken. -/
def write? (c : Connection) (frame : Bytes) : Option Connection :=
  match c.stream with
  | none => none
  | some s => if s.broken then none else some { c with stream := some (s.write frame) }

def beginConnect (c : Connection) : Connection := { c with state := .connecting, dial := .pending }

/-- A new stream takes the place of the current one, whose queue nobody attends any more. -/
def adopt (c : Connection) : Connection :=
  { c with
    stream := some {}
    former := c.former ++ (c.stream.map fun s => { s with attended := false, queue := [] }).toList }

def finishConnect (c : Connection) (endpoint : String) : Except TimerOutcome (Except String Unit) →
    Connection × Except ConnectError Unit
  | .ok (.ok ()) => (c.adopt, .ok ())
  | .ok (.error cause) => ({ c with state := .disconnected }, .error (.io cause))
  | .error .timedOut => ({ c with state := .disconnected }, .error (.timeout endpoint))
  | .error .cancelled => ({ c with state := .disconnected }, .error .cancelled)

def dialled? (c : Connection) : Option (Except String Unit) :=
  match c.dial with
  | .pending => none
  | .established => some (.ok ())
  | .failed cause => some (.error cause)

def activationRequest (c : Connection) : Bytes :=
  c.settings.codec.encodePayload
    (.activationRequest { source := c.settings.client, type := c.settings.activationType })

def beginActivation (c : Connection) : Connection := { c with state := .activating }

def writeActivation (c : Connection) : Except Connection Connection :=
  match c.write? c.activationRequest with
  | some c => .ok c
  | none => .error { c with state := .faulted }

def finishActivation (c : Connection) : Except ReceiveError ActivationResponse →
    Connection × Except ActivationError Unit
  | .ok response =>
    if response.code = .routingSuccessful then ({ c with state := .activated }, .ok ())
    else ({ c with state := .faulted }, .error (.rejected response.code))
  | .error e => ({ c with state := .faulted }, .error (.ofReceive e))

/-- The frame of a request, if routing is activated and it fits the limit. -/
def requestFrame (c : Connection) (data : Bytes) : Except SendError Bytes :=
  if c.state ≠ .activated then .error .notActivated
  else match c.settings.codec.encodePayloadWithin (.diagnosticMessage ⟨c.settings.client, c.server, data⟩) with
    | .ok frame => .ok frame
    | .error (.payloadTooLarge length limit) => .error (.payloadTooLarge length limit)
    | .error _ => .error (.payloadTooLarge data.length c.settings.codec.limit.toNat)

def writeRequest (c : Connection) (frame : Bytes) : Connection × Except SendError Unit :=
  match c.write? frame with
  | some c => (c, .ok ())
  | none => ({ c with state := .faulted }, .error .connectionLost)

def send (c : Connection) (data : Bytes) : Connection × Except SendError Unit :=
  match c.requestFrame data with
  | .error e => (c, .error e)
  | .ok frame => c.writeRequest frame

def discardPending (c : Connection) : Connection × Nat :=
  let queued := (c.stream.map (·.queue.length)).getD 0
  ({ c with early := [], stream := c.stream.map fun s => { s with queue := [] } }, c.early.length + queued)

/-- A response for this pair of addresses; any other frame is dropped. -/
def selectActivation (c : Connection) (m : Message) : Stream.Selection ActivationResponse :=
  match Payload.parse m with
  | .ok (.activationResponse r) =>
    if r.client = c.settings.client ∧ r.server = c.server then .accept r else .drop
  | _ => .drop

/-- An acknowledgement from the server to this client; a response that comes before it is set aside. -/
def selectAcknowledgement (c : Connection) (m : Message) : Stream.Selection AckOutcome :=
  match Payload.parse m with
  | .ok (.diagnosticMessageAck a) =>
    if a.source = c.server ∧ a.target = c.settings.client then .accept .positive else .drop
  | .ok (.diagnosticMessageNack a) =>
    if a.source = c.server ∧ a.target = c.settings.client then .accept (.negative a.code) else .drop
  | .ok (.diagnosticMessage d) =>
    if d.source = c.server ∧ d.target = c.settings.client then .setAside d.data else .drop
  | _ => .drop

def selectResponse (c : Connection) (m : Message) : Stream.Selection Bytes :=
  match Payload.parse m with
  | .ok (.diagnosticMessage d) =>
    if d.source = c.server ∧ d.target = c.settings.client then .accept d.data else .drop
  | _ => .drop

/-- Looks at the queue once: what a wait for a frame ends with, if it ends, and what was set aside. A wait
without a receiver ends when the queue is empty. -/
def poll {α : Type} (c : Connection) (w : Wait) (shutDown : Bool) (select : Message → Stream.Selection α) :
    Connection × List Bytes × Option (Except ReceiveError α) :=
  match c.stream with
  | none => (c, [], some (.error .connectionLost))
  | some s =>
    if shutDown || w.stopped then (c, [], some (.error .cancelled))
    else
      let (found, aside, rest) := Stream.search select s.queue
      let c := { c with stream := some { s with queue := rest } }
      match found with
      | some a => (c, aside, some (.ok a))
      | none =>
        if !s.receiving then (c, aside, some (.error .connectionLost))
        else if w.expired then (c, aside, some (.error .timeout))
        else (c, aside, none)

def faultOnLoss {α : Type} (c : Connection) : Except ReceiveError α → Connection
  | .error .connectionLost => { c with state := .faulted }
  | _ => c

/-- What a request for a response comes to without waiting, if it does: a response set aside before, or the
loss of the connection when routing is not activated. -/
def beginResponse (c : Connection) : Connection × Option (Except ReceiveError Bytes) :=
  match c.early with
  | data :: rest => ({ c with early := rest }, some (.ok data))
  | [] => if c.state ≠ .activated then (c, some (.error .connectionLost)) else (c, none)

def resume (c : Connection) (endpoint : String) (w : Wait) (shutDown : Bool) :
    Waiting → Connection × (Waiting ⊕ Settled)
  | .connect =>
    match w.poll shutDown c.dialled? with
    | none => (c, .inl .connect)
    | some result =>
      let (c, result) := c.finishConnect endpoint result
      (c, .inr (.connect result))
  | .activation =>
    match c.poll w shutDown c.selectActivation with
    | (c, _, none) => (c, .inl .activation)
    | (c, _, some result) =>
      let (c, result) := c.finishActivation result
      (c, .inr (.activation result))
  | .acknowledgement before =>
    match c.poll w shutDown c.selectAcknowledgement with
    | (c, aside, none) => (c, .inl (.acknowledgement (before ++ aside)))
    | (c, aside, some result) =>
      let c := { c with early := c.early ++ before ++ aside }
      (c.faultOnLoss result, .inr (.acknowledgement result))
  | .response =>
    match c.poll w shutDown c.selectResponse with
    | (c, _, none) => (c, .inl .response)
    | (c, _, some result) => (c.faultOnLoss result, .inr (.response result))

/-- Closes the connection as far as the socket's sending side, which takes a moment. -/
def beginDisconnect (c : Connection) : Connection := c.close

def finishDisconnect (c : Connection) : Connection :=
  { c with
    stream := none
    former := c.former ++ (c.stream.map Stream.release).toList
    early := []
    state := .disconnected }

def disconnect (c : Connection) : Connection := c.beginDisconnect.finishDisconnect

/-- The connection after its owner has dropped it without a farewell; its state is kept. -/
def abandon (c : Connection) : Connection :=
  { c with
    closed := true
    stream := none
    former := c.former ++ (c.stream.map Stream.release).toList }

end Connection
end Doip
