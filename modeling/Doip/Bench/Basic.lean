import Doip.Entity.Session
import Doip.Manager

/-! A bench joins a manager and a scripted entity by a network. Processing and transport take no time: a round
carries everything that was sent and lets every call take a step, and time passes only when rounds bring
nothing new. -/

namespace Doip

/-- A TCP stream between a connection of a conversation and a session of the entity. -/
structure Wire where
  conversation : Nat
  connection : Nat
  session : Nat
  /-- How much of what the client wrote the entity has read. -/
  forwarded : Nat := 0
  /-- How much of what the entity wrote the client has read. -/
  delivered : Nat := 0
  /-- The entity knows that the client has closed its side. -/
  hungUp : Bool := false
  /-- The client knows that the entity has closed its side. -/
  ended : Bool := false
deriving DecidableEq

structure Bench where
  network : Network
  manager : Manager
  entity : Entity
  /-- Where the entity takes connections. -/
  tcp : Option Endpoint
  /-- Where the entity takes identification requests. -/
  udp : Option Endpoint
  wires : List Wire := []

def Call.dialling? : Call → Option (Nat × Endpoint)
  | .connect _ _ (.waiting endpoint conn .connect) => some (conn, endpoint)
  | _ => none

namespace Bench

def conversation? (b : Bench) (i : Nat) : Option Conversation := b.manager.conversations[i]?

def connection? (b : Bench) (i conn : Nat) : Option Connection :=
  (b.conversation? i).bind (·.connections[conn]?)

def apply (b : Bench) (i : Nat) (e : Conversation.Event) : Bench := { b with manager := b.manager.apply i e }

def applyAll (b : Bench) (events : Conversation → List Conversation.Event) : Bench :=
  (List.range b.manager.conversations.length).foldl
    (fun b i => ((b.conversation? i).elim [] events).foldl (·.apply i ·) b) b

def notice (b : Bench) : Bench :=
  b.applyAll fun c => (List.range c.connections.length).map .noticeClosed

def listener (b : Bench) (e : Endpoint) : Listener := if b.tcp = some e then .accepting else .refusing

def dial (b : Bench) (i conn : Nat) (endpoint : Endpoint) : Bench :=
  if (b.connection? i conn).map (·.dial) = some .pending then
    let dial := b.network.dial (b.listener endpoint)
    let b := b.apply i (.dialled conn dial)
    if dial = .established then
      let wire : Wire := { conversation := i, connection := conn, session := b.entity.sessions.length }
      { b with entity := b.entity.accept, wires := b.wires ++ [wire] }
    else b
  else b

def dialAll (b : Bench) : Bench :=
  (List.range b.manager.conversations.length).foldl
    (fun b i =>
      let attempts := (b.conversation? i).elim [] fun c => c.threads.filterMap (·.call.dialling?)
      attempts.foldl (fun b (conn, endpoint) => b.dial i conn endpoint) b) b

def carry (b : Bench) (k : Nat) : Bench :=
  match b.wires[k]? with
  | none => b
  | some wire =>
    match (b.connection? wire.conversation wire.connection).bind (·.stream? 0) with
    | none => b
    | some stream =>
      let outbound := stream.written.drop wire.forwarded
      let entity := if outbound.isEmpty then b.entity else b.entity.receive wire.session outbound
      let entity := if stream.shut && !wire.hungUp then entity.close wire.session else entity
      let session := (entity.sessions[wire.session]?).getD {}
      let inbound := session.written.drop wire.delivered
      let arrivals := (if inbound.isEmpty then [] else [Arrival.bytes inbound]) ++
        (if session.ended && !wire.ended then [Arrival.endOfStream] else [])
      let wire := { wire with
        forwarded := stream.written.length
        delivered := session.written.length
        hungUp := stream.shut
        ended := session.ended }
      arrivals.foldl (fun b a => b.apply wire.conversation (.arrive wire.connection a))
        { b with entity, wires := b.wires.set k wire }

def carryAll (b : Bench) : Bench := (List.range b.wires.length).foldl carry b

def advanceAll (b : Bench) : Bench :=
  b.applyAll fun c => (List.range c.threads.length).map .advance

def round (b : Bench) : Bench := b.notice.dialAll.carryAll.advanceAll

def calls (b : Bench) : List Call := b.manager.conversations.flatMap fun c => c.threads.map (·.call)

/-- More rounds than it takes until every call has returned or waits for time to pass: no call takes more
than sixteen steps, and at worst they go one after the other. -/
def settle (b : Bench) : Bench := Nat.repeat round (16 * (b.calls.countP Call.isOpen + 1)) b

def elapse (b : Bench) (ms : Nat) : Bench :=
  let b := b.applyAll fun _ => [.elapse ms]
  { b with entity := b.entity.elapse ms }

/-- The time until something happens by itself. -/
def next? (b : Bench) : Option Nat :=
  (b.manager.conversations.filterMap (·.timer.nextExpiry?) ++ b.entity.nextDue?.toList).min?

/-- Lets time pass until a condition holds or nothing happens by itself any more. -/
def awaitWithin : (fuel : Nat) → (Bench → Bool) → Bench → Bench
  | 0, _, b => b
  | fuel + 1, done, b =>
    if done b then b
    else match b.next? with
      | none => b
      | some ms => awaitWithin fuel done (b.elapse ms).settle

/-- A call waits twice at most and makes the entity wait once. -/
def patience (b : Bench) : Nat := 4 * (b.calls.length + 1)

def await (b : Bench) (done : Bench → Bool) : Bench := awaitWithin b.patience done b.settle

def passWithin : (fuel : Nat) → Nat → Bench → Bench
  | 0, _, b => b
  | fuel + 1, ms, b =>
    match b.next? with
    | some d => if d ≤ ms then passWithin fuel (ms - d) (b.elapse d).settle else (b.elapse ms).settle
    | none => (b.elapse ms).settle

def pass (b : Bench) (ms : Nat) : Bench := passWithin b.patience ms b.settle

def start (b : Bench) (i : Nat) (operation : Operation) : Bench × Nat :=
  let id := (b.conversation? i).elim 0 (·.threads.length)
  ((b.apply i (.call operation false)).settle, id)

def outcome? (b : Bench) (i id : Nat) : Option Outcome := (b.conversation? i).bind (·.outcome? id)

def finish (b : Bench) (i id : Nat) : Bench × Option Outcome :=
  let b := b.await fun b => (b.outcome? i id).isSome
  (b, b.outcome? i id)

def call (b : Bench) (i : Nat) (operation : Operation) : Bench × Option Outcome :=
  let (b, id) := b.start i operation
  b.finish i id

/-- A discovery. The entity's answers come at once, and the window closes after its time. -/
def discover (b : Bench) (filter : Filter) (window : Option Nat) : Bench × Except DiscoveryError (List Vehicle) :=
  match b.manager.identificationRequest b.network filter with
  | .error e => (b, .error e)
  | .ok frame =>
    let discovery := b.manager.config.discovery
    let (entity, answers) :=
      match b.udp with
      | some e => if e = ⟨discovery.broadcastAddress, discovery.port⟩
          then let (entity, frames) := b.entity.identify frame; (entity, frames.map (Datagram.mk · e.host))
          else (b.entity, [])
      | none => (b.entity, [])
    let manager := b.manager.learn answers
    ({ b with manager, entity }.pass (window.getD discovery.timeout.toNat), .ok manager.vehicles)

/-- The manager stops while calls may be under way. -/
def stop (b : Bench) : Bench := { b with manager := b.manager.stop }.settle

/-- The end of the client: everything it held is let go, and the entity's sessions run out. -/
def close (b : Bench) : Bench :=
  let b := b.stop
  let conversations := b.manager.conversations.map fun c =>
    { c with connections := c.connections.map Connection.abandon }
  { b with manager := { b.manager with conversations } }.await fun _ => false

end Bench
end Doip
