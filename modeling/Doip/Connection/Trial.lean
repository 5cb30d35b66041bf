import Doip.Connection.Basic

/-! Trials of one connection against a peer that sends and closes on command. Time is virtual: it passes only
while an operation waits, and what the peer sends is handled before the operation looks again. -/

namespace Doip.Connection

def disturbanceDelay : Nat := 10

structure Trial where
  network : Network
  connection : Connection
  timer : Timer := {}
  shutDown : Bool := false
  /-- The stream whose far end the peer holds, and how much of what was written to it the peer has seen. -/
  peer : Option Nat := none
  seen : Nat := 0

inductive Operation
  | connect (listener : Listener)
  | activate
  | send (data : Bytes)
  | waitForAcknowledgement (ms : Nat)
  | receive (ms : Nat)
  /-- Drops what waits in the queue. -/
  | discard
  | disconnect

inductive Event
  | stopTimer
  | close
  | shutdown
  | peerSend (data : Bytes)
  | peerClose
  | peerReset

inductive Step
  | run (operation : Operation) (during : Option Event)
  | event (event : Event)
  | peerReceive
  | settle

inductive Report
  | nothing
  | done
  | connectError (e : ConnectError)
  | activationError (e : ActivationError)
  | sendError (e : SendError)
  | receiveError (e : ReceiveError)
  | acknowledged (outcome : AckOutcome)
  | received (data : Bytes)
  | dropped (n : Nat)
  | seen (data : Bytes) (eof : Bool)

def Report.ofSettled : Settled → Report
  | .connect (.ok ()) => done
  | .connect (.error e) => connectError e
  | .activation (.ok ()) => done
  | .activation (.error e) => activationError e
  | .acknowledgement (.ok outcome) => acknowledged outcome
  | .acknowledgement (.error e) => receiveError e
  | .response (.ok data) => received data
  | .response (.error e) => receiveError e

def arriveAt (c : Connection) (i : Nat) (a : Arrival) : Connection :=
  if i = c.former.length then c.arrive a else c.arriveFormer i a

namespace Trial

def fromPeer (t : Trial) (a : Arrival) : Trial :=
  match t.peer with
  | none => t
  | some i => { t with connection := t.connection.arriveAt i a }

def happen (t : Trial) : Event → Trial
  | .stopTimer => { t with timer := t.timer.stop }
  | .close => { t with connection := t.connection.close.noticeClosed }
  | .shutdown => { t with shutDown := true, connection := t.connection.close.noticeClosed }
  | .peerSend data => t.fromPeer (.bytes data)
  | .peerClose => t.fromPeer .endOfStream
  | .peerReset => t.fromPeer .failure

/-- The peer accepts the newest stream and drops the one it held before. -/
def accept (t : Trial) : Trial :=
  { t.fromPeer .endOfStream with peer := some t.connection.former.length, seen := 0 }

/-- Begins an operation: its result if it has one at once, or how it waits and for how long. -/
def begin (t : Trial) : Operation → Trial × (Report ⊕ Waiting × Nat)
  | .connect listener =>
    let c := { t.connection.beginConnect with dial := t.network.dial listener }
    ({ t with connection := c }, .inr (.connect, c.settings.connectTimeout))
  | .activate =>
    match t.connection.beginActivation.writeActivation with
    | .error c => ({ t with connection := c }, .inl (.activationError .connectionLost))
    | .ok c => ({ t with connection := c }, .inr (.activation, c.settings.activationTimeout))
  | .send data =>
    let (c, result) := t.connection.send data
    ({ t with connection := c }, .inl (match result with | .ok () => .done | .error e => .sendError e))
  | .waitForAcknowledgement ms => (t, .inr (.acknowledgement [], ms))
  | .receive ms =>
    match t.connection.beginResponse with
    | (c, some (.ok data)) => ({ t with connection := c }, .inl (.received data))
    | (c, some (.error e)) => ({ t with connection := c }, .inl (.receiveError e))
    | (c, none) => ({ t with connection := c }, .inr (.response, ms))
  | .discard =>
    let (c, n) := t.connection.discardPending
    ({ t with connection := c }, .inl (.dropped n))
  | .disconnect => ({ t with connection := t.connection.disconnect }, .inl .done)

def elapse (t : Trial) (ms : Nat) : Trial := { t with timer := t.timer.elapse ms }

/-- Polls an operation until it has a result, while something happens after the given time. It happens also
when the operation has ended before. -/
def drive : (fuel : Nat) → Waiting → Option (Nat × Event) → Trial → Trial × Report
  | 0, _, _, t => (t, .nothing)
  | fuel + 1, waiting, later, t =>
    match t.timer.wait? 0 with
    | none => (t, .nothing)
    | some w =>
      match t.connection.resume "" w t.shutDown waiting with
      | (c, .inr settled) =>
        let t := { t with connection := c, timer := t.timer.finish 0 }
        let t := match settled with
          | .connect (.ok ()) => t.accept
          | _ => t
        (later.elim t fun (_, e) => t.happen e, .ofSettled settled)
      | (c, .inl waiting) =>
        let t := { t with connection := c }
        match later with
        | some (ms, e) =>
          if w.remaining < ms then drive fuel waiting (some (ms - w.remaining, e)) (t.elapse w.remaining)
          else drive fuel waiting none ((t.elapse ms).happen e)
        | none => drive fuel waiting none (t.elapse w.remaining)

def run (t : Trial) (operation : Operation) (during : Option Event) : Trial × Report :=
  match t.begin operation with
  | (t, .inl report) => (during.elim t t.happen, report)
  | (t, .inr (waiting, timeout)) =>
    drive 8 waiting (during.map (disturbanceDelay, ·)) { t with timer := t.timer.arm 0 timeout }

def step (t : Trial) : Step → Trial × Report
  | .run operation during => t.run operation during
  | .event e => (t.happen e, .nothing)
  | .settle => (t, .nothing)
  | .peerReceive =>
    match t.peer.bind t.connection.stream? with
    | none => (t, .seen [] false)
    | some s => ({ t with seen := s.written.length }, .seen (s.written.drop t.seen) s.shut)

def runSteps : Trial → List Step → List (Report × ConnectionState)
  | _, [] => []
  | t, s :: ss =>
    let (t, report) := t.step s
    (report, t.connection.state) :: runSteps t ss

end Trial
end Doip.Connection
