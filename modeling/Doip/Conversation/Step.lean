import Doip.Conversation.Basic

/-! The atomic steps of the calls on a conversation: a section under one of its locks, a submission to the
worker, or a stretch of a submitted task between two places where it can be suspended. A call that cannot go
on stays where it is. -/

namespace Doip.Conversation

def endpointText (e : Endpoint) : String :=
  if e.host.isV4 then s!"{e.host.text}:{e.port.toNat}" else s!"[{e.host.text}]:{e.port.toNat}"

/-- Lets a waiting call look at its connection, and ends its wait when it is over. -/
def resumeWait (c : Conversation) (w : Worker) (id : Nat) (endpoint : String) (conn : Nat) (waiting : Waiting) :
    Conversation × (Waiting ⊕ Settled) :=
  match c.timer.wait? id, c.connections[conn]? with
  | some wait, some connection =>
    match connection.resume endpoint wait w.cancelled waiting with
    | (connection, .inl waiting) => (c.modifyConnection conn fun _ => connection, .inl waiting)
    | (connection, .inr settled) =>
      ({ c.modifyConnection conn fun _ => connection with timer := c.timer.finish id }, .inr settled)
  | _, _ => (c, .inl waiting)

def beginWait (c : Conversation) (w : Worker) (id : Nat) (endpoint : String) (conn timeout : Nat)
    (waiting : Waiting) : Conversation × (Waiting ⊕ Settled) :=
  resumeWait { c with timer := c.timer.arm id timeout } w id endpoint conn waiting

def finishCall (c : Conversation) (outcome : Outcome) : Conversation × Call := (c, .returned outcome)

/-! Connecting. -/

section Connect

variable (w : Worker) (id : Nat) (target : Address) (host : Option IpAddress)

def failConnect (c : Conversation) (conn : Nat) : Conversation × Call :=
  (c.modifyConnection conn Connection.beginDisconnect, .connect target host (.failing conn))

def afterConnectWait (endpoint : Endpoint) (conn : Nat) :
    Conversation × (Waiting ⊕ Settled) → Conversation × Call
  | (c, .inl waiting) => (c, .connect target host (.waiting endpoint conn waiting))
  | (c, .inr (.connect (.ok ()))) =>
    (c.modifyConnection conn Connection.beginActivation, .connect target host (.writing endpoint conn))
  | (c, .inr (.activation (.ok ()))) => finishCall { c with slot := some conn }.unlock (.connect .success)
  | (c, .inr _) => failConnect target host c conn

def startConnect (c : Conversation) (endpoint : Endpoint) : Conversation × Call :=
  let settings := ConnectionSettings.of c.settings c.version
  let conn := c.connections.length
  let connection : Connection := { settings, server := target, closed := w.cancelled }
  let c := { c with
    connections := c.connections ++ [connection.beginConnect]
    link := some ⟨conn, target⟩ }
  afterConnectWait target host endpoint conn
    (c.beginWait w id (endpointText endpoint) conn settings.connectTimeout .connect)

def stepConnect (inside : Bool) (c : Conversation) : ConnectPoint → Conversation × Call
  | .entered => if c.running then (c, .connect target host .checked) else finishCall c (.connect .failed)
  | .checked =>
    if c.state = .activated then finishCall c (.connect .alreadyConnected)
    else match c.resolve target host with
      | none => finishCall c (.connect .failed)
      | some endpoint => (c, .connect target host (.submitting endpoint))
  | .submitting endpoint =>
    match w.submit inside with
    | .ok () => (c, .connect target host (.queued endpoint))
    | .error _ => (c, .connect target host .refused)
  | .queued endpoint =>
    match c.tryLock id with
    | none => finishCall c (.connect .failed)
    | some c =>
      match c.slot with
      | none => startConnect w id target host c endpoint
      | some conn =>
        if (c.connections[conn]?.map (·.state)) = some .activated then
          finishCall c.unlock (.connect .alreadyConnected)
        else
          ({ c with slot := none }.modifyConnection conn Connection.beginDisconnect,
            .connect target host (.replacing endpoint conn))
  | .replacing endpoint stale =>
    startConnect w id target host (c.modifyConnection stale Connection.finishDisconnect) endpoint
  | .waiting endpoint conn waiting =>
    afterConnectWait target host endpoint conn (c.resumeWait w id (endpointText endpoint) conn waiting)
  | .writing endpoint conn =>
    match c.connections[conn]? with
    | none => (c, .connect target host (.writing endpoint conn))
    | some connection =>
      match connection.writeActivation with
      | .error connection => failConnect target host (c.modifyConnection conn fun _ => connection) conn
      | .ok connection =>
        afterConnectWait target host endpoint conn
          ((c.modifyConnection conn fun _ => connection).beginWait w id (endpointText endpoint) conn
            connection.settings.activationTimeout .activation)
  | .failing conn =>
    finishCall { c.modifyConnection conn Connection.finishDisconnect with link := none }.unlock (.connect .failed)
  | .refused => finishCall { c with link := none } (.connect .failed)

end Connect

/-! Disconnecting. -/

/-- Takes the link away and cancels what it reaches; nothing happens without one. -/
def cutLink (c : Conversation) : Option Conversation :=
  c.link.map fun l => { c with link := none }.modifyConnection l.connection Connection.close

def closeSlot (c : Conversation) : Conversation × Call :=
  match c.slot with
  | none => finishCall c.unlock (.disconnect .success)
  | some conn =>
    ({ c with slot := none }.modifyConnection conn Connection.beginDisconnect, .disconnect (.closing conn))

def stepDisconnect (w : Worker) (id : Nat) (inside : Bool) (c : Conversation) :
    DisconnectPoint → Conversation × Call
  | .entered =>
    match c.cutLink with
    | none => finishCall c (.disconnect .failed)
    | some c => (c, .disconnect .stopping)
  | .stopping => ({ c with timer := c.timer.stop }, .disconnect .submitting)
  | .submitting =>
    match w.submit inside with
    | .ok () => (c, .disconnect .queued)
    | .error _ => finishCall c (.disconnect .success)
  | .queued =>
    if c.holder = some id then c.closeSlot
    else if id ∈ c.line then (c, .disconnect .queued)
    else match c.tryLock id with
      | some c => c.closeSlot
      | none => ({ c with line := c.line ++ [id] }, .disconnect .queued)
  | .closing conn => finishCall (c.modifyConnection conn Connection.finishDisconnect).unlock (.disconnect .success)

/-! Requests. -/

section Request

variable (w : Worker) (id : Nat) (data : Bytes)

/-- Ends an exchange. A connection that a shutdown could not take is closed here. -/
def settleRequest (c : Conversation) (result : Except RequestError Response) : Conversation × Call :=
  if c.running then finishCall c.unlock (.request result)
  else match c.slot with
    | none => finishCall c.unlock (.request result)
    | some conn =>
      ({ c with slot := none }.modifyConnection conn Connection.beginDisconnect,
        .request data (.closing conn result))

def responseOf (c : Conversation) (conn : Nat) (bs : Bytes) : Response :=
  match c.connections[conn]? with
  | some connection => ⟨connection.server, connection.settings.client, bs⟩
  | none => ⟨0, c.settings.source, bs⟩

def afterResponseWait (conn : Nat) : Conversation × (Waiting ⊕ Settled) → Conversation × Call
  | (c, .inl waiting) => (c, .request data (.waiting conn waiting))
  | (c, .inr (.response (.ok bs))) => settleRequest data c (.ok (c.responseOf conn bs))
  | (c, .inr (.response (.error e))) => settleRequest data c (.error (.ofReceive e))
  | (c, .inr _) => settleRequest data c (.error .connectionLost)

def startResponse (c : Conversation) (conn : Nat) : Conversation × Call :=
  match c.connections[conn]? with
  | none => settleRequest data c (.error .connectionLost)
  | some connection =>
    match connection.beginResponse with
    | (connection, some (.ok bs)) =>
      let c := c.modifyConnection conn fun _ => connection
      settleRequest data c (.ok (c.responseOf conn bs))
    | (connection, some (.error e)) =>
      settleRequest data (c.modifyConnection conn fun _ => connection) (.error (.ofReceive e))
    | (connection, none) =>
      afterResponseWait data conn
        ((c.modifyConnection conn fun _ => connection).beginWait w id "" conn c.settings.responseTimeout.toNat
          .response)

def afterRequestWait (conn : Nat) : Conversation × (Waiting ⊕ Settled) → Conversation × Call
  | (c, .inr (.acknowledgement (.ok .positive))) => startResponse w id data c conn
  | (c, .inr (.acknowledgement (.ok (.negative code)))) => settleRequest data c (.error (.negativeAck code))
  | (c, .inr (.acknowledgement (.error .timeout))) => settleRequest data c (.error .ackTimeout)
  | (c, .inr (.acknowledgement (.error e))) => settleRequest data c (.error (.ofReceive e))
  | other => afterResponseWait data conn other

/-- Drops what earlier exchanges left behind and frames the request, when routing is activated. -/
def startExchange (c : Conversation) : Conversation × Call :=
  match c.slot.bind fun conn => (c.connections[conn]?).map (conn, ·) with
  | none => settleRequest data c (.error .notConnected)
  | some (conn, connection) =>
    if connection.state ≠ .activated then settleRequest data c (.error .notConnected)
    else
      let connection := connection.discardPending.1
      let c := c.modifyConnection conn fun _ => connection
      match connection.requestFrame data with
      | .error e => settleRequest data c (.error (.ofSend e))
      | .ok frame => (c, .request data (.writing conn frame))

def stepRequest (inside : Bool) (c : Conversation) : RequestPoint → Conversation × Call
  | .entered =>
    if data.isEmpty then finishCall c (.request (.error .emptyPayload))
    else if c.running then (c, .request data .submitting)
    else finishCall c (.request (.error .notConnected))
  | .submitting =>
    match w.submit inside with
    | .ok () => (c, .request data .queued)
    | .error e => finishCall c (.request (.error (.ofSubmit e)))
  | .queued =>
    match c.tryLock id with
    | none => finishCall c (.request (.error .busy))
    | some c => startExchange data c
  | .writing conn frame =>
    match c.connections[conn]? with
    | none => (c, .request data (.writing conn frame))
    | some connection =>
      match connection.writeRequest frame with
      | (connection, .error e) =>
        settleRequest data (c.modifyConnection conn fun _ => connection) (.error (.ofSend e))
      | (connection, .ok ()) =>
        afterRequestWait w id data conn
          ((c.modifyConnection conn fun _ => connection).beginWait w id "" conn c.settings.ackTimeout.toNat
            (.acknowledgement []))
  | .waiting conn waiting => afterRequestWait w id data conn (c.resumeWait w id "" conn waiting)
  | .closing conn result =>
    finishCall (c.modifyConnection conn Connection.finishDisconnect).unlock (.request result)

end Request

/-! Starting and stopping. -/

def stepShutdown (c : Conversation) : ShutdownPoint → Conversation × Call
  | .entered => if c.running then ({ c with running := false }, .shutdown .cancelling) else finishCall c .done
  | .cancelling =>
    match c.cutLink with
    | none => (c, .shutdown .releasing)
    | some c => (c, .shutdown .stopping)
  | .stopping => ({ c with timer := c.timer.stop }, .shutdown .releasing)
  | .releasing =>
    match c.holder, c.slot with
    | none, some conn => finishCall ({ c with slot := none }.modifyConnection conn Connection.abandon) .done
    | _, _ => finishCall c .done

def stepCall (w : Worker) (id : Nat) (inside : Bool) (c : Conversation) : Call → Conversation × Call
  | .connect target host point => stepConnect w id target host inside c point
  | .disconnect point => stepDisconnect w id inside c point
  | .request data point => stepRequest w id data inside c point
  | .shutdown point => stepShutdown c point
  | .startup => finishCall { c with running := true } .done
  | .returned outcome => finishCall c outcome

def advance (w : Worker) (c : Conversation) (id : Nat) : Conversation :=
  match c.threads[id]? with
  | none => c
  | some t =>
    let (c, call) := stepCall w id t.inside c t.call
    { c with threads := c.threads.set id { t with call } }

/-- What a call becomes when the worker drops its task, and the connection that goes with it. -/
def droppedCall : Call → Option (Call × Option Nat)
  | .connect target host (.queued _) => some (.connect target host .refused, none)
  | .connect target host (.replacing _ conn)
  | .connect target host (.waiting _ conn _)
  | .connect target host (.writing _ conn)
  | .connect target host (.failing conn) => some (.connect target host .refused, some conn)
  | .disconnect .queued => some (.returned (.disconnect .success), none)
  | .disconnect (.closing conn) => some (.returned (.disconnect .success), some conn)
  | .request _ .queued
  | .request _ (.writing _ _)
  | .request _ (.waiting _ _) => some (.returned (.request (.error .cancelled)), none)
  | .request _ (.closing conn _) => some (.returned (.request (.error .cancelled)), some conn)
  | _ => none

def dropTask (c : Conversation) (id : Nat) : Conversation :=
  match c.threads[id]? with
  | none => c
  | some t =>
    match droppedCall t.call with
    | none => c
    | some (call, conn) =>
      let c := conn.elim c fun conn => c.modifyConnection conn Connection.abandon
      { c with threads := c.threads.set id { t with call } }

/-- The worker has ended: its tasks are dropped with their hold on the slot, and receivers stop. Waits that
are dropped leave the timer's phase as it is. -/
def dropTasks (c : Conversation) : Conversation :=
  let c := (List.range c.threads.length).foldl dropTask c
  let stopped := c.connections.map fun conn =>
    { conn with stream := conn.stream.map fun s => { s with receiving := false } }
  { c with holder := none, line := [], timer := { c.timer with waits := [] }, connections := stopped }

/-- What happens to a conversation: calls from outside, their steps, and the doings of network and time. -/
inductive Event
  | call (operation : Operation) (inside : Bool)
  | advance (id : Nat)
  | dialled (connection : Nat) (dial : Dial)
  | arrive (connection : Nat) (arrival : Arrival)
  | noticeClosed (connection : Nat)
  /-- The far end of a connection takes no more bytes. -/
  | sever (connection : Nat)
  | elapse (ms : Nat)
  /-- The worker is shut down, and with it every connection. -/
  | shutDown
  | dropTasks

def sever (conn : Connection) : Connection :=
  { conn with stream := conn.stream.map fun s => { s with broken := true } }

def apply (w : Worker) (c : Conversation) : Event → Conversation
  | .call operation inside => { c with threads := c.threads ++ [{ call := .of operation, inside }] }
  | .advance id => c.advance w id
  | .dialled conn dial => c.modifyConnection conn fun connection => { connection with dial }
  | .arrive conn a => c.modifyConnection conn (·.arrive a)
  | .noticeClosed conn => c.modifyConnection conn Connection.noticeClosed
  | .sever conn => c.modifyConnection conn sever
  | .elapse ms => { c with timer := c.timer.elapse ms }
  | .shutDown => { c with connections := c.connections.map Connection.close }
  | .dropTasks => c.dropTasks

/-- A shutdown from beginning to end; each of its four steps can be taken at once. -/
def shutdown (w : Worker) (c : Conversation) : Conversation :=
  let id := c.threads.length
  Nat.repeat (·.advance w id) 4 (c.apply w (.call .shutdown false))

def outcome? (c : Conversation) (id : Nat) : Option Outcome :=
  match c.threads[id]? with
  | some ⟨.returned outcome, _⟩ => some outcome
  | _ => none

end Doip.Conversation
