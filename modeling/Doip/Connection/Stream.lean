import Doip.Payload.Basic
import Doip.Frame.Stream

/-! One TCP stream and the receiver that reads it. The receiver cuts what arrives into frames. It answers alive
checks and unassigned types itself and queues every other frame for the caller, as long as the queue has room.
A broken header is answered once and ends it, and so does the end of the stream. -/

namespace Doip

def queueDepth : Nat := 64

inductive Arrival
  | bytes (bs : Bytes)
  | endOfStream
  | failure
deriving DecidableEq, Repr

structure Stream where
  /-- Bytes that are no whole frame yet. -/
  buffer : Bytes := []
  /-- Frames that wait for the caller, oldest first. -/
  queue : List Message := []
  /-- The receiver is running. -/
  receiving : Bool := true
  /-- Somebody takes frames out of the queue. -/
  attended : Bool := true
  /-- All the client has sent. -/
  written : Bytes := []
  /-- The far end takes no more bytes. -/
  broken : Bool := false
  /-- The client has closed its sending side. -/
  shut : Bool := false
deriving DecidableEq

namespace Stream

def write (s : Stream) (frame : Bytes) : Stream :=
  if s.broken then s else { s with written := s.written ++ frame }

/-- Handles one frame; the receiver ends when nobody takes frames any more. -/
def dispatch (codec : Codec) (client : Address) (s : Stream) (m : Message) : Stream :=
  match m.type with
  | .unknown _ => s.write (codec.encodePayload (.genericNack unknownPayloadType))
  | .aliveCheckRequest => s.write (codec.encodePayload (.aliveCheckResponse client))
  | _ =>
    if !s.attended then { s with receiving := false }
    else if s.queue.length < queueDepth then { s with queue := s.queue ++ [m] }
    else s

def dispatchAll (codec : Codec) (client : Address) (s : Stream) : List Message → Stream
  | [] => s
  | m :: ms => if s.receiving then dispatchAll codec client (s.dispatch codec client m) ms else s

def headerNackCode : FrameError → UInt8
  | .malformedLength _ _ => messageTooLarge
  | _ => incorrectPatternFormat

/-- What an arrival makes of a stream, and whether the receiver takes it for the loss of the connection. -/
def arrive (codec : Codec) (client : Address) (s : Stream) (a : Arrival) : Stream × Bool :=
  if !s.receiving then (s, false)
  else match a with
    | .endOfStream => ({ s with receiving := false }, true)
    | .failure => ({ s with receiving := false, broken := true }, true)
    | .bytes bs =>
      let drained := codec.drain (s.buffer ++ bs)
      let s := dispatchAll codec client { s with buffer := drained.rest } drained.frames
      match drained.fault with
      | none => (s, false)
      | some e =>
        if s.receiving then
          let s := s.write (codec.encodePayload (.genericNack (headerNackCode e)))
          ({ s with receiving := false }, true)
        else (s, false)

inductive Selection (α : Type)
  | accept (a : α)
  | setAside (data : Bytes)
  | drop

/-- Takes frames out of the queue up to the first accepted one: that one, what was set aside, and the rest. -/
def search {α : Type} (select : Message → Selection α) : List Message → Option α × List Bytes × List Message
  | [] => (none, [], [])
  | m :: ms =>
    match select m with
    | .accept a => (some a, [], ms)
    | .drop => search select ms
    | .setAside data =>
      let (found, aside, rest) := search select ms
      (found, data :: aside, rest)

def release (s : Stream) : Stream :=
  { s with receiving := false, attended := false, shut := true, queue := [] }

end Stream
end Doip
