import Doip.Payload.Basic

/-! Scripted entities for trying a client out. A script tells how an entity activates routing, which vehicles
it announces, and how it replies to a diagnostic message; `Script.answer` is all it does about one frame. -/

namespace Doip

inductive Reply
  /-- An acknowledgement and this response. -/
  | respond (data : Bytes)
  /-- A negative acknowledgement. -/
  | refuse (code : UInt8)
  /-- An acknowledgement alone. -/
  | silent
  /-- An acknowledgement at once, and the response after some milliseconds. -/
  | delayed (ms : Nat) (data : Bytes)
  /-- Frames between the acknowledgement and the response of another reply. -/
  | after (frames : List Bytes) (reply : Reply)
deriving Inhabited

namespace Reply

/-- The positive response to a request: its service identifier raised by 0x40, and the rest repeated. -/
def positive : Bytes → Reply
  | [] => respond []
  | service :: rest => respond ((service + 0x40) :: rest)

def frames : Reply → List Bytes
  | after fs reply => fs ++ reply.frames
  | _ => []

def core : Reply → Reply
  | after _ reply => reply.core
  | reply => reply

end Reply

structure Rule where
  start : Bytes
  reply : Bytes → Reply

/-- The first rule that fits decides; without one the reply is positive. -/
def Rule.firstOf (rules : List Rule) (request : Bytes) : Reply :=
  match rules.find? (·.start.isPrefixOf request) with
  | some rule => rule.reply request
  | none => .positive request

structure Script where
  /-- The logical address of the entity. -/
  address : Address
  activationCode : ActivationCode := .routingSuccessful
  /-- A response for another tester goes before the right one. -/
  mismatchedFirst : Bool := false
  /-- An alive check goes before the response. -/
  aliveCheckFirst : Bool := false
  /-- Activation is never answered. -/
  ignoresActivation : Bool := false
  announcements : List Announcement := []
  /-- The first announcement is repeated at the end. -/
  repeatsFirst : Bool := false
  /-- How many messages of another source follow an activation, with an alive check behind them. -/
  unsolicited : Nat := 0
  /-- The reply to each request. -/
  handler : Bytes → Reply := .positive

inductive Observation
  | activation (tester : Address)
  | request (tester : Address) (data : Bytes)
  | aliveCheck (tester : Address)
  | genericNack (code : UInt8)
  | identification
deriving DecidableEq

structure Answer where
  observed : Option Observation := none
  /-- What is written in one go. -/
  output : Bytes := []
  /-- What is written later, and after how long. -/
  late : Option (Nat × Bytes) := none
  /-- The session ends behind the output. -/
  closes : Bool := false

/-- A frame with any header fields; the length field holds the length modulo `2 ^ 32`. -/
def rawFrame (version inverse : UInt8) (type : UInt16) (payload : Bytes) : Bytes :=
  version :: inverse :: (be 2 type.toNat ++ be 4 payload.length) ++ payload

def sampleAnnouncement (address : Address) (vin : Octets 17) : Announcement where
  logicalAddress := address
  vin := vin
  eid := ⟨[0x00, 0x02, 0x36, 0x31, 0x00, 0x1C], rfl⟩
  gid := ⟨[0x0A, 0x0B, 0x0C, 0x0D, 0x0E, 0x0F], rfl⟩
  furtherAction := 0x00
  syncStatus := none

namespace Script

def codec : Codec := {}

def frames (ps : List Payload) : Bytes := (ps.map codec.encodePayload).flatten

def response (s : Script) (tester : Address) (code : ActivationCode) : Payload :=
  .activationResponse { client := tester, server := s.address, code }

def chatter (s : Script) (tester : Address) : List Payload :=
  if s.unsolicited = 0 then []
  else List.replicate s.unsolicited (.diagnosticMessage ⟨s.address + 1, tester, [0x7E, 0x00]⟩) ++
    [.aliveCheckRequest]

/-- Answers a routing activation; a session that is not activated ends. -/
def activate (s : Script) (tester : Address) : Answer :=
  if s.ignoresActivation then { observed := some (.activation tester) }
  else
    let first := (if s.aliveCheckFirst then [.aliveCheckRequest] else []) ++
      (if s.mismatchedFirst then [s.response (tester + 1) .routingSuccessful] else [])
    let successful : Bool := s.activationCode = .routingSuccessful
    { observed := some (.activation tester)
      output := frames (first ++ [s.response tester s.activationCode] ++
        (if successful then s.chatter tester else []))
      closes := !successful }

/-- A diagnostic message is acknowledged, then what comes between follows, then the response. -/
def reply (s : Script) (m : DiagnosticMessage) : Answer :=
  let reply := if m.target = s.address then s.handler m.data else .refuse unknownTargetAddress
  let acknowledgement := match reply.core with
    | .refuse code => Payload.diagnosticMessageNack ⟨s.address, m.source, code, m.data⟩
    | _ => Payload.diagnosticMessageAck ⟨s.address, m.source, 0x00, m.data⟩
  let between := codec.encodePayload acknowledgement ++ reply.frames.flatten
  let response data := codec.encodePayload (.diagnosticMessage ⟨s.address, m.source, data⟩)
  let answer : Answer := { observed := some (.request m.source m.data), output := between }
  match reply.core with
  | .respond data => { answer with output := between ++ response data }
  | .delayed ms data => { answer with late := some (ms, response data) }
  | _ => answer

def answer (s : Script) (m : Message) : Answer :=
  match Payload.parse m with
  | .ok (.activationRequest r) => s.activate r.source
  | .ok (.diagnosticMessage d) => s.reply d
  | .ok (.aliveCheckResponse tester) => { observed := some (.aliveCheck tester) }
  | .ok (.genericNack code) => { observed := some (.genericNack code) }
  | _ => {}

def selects : IdentificationRequest → Announcement → Bool
  | .any, _ => true
  | .eid e, a => a.eid = e
  | .vin v, a => a.vin = v

def announcementsFor (s : Script) (r : IdentificationRequest) : List Announcement :=
  s.announcements.filter (selects r) ++ (if s.repeatsFirst then s.announcements.take 1 else [])

def identification? (datagram : Bytes) : Option IdentificationRequest :=
  match codec.decode datagram with
  | .error _ => none
  | .ok m =>
    match Payload.parse m with
    | .ok (.identificationRequest r) => some r
    | _ => none

end Script
end Doip
