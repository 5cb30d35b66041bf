import Doip.Payload.Activation
import Doip.Payload.Identification
import Doip.Payload.Diagnostic

/-! Typed payloads. `encode?` writes the body of every kind the protocol lets a client or an entity send,
and `parse` reads the payload of a frame by its type. Entity status and power mode are assigned
types whose bodies nothing here looks at. -/

namespace Doip

inductive Payload
  | genericNack (code : UInt8)
  | identificationRequest (request : IdentificationRequest)
  | announcement (announcement : Announcement)
  | activationRequest (request : ActivationRequest)
  | activationResponse (response : ActivationResponse)
  | aliveCheckRequest
  | aliveCheckResponse (source : Address)
  | diagnosticMessage (message : DiagnosticMessage)
  | diagnosticMessageAck (ack : Acknowledgement)
  | diagnosticMessageNack (nack : Acknowledgement)
  /-- An assigned type whose body is not looked at. -/
  | unhandled (type : PayloadType)
deriving DecidableEq

/-- Codes of the generic header acknowledgement that answers a frame which cannot be handled. -/
def incorrectPatternFormat : UInt8 := 0x00

def unknownPayloadType : UInt8 := 0x01

def messageTooLarge : UInt8 := 0x02

def unknownTargetAddress : UInt8 := 0x03

def GenericNack.parse : Bytes → Except FrameError UInt8
  | code :: _ => .ok code
  | [] => .error (.malformedPayload .genericNack "expected at least 1 bytes, got 0")

def AliveCheckResponse.parse : Bytes → Except FrameError Address
  | s₁ :: s₀ :: _ => .ok (address s₁ s₀)
  | bs => .error (.malformedPayload .aliveCheckResponse s!"expected at least 2 bytes, got {bs.length}")

namespace Payload

def type : Payload → PayloadType
  | genericNack _ => .genericNack
  | identificationRequest r => r.type
  | announcement _ => .vehicleAnnouncement
  | activationRequest _ => .routingActivationRequest
  | activationResponse _ => .routingActivationResponse
  | aliveCheckRequest => .aliveCheckRequest
  | aliveCheckResponse _ => .aliveCheckResponse
  | diagnosticMessage _ => .diagnosticMessage
  | diagnosticMessageAck _ => .diagnosticMessageAck
  | diagnosticMessageNack _ => .diagnosticMessageNack
  | unhandled t => t

/-- The body of a payload; one that is not looked at has none. -/
def encode : Payload → Bytes
  | genericNack code => [code]
  | identificationRequest r => r.encode
  | announcement a => a.encode
  | activationRequest r => r.encode
  | activationResponse r => r.encode
  | aliveCheckRequest => []
  | aliveCheckResponse source => addressBytes source
  | diagnosticMessage m => m.encode
  | diagnosticMessageAck a => a.encode
  | diagnosticMessageNack a => a.encode
  | unhandled _ => []

def ofBody (type : PayloadType) (bs : Bytes) : Except FrameError Payload :=
  match type with
  | .genericNack => genericNack <$> GenericNack.parse bs
  | .vehicleIdentificationRequest
  | .vehicleIdentificationRequestEid
  | .vehicleIdentificationRequestVin => identificationRequest <$> IdentificationRequest.parse type bs
  | .vehicleAnnouncement => announcement <$> Announcement.parse bs
  | .routingActivationRequest => activationRequest <$> ActivationRequest.parse bs
  | .routingActivationResponse => activationResponse <$> ActivationResponse.parse bs
  | .aliveCheckRequest => .ok aliveCheckRequest
  | .aliveCheckResponse => aliveCheckResponse <$> AliveCheckResponse.parse bs
  | .diagnosticMessage => diagnosticMessage <$> DiagnosticMessage.parse bs
  | .diagnosticMessageAck => diagnosticMessageAck <$> Acknowledgement.parse type bs
  | .diagnosticMessageNack => diagnosticMessageNack <$> Acknowledgement.parse type bs
  | .unknown raw => .error (.unknownType raw)
  | other => .ok (unhandled other)

def parse (m : Message) : Except FrameError Payload := ofBody m.type m.payload

end Payload

namespace Codec

def encodePayload (c : Codec) (p : Payload) : Bytes := c.encode p.type p.encode

/-- The frame of a typed payload whose body fits the limit. -/
def encodePayloadWithin (c : Codec) (p : Payload) : Except FrameError Bytes := c.encodeWithin p.type p.encode

end Codec
end Doip
