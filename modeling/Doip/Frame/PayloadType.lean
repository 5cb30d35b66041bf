import Doip.Bytes

/-! The payload types of the protocol and their numbers. Every 16-bit number is the number of the
type it is read as; a type is canonical when it is read back from its own number, which fails only
for an assigned number given as `unknown`. -/

namespace Doip

inductive PayloadType
  | genericNack
  | vehicleIdentificationRequest
  | vehicleIdentificationRequestEid
  | vehicleIdentificationRequestVin
  | vehicleAnnouncement
  | routingActivationRequest
  | routingActivationResponse
  | aliveCheckRequest
  | aliveCheckResponse
  | entityStatusRequest
  | entityStatusResponse
  | powerModeRequest
  | powerModeResponse
  | diagnosticMessage
  | diagnosticMessageAck
  | diagnosticMessageNack
  | unknown (raw : UInt16)
deriving DecidableEq, Repr

namespace PayloadType

def ofRaw : UInt16 → PayloadType
  | 0x0000 => genericNack
  | 0x0001 => vehicleIdentificationRequest
  | 0x0002 => vehicleIdentificationRequestEid
  | 0x0003 => vehicleIdentificationRequestVin
  | 0x0004 => vehicleAnnouncement
  | 0x0005 => routingActivationRequest
  | 0x0006 => routingActivationResponse
  | 0x0007 => aliveCheckRequest
  | 0x0008 => aliveCheckResponse
  | 0x4001 => entityStatusRequest
  | 0x4002 => entityStatusResponse
  | 0x4003 => powerModeRequest
  | 0x4004 => powerModeResponse
  | 0x8001 => diagnosticMessage
  | 0x8002 => diagnosticMessageAck
  | 0x8003 => diagnosticMessageNack
  | raw => unknown raw

def raw : PayloadType → UInt16
  | genericNack => 0x0000
  | vehicleIdentificationRequest => 0x0001
  | vehicleIdentificationRequestEid => 0x0002
  | vehicleIdentificationRequestVin => 0x0003
  | vehicleAnnouncement => 0x0004
  | routingActivationRequest => 0x0005
  | routingActivationResponse => 0x0006
  | aliveCheckRequest => 0x0007
  | aliveCheckResponse => 0x0008
  | entityStatusRequest => 0x4001
  | entityStatusResponse => 0x4002
  | powerModeRequest => 0x4003
  | powerModeResponse => 0x4004
  | diagnosticMessage => 0x8001
  | diagnosticMessageAck => 0x8002
  | diagnosticMessageNack => 0x8003
  | unknown raw => raw

def isKnown : PayloadType → Bool
  | unknown _ => false
  | _ => true

/-- A type that its own number is read as. -/
def Canonical (t : PayloadType) : Prop := ofRaw t.raw = t

instance (t : PayloadType) : Decidable t.Canonical := inferInstanceAs (Decidable (_ = _))

def name : PayloadType → String
  | genericNack => "GenericNack"
  | vehicleIdentificationRequest => "VehicleIdentificationRequest"
  | vehicleIdentificationRequestEid => "VehicleIdentificationRequestEid"
  | vehicleIdentificationRequestVin => "VehicleIdentificationRequestVin"
  | vehicleAnnouncement => "VehicleAnnouncement"
  | routingActivationRequest => "RoutingActivationRequest"
  | routingActivationResponse => "RoutingActivationResponse"
  | aliveCheckRequest => "AliveCheckRequest"
  | aliveCheckResponse => "AliveCheckResponse"
  | entityStatusRequest => "EntityStatusRequest"
  | entityStatusResponse => "EntityStatusResponse"
  | powerModeRequest => "PowerModeRequest"
  | powerModeResponse => "PowerModeResponse"
  | diagnosticMessage => "DiagnosticMessage"
  | diagnosticMessageAck => "DiagnosticMessageAck"
  | diagnosticMessageNack => "DiagnosticMessageNack"
  | unknown raw => s!"Unknown({raw.toNat})"

@[simp] theorem raw_ofRaw (n : UInt16) : (ofRaw n).raw = n := by
  unfold ofRaw
  split <;> rfl

theorem canonical_ofRaw (n : UInt16) : (ofRaw n).Canonical := by simp [Canonical]

end PayloadType
end Doip
