import Doip.Frame.Basic

/-! Routing activation: how a tester asks an entity to route its messages, and how the entity answers.
The four reserved bytes are written as zeros and not looked at when read. -/

namespace Doip

inductive ActivationType
  | default
  | wwhObd
  | centralSecurity
  | other (raw : UInt8)
deriving DecidableEq, Repr

namespace ActivationType

def ofRaw : UInt8 → ActivationType
  | 0x00 => default
  | 0x01 => wwhObd
  | 0xE0 => centralSecurity
  | raw => other raw

def raw : ActivationType → UInt8
  | default => 0x00
  | wwhObd => 0x01
  | centralSecurity => 0xE0
  | other raw => raw

def name : ActivationType → String
  | default => "Default"
  | wwhObd => "WwhObd"
  | centralSecurity => "CentralSecurity"
  | other raw => s!"Other({raw.toNat})"

@[simp] theorem raw_ofRaw (n : UInt8) : (ofRaw n).raw = n := by
  unfold ofRaw
  split <;> rfl

end ActivationType

inductive ActivationCode
  | unknownSourceAddress
  | allSocketsRegistered
  | differentSourceAddress
  | sourceAddressAlreadyActive
  | missingAuthentication
  | rejectedConfirmation
  | unsupportedActivationType
  | tlsRequired
  | routingSuccessful
  | confirmationRequired
  | other (raw : UInt8)
deriving DecidableEq, Repr

namespace ActivationCode

def ofRaw : UInt8 → ActivationCode
  | 0x00 => unknownSourceAddress
  | 0x01 => allSocketsRegistered
  | 0x02 => differentSourceAddress
  | 0x03 => sourceAddressAlreadyActive
  | 0x04 => missingAuthentication
  | 0x05 => rejectedConfirmation
  | 0x06 => unsupportedActivationType
  | 0x07 => tlsRequired
  | 0x10 => routingSuccessful
  | 0x11 => confirmationRequired
  | raw => other raw

def raw : ActivationCode → UInt8
  | unknownSourceAddress => 0x00
  | allSocketsRegistered => 0x01
  | differentSourceAddress => 0x02
  | sourceAddressAlreadyActive => 0x03
  | missingAuthentication => 0x04
  | rejectedConfirmation => 0x05
  | unsupportedActivationType => 0x06
  | tlsRequired => 0x07
  | routingSuccessful => 0x10
  | confirmationRequired => 0x11
  | other raw => raw

def name : ActivationCode → String
  | unknownSourceAddress => "UnknownSourceAddress"
  | allSocketsRegistered => "AllSocketsRegistered"
  | differentSourceAddress => "DifferentSourceAddress"
  | sourceAddressAlreadyActive => "SourceAddressAlreadyActive"
  | missingAuthentication => "MissingAuthentication"
  | rejectedConfirmation => "RejectedConfirmation"
  | unsupportedActivationType => "UnsupportedActivationType"
  | tlsRequired => "TlsRequired"
  | routingSuccessful => "RoutingSuccessful"
  | confirmationRequired => "ConfirmationRequired"
  | other raw => s!"Other({raw.toNat})"

def meaning : ActivationCode → String
  | unknownSourceAddress => "Unknown source address"
  | allSocketsRegistered => "All TCP sockets registered and active"
  | differentSourceAddress => "Source address differs from active one"
  | sourceAddressAlreadyActive => "Source address already active"
  | missingAuthentication => "Missing authentication"
  | rejectedConfirmation => "Rejected confirmation"
  | unsupportedActivationType => "Unsupported routing activation type"
  | tlsRequired => "TLS connection required"
  | routingSuccessful => "Routing successfully activated"
  | confirmationRequired => "Routing activated, confirmation required"
  | other _ => "Reserved/manufacturer specific"

/-- The meaning of a code with its number. -/
def text (c : ActivationCode) : String := s!"{c.meaning} ({Hex.byteText c.raw})"

@[simp] theorem raw_ofRaw (n : UInt8) : (ofRaw n).raw = n := by
  unfold ofRaw
  split <;> rfl

end ActivationCode

structure ActivationRequest where
  source : Address
  type : ActivationType
  oem : Option (Octets 4) := none
deriving DecidableEq

structure ActivationResponse where
  /-- The tester the response is meant for. -/
  client : Address
  /-- The responding entity. -/
  server : Address
  code : ActivationCode
  oem : Option (Octets 4) := none
deriving DecidableEq

/-- The bytes of a manufacturer's field, none when it is left out. -/
def oemBytes (oem : Option (Octets 4)) : Bytes := (oem.map Octets.bytes).getD []

def ActivationRequest.encode (r : ActivationRequest) : Bytes :=
  addressBytes r.source ++ r.type.raw :: be 4 0 ++ oemBytes r.oem

/-- Takes 7 bytes, or 11 with the manufacturer's field. -/
def ActivationRequest.parse : Bytes → Except FrameError ActivationRequest
  | [s₁, s₀, t, _, _, _, _] => .ok ⟨address s₁ s₀, .ofRaw t, none⟩
  | [s₁, s₀, t, _, _, _, _, o₀, o₁, o₂, o₃] => .ok ⟨address s₁ s₀, .ofRaw t, some ⟨[o₀, o₁, o₂, o₃], rfl⟩⟩
  | bs => .error (.malformedPayload .routingActivationRequest s!"expected 7 or 11 bytes, got {bs.length}")

def ActivationResponse.encode (r : ActivationResponse) : Bytes :=
  addressBytes r.client ++ addressBytes r.server ++ r.code.raw :: be 4 0 ++ oemBytes r.oem

/-- The reserved bytes may be left out, and the manufacturer's field is read only when all of it is there. -/
def ActivationResponse.parse : Bytes → Except FrameError ActivationResponse
  | c₁ :: c₀ :: s₁ :: s₀ :: code :: tail =>
    let oem := match tail with
      | _ :: _ :: _ :: _ :: o₀ :: o₁ :: o₂ :: o₃ :: _ => some ⟨[o₀, o₁, o₂, o₃], rfl⟩
      | _ => none
    .ok ⟨address c₁ c₀, address s₁ s₀, .ofRaw code, oem⟩
  | bs => .error (.malformedPayload .routingActivationResponse s!"expected at least 5 bytes, got {bs.length}")

end Doip
