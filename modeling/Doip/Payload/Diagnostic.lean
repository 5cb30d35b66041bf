import Doip.Frame.Basic

/-! Diagnostic messages and their acknowledgements. The user data is opaque; an acknowledgement carries a
code and may repeat the message it answers. -/

namespace Doip

structure DiagnosticMessage where
  source : Address
  target : Address
  data : Bytes
deriving DecidableEq

/-- A positive or negative acknowledgement; the payload type tells which. -/
structure Acknowledgement where
  source : Address
  target : Address
  code : UInt8
  previous : Bytes
deriving DecidableEq

def DiagnosticMessage.encode (m : DiagnosticMessage) : Bytes :=
  addressBytes m.source ++ addressBytes m.target ++ m.data

def DiagnosticMessage.parse : Bytes → Except FrameError DiagnosticMessage
  | s₁ :: s₀ :: t₁ :: t₀ :: data => .ok ⟨address s₁ s₀, address t₁ t₀, data⟩
  | bs => .error (.malformedPayload .diagnosticMessage s!"expected at least 4 bytes, got {bs.length}")

def Acknowledgement.encode (a : Acknowledgement) : Bytes :=
  addressBytes a.source ++ addressBytes a.target ++ a.code :: a.previous

/-- Reads the body of either acknowledgement; `type` is the one named when it is too short. -/
def Acknowledgement.parse (type : PayloadType) : Bytes → Except FrameError Acknowledgement
  | s₁ :: s₀ :: t₁ :: t₀ :: code :: previous => .ok ⟨address s₁ s₀, address t₁ t₀, code, previous⟩
  | bs => .error (.malformedPayload type s!"expected at least 5 bytes, got {bs.length}")

end Doip
