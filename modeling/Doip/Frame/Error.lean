import Doip.Frame.PayloadType
import Doip.Text.Hex

/-! What can be wrong with a frame, and the text each fault is reported as. -/

namespace Doip

inductive FrameError
  /-- The second byte is not the complement of the first. -/
  | invalidVersion (version inverse : UInt8)
  /-- More bytes are needed before the frame can be read. -/
  | incomplete (needed available : Nat)
  /-- The header declares more payload than the receiver takes. -/
  | malformedLength (length limit : Nat)
  /-- The payload does not have the layout of its type. -/
  | malformedPayload (type : PayloadType) (reason : String)
  | unknownType (raw : UInt16)
  /-- An outgoing payload does not fit the limit. -/
  | payloadTooLarge (length limit : Nat)
deriving DecidableEq, Repr

def FrameError.message : FrameError → String
  | invalidVersion v i => s!"Invalid protocol version {Hex.byteText v} (inverse {Hex.byteText i})"
  | incomplete needed available => s!"Incomplete frame: need {needed} bytes, have {available}"
  | malformedLength length limit => s!"Payload length {length} exceeds limit {limit}"
  | malformedPayload type reason => s!"Malformed {type.name} payload: {reason}"
  | unknownType raw => s!"Unknown payload type {Hex.wordText raw}"
  | payloadTooLarge length limit => s!"Payload of {length} bytes exceeds limit {limit}"

end Doip
