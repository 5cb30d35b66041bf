import Doip.Connection.Error
import Doip.Worker

/-! How a diagnostic request on a conversation fails, and the text of each failure. -/

namespace Doip

inductive RequestError
  | notConnected
  | busy
  | emptyPayload
  | payloadTooLarge (length limit : Nat)
  | negativeAck (code : UInt8)
  | ackTimeout
  | timeout
  | connectionLost
  | cancelled
deriving DecidableEq, Repr

namespace RequestError

def message : RequestError → String
  | notConnected => "Conversation is not connected"
  | busy => "Conversation busy"
  | emptyPayload => "Request payload is empty"
  | payloadTooLarge length limit => s!"Request of {length} bytes exceeds payload limit {limit}"
  | negativeAck code => s!"Diagnostic message negatively acknowledged ({Hex.byteText code})"
  | ackTimeout => "Timeout waiting for diagnostic message acknowledgement"
  | timeout => "Timeout waiting for diagnostic response"
  | connectionLost => "Connection lost"
  | cancelled => "Request cancelled"

def ofSend : SendError → RequestError
  | .notActivated => notConnected
  | .payloadTooLarge length limit => payloadTooLarge length limit
  | .connectionLost => connectionLost

def ofReceive : ReceiveError → RequestError
  | .timeout => timeout
  | .connectionLost => connectionLost
  | .cancelled => cancelled

/-- A request that the worker does not take counts as cancelled. -/
def ofSubmit : SubmitError → RequestError
  | _ => cancelled

end RequestError
end Doip
