import Doip.Payload.Basic

/-! How the operations of a connection fail, and the text of each failure. -/

namespace Doip

inductive ConnectError
  | io (cause : String)
  | timeout (endpoint : String)
  | cancelled
deriving DecidableEq, Repr

def ConnectError.message : ConnectError → String
  | io cause => s!"Connection failed: {cause}"
  | timeout endpoint => s!"Connection to {endpoint} timed out"
  | cancelled => "Connection cancelled"

inductive ActivationError
  | rejected (code : ActivationCode)
  | timeout
  | connectionLost
  | cancelled
deriving DecidableEq, Repr

def ActivationError.message : ActivationError → String
  | rejected code => s!"Routing activation rejected: {code.text}"
  | timeout => "Routing activation timed out"
  | connectionLost => "Connection lost during routing activation"
  | cancelled => "Routing activation cancelled"

inductive SendError
  | notActivated
  | payloadTooLarge (length limit : Nat)
  | connectionLost
deriving DecidableEq, Repr

def SendError.message : SendError → String
  | notActivated => "Routing is not activated"
  | payloadTooLarge length limit => s!"Payload of {length} bytes exceeds limit {limit}"
  | connectionLost => "Connection lost"

inductive ReceiveError
  | timeout
  | connectionLost
  | cancelled
deriving DecidableEq, Repr

def ReceiveError.message : ReceiveError → String
  | timeout => "Timeout waiting for response"
  | connectionLost => "Connection lost"
  | cancelled => "Wait cancelled"

/-- A wait that fails during routing activation. -/
def ActivationError.ofReceive : ReceiveError → ActivationError
  | .timeout => timeout
  | .connectionLost => connectionLost
  | .cancelled => cancelled

end Doip
