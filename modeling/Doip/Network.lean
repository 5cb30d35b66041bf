import Doip.IpAddress

/-! What the client's sockets meet: listeners at the far end, and a network that lets packets through or not.
Everything that runs takes the network as a value. -/

namespace Doip

structure Endpoint where
  host : IpAddress
  port : UInt16
deriving DecidableEq

/-- How the far end treats an attempt to connect. -/
inductive Listener
  | accepting
  | refusing
  | silent
deriving DecidableEq, Repr

inductive Dial
  | pending
  | established
  | failed (cause : String)
deriving DecidableEq, Repr

structure Network where
  dial : Listener → Dial
  /-- Why no datagram leaves the host, if none does. -/
  datagramFault : Option String

namespace Network

def transparent : Network where
  dial
    | .accepting => .established
    | .refusing => .failed "Connection refused (os error 111)"
    | .silent => .pending
  datagramFault := none

/-- The host has no route to anywhere, and every attempt fails at once. -/
def unreachable : Network where
  dial _ := .failed "Network is unreachable (os error 101)"
  datagramFault := some "Network is unreachable (os error 101)"

end Network
end Doip
