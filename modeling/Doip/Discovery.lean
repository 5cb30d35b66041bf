import Doip.Network
import Doip.Payload.Basic
import Doip.Text.Blank
import Doip.Text.Utf8

/-! Vehicle discovery: a preselection, the identification request made of it, and the vehicles that announce
themselves in answer. Each logical address is listed once, with its first announcement. -/

namespace Doip

inductive DiscoveryError
  | send (cause : String)
  | invalidFilter (reason : String)
  | cancelled
deriving DecidableEq, Repr

def DiscoveryError.message : DiscoveryError → String
  | send cause => s!"Failed to send vehicle identification request: {cause}"
  | invalidFilter reason => s!"Invalid preselection filter: {reason}"
  | cancelled => "Discovery cancelled"

inductive Filter
  | any
  | vin (vin : String)
  | eid (eid : Octets 6)
deriving DecidableEq

namespace Filter

def isSeparator (c : Char) : Bool := c = ':' || c = '-'

/-- An EID as six pairs of digits; colons and dashes may stand anywhere. -/
def ofEid (text : String) : Except DiscoveryError Filter :=
  match Hex.decode (Utf8.encode (text.toList.filter (!isSeparator ·))) with
  | .error e => .error (.invalidFilter s!"EID {text}: {e.message}")
  | .ok bs =>
    match Octets.ofBytes? 6 bs with
    | some e => .ok (eid e)
    | none => .error (.invalidFilter s!"EID {text} must be 6 bytes")

def request : Filter → Except DiscoveryError IdentificationRequest
  | any => .ok .any
  | eid e => .ok (.eid e)
  | vin v =>
    match Octets.ofBytes? 17 (Utf8.encode v.toList) with
    | some bs => .ok (.vin bs)
    | none => .error (.invalidFilter s!"VIN must be 17 characters, got {Quoted.text v}")

end Filter

structure Vehicle where
  logicalAddress : Address
  /-- Empty when the entity does not know its VIN yet. -/
  vin : String
  eid : Octets 6
  gid : Octets 6
  ipAddress : IpAddress
deriving DecidableEq

/-- The text of a VIN: nothing when it is not configured, and no NUL at either end. -/
def vinText (vin : Bytes) : String :=
  if vin.all fun b => b = 0x00 || b = 0xFF then ""
  else String.ofList (Blank.strip (· = '\x00') (Utf8.lossyChars vin))

namespace Vehicle

def ofAnnouncement (a : Announcement) (sender : IpAddress) : Vehicle where
  logicalAddress := a.logicalAddress
  vin := vinText a.vin.bytes
  eid := a.eid
  gid := a.gid
  ipAddress := sender

def eidText (v : Vehicle) : String := Hex.colons v.eid.bytes

def gidText (v : Vehicle) : String := Hex.colons v.gid.bytes

end Vehicle

structure Datagram where
  data : Bytes
  sender : IpAddress

namespace Discovery

def datagramLimit : Nat := 1500

def announcement? (codec : Codec) (d : Datagram) : Option Announcement :=
  match codec.decode (d.data.take datagramLimit) with
  | .error _ => none
  | .ok m =>
    match Payload.parse m with
    | .ok (.announcement a) => some a
    | _ => none

/-- Adds the vehicle of a datagram, unless its address is listed already. -/
def add (codec : Codec) (vehicles : List Vehicle) (d : Datagram) : List Vehicle :=
  match announcement? codec d with
  | none => vehicles
  | some a =>
    if vehicles.any (·.logicalAddress = a.logicalAddress) then vehicles
    else vehicles ++ [Vehicle.ofAnnouncement a d.sender]

def collect (codec : Codec) (datagrams : List Datagram) : List Vehicle := datagrams.foldl (add codec) []

/-- The frame of a request that is sent; nothing is when the preselection is wrong or the network refuses. -/
def send (network : Network) (codec : Codec) (filter : Filter) : Except DiscoveryError Bytes := do
  let request ← filter.request
  match network.datagramFault with
  | some cause => throw (.send cause)
  | none => return codec.encodePayload (.identificationRequest request)

end Discovery
end Doip
