import Doip.Frame.Basic

/-! Vehicle identification: the request a tester broadcasts, with or without a preselection, and the
announcement of an entity. -/

namespace Doip

inductive IdentificationRequest
  /-- Every entity answers. -/
  | any
  /-- Only the entity with this EID answers. -/
  | eid (eid : Octets 6)
  /-- Only entities of the vehicle with this VIN answer. -/
  | vin (vin : Octets 17)
deriving DecidableEq

namespace IdentificationRequest

def type : IdentificationRequest → PayloadType
  | any => .vehicleIdentificationRequest
  | eid _ => .vehicleIdentificationRequestEid
  | vin _ => .vehicleIdentificationRequestVin

def encode : IdentificationRequest → Bytes
  | any => []
  | eid e => e.bytes
  | vin v => v.bytes

/-- Reads a body by the payload type it came with; without a preselection the body is not looked at. -/
def parse (type : PayloadType) (bs : Bytes) : Except FrameError IdentificationRequest :=
  let unexpected := .error (.malformedPayload type s!"unexpected length {bs.length}")
  match type with
  | .vehicleIdentificationRequest => .ok any
  | .vehicleIdentificationRequestEid => if h : bs.length = 6 then .ok (eid ⟨bs, h⟩) else unexpected
  | .vehicleIdentificationRequestVin => if h : bs.length = 17 then .ok (vin ⟨bs, h⟩) else unexpected
  | _ => unexpected

end IdentificationRequest

structure Announcement where
  logicalAddress : Address
  vin : Octets 17
  eid : Octets 6
  gid : Octets 6
  furtherAction : UInt8
  syncStatus : Option UInt8
deriving DecidableEq

namespace Announcement

def encode (a : Announcement) : Bytes :=
  addressBytes a.logicalAddress ++ a.vin.bytes ++ a.eid.bytes ++ a.gid.bytes ++
    a.furtherAction :: a.syncStatus.toList

/-- Takes 32 bytes, or 33 with the synchronisation status. -/
def parse (bs : Bytes) : Except FrameError Announcement :=
  if h : bs.length = 32 ∨ bs.length = 33 then
    .ok {
      logicalAddress := address (bs.get ⟨0, by omega⟩) (bs.get ⟨1, by omega⟩)
      vin := .slice bs 2 17 (by omega)
      eid := .slice bs 19 6 (by omega)
      gid := .slice bs 25 6 (by omega)
      furtherAction := bs.get ⟨31, by omega⟩
      syncStatus := bs[32]? }
  else .error (.malformedPayload .vehicleAnnouncement s!"expected 32 or 33 bytes, got {bs.length}")

end Announcement
end Doip
