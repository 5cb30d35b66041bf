import Doip.Frame.Error

/-! Frames and the codec that writes and reads them. A frame is a header of eight bytes (version, its
complement, payload type, payload length, the last two big-endian) and the payload. `decode` reads one frame
at the start of a buffer and ignores what follows; `splitFrame` takes one off a stream buffer. -/

namespace Doip

def headerLength : Nat := 8

/-- The largest length the header's length field can declare. -/
def maxDeclaredLength : Nat := 0xFFFFFFFF

def defaultVersion : UInt8 := 2

def defaultLimit : UInt32 := 0xFFFF

structure Message where
  version : UInt8
  inverse : UInt8
  type : PayloadType
  payload : Bytes
deriving DecidableEq, Repr

namespace Message

def of (version : UInt8) (type : PayloadType) (payload : Bytes) : Message :=
  ⟨version, ~~~version, type, payload⟩

/-- The length the header declares; it stays at the largest number that fits the field. -/
def declaredLength (m : Message) : Nat := min m.payload.length maxDeclaredLength

def frameLength (m : Message) : Nat := headerLength + m.payload.length

def header (m : Message) : Bytes :=
  m.version :: m.inverse :: (be 2 m.type.raw.toNat ++ be 4 m.declaredLength)

def toBytes (m : Message) : Bytes := m.header ++ m.payload

@[simp] theorem length_header (m : Message) : m.header.length = headerLength := by
  simp [header, headerLength]

@[simp] theorem length_toBytes (m : Message) : m.toBytes.length = m.frameLength := by
  simp [toBytes, frameLength]

end Message

structure Header where
  version : UInt8
  type : PayloadType
  length : Nat
deriving DecidableEq, Repr

structure Codec where
  version : UInt8 := defaultVersion
  limit : UInt32 := defaultLimit
deriving DecidableEq, Repr

namespace Codec

def encode (c : Codec) (type : PayloadType) (payload : Bytes) : Bytes :=
  (Message.of c.version type payload).toBytes

def encodeWithin (c : Codec) (type : PayloadType) (payload : Bytes) : Except FrameError Bytes :=
  if payload.length ≤ c.limit.toNat then .ok (c.encode type payload)
  else .error (.payloadTooLarge payload.length c.limit.toNat)

/-- Reads the header at the start of a buffer: enough bytes, then the version's complement, then the limit. -/
def decodeHeader (c : Codec) : Bytes → Except FrameError Header
  | v :: i :: t₁ :: t₀ :: l₃ :: l₂ :: l₁ :: l₀ :: _ =>
    let length := ofBE [l₃, l₂, l₁, l₀]
    if i ≠ ~~~v then .error (.invalidVersion v i)
    else if c.limit.toNat < length then .error (.malformedLength length c.limit.toNat)
    else .ok ⟨v, PayloadType.ofRaw (UInt16.ofNat (ofBE [t₁, t₀])), length⟩
  | buf => .error (.incomplete headerLength buf.length)

/-- Reads one frame at the start of a buffer and ignores what follows it. -/
def decode (c : Codec) (buf : Bytes) : Except FrameError Message := do
  let header ← c.decodeHeader buf
  let needed := headerLength + header.length
  if buf.length < needed then throw (.incomplete needed buf.length)
  return .of header.version header.type ((buf.take needed).drop headerLength)

/-- Takes the next frame off a stream buffer: the frame and the rest, or nothing while bytes are missing. -/
def splitFrame (c : Codec) (buf : Bytes) : Except FrameError (Option (Message × Bytes)) :=
  match c.decodeHeader buf with
  | .error (.incomplete _ _) => .ok none
  | .error e => .error e
  | .ok header =>
    let needed := headerLength + header.length
    if buf.length < needed then .ok none
    else .ok (some (.of header.version header.type ((buf.take needed).drop headerLength), buf.drop needed))

end Codec
end Doip
