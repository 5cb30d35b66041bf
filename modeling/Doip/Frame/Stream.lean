import Doip.Frame.Basic

/-! Frames out of a byte stream. Arriving chunks are appended to one buffer, and `drain` takes frames off it
until bytes are missing or the header is broken; a broken buffer is kept as it is. -/

namespace Doip.Codec

theorem splitFrame_lt {c : Codec} {buf rest : Bytes} {m : Message}
    (h : c.splitFrame buf = .ok (some (m, rest))) : rest.length < buf.length := by
  unfold splitFrame at h
  split at h
  · simp at h
  · simp at h
  · rename_i header _
    simp only at h
    split at h
    · simp at h
    · simp only [Except.ok.injEq, Option.some.injEq, Prod.mk.injEq] at h
      rw [← h.2, List.length_drop]
      simp only [headerLength] at *
      omega

/-- What is taken off a buffer in one go: whole frames, the fault that stopped it, and what is left. -/
structure Drained where
  frames : List Message := []
  fault : Option FrameError := none
  rest : Bytes := []
deriving DecidableEq

def drain (c : Codec) (buf : Bytes) : Drained :=
  match h : c.splitFrame buf with
  | .error e => { fault := some e, rest := buf }
  | .ok none => { rest := buf }
  | .ok (some (m, rest)) =>
    have := splitFrame_lt h
    let d := c.drain rest
    { d with frames := m :: d.frames }
termination_by buf.length

def feed (c : Codec) : Bytes → List Bytes → List Drained
  | _, [] => []
  | buf, chunk :: chunks =>
    let d := c.drain (buf ++ chunk)
    d :: c.feed d.rest chunks

end Doip.Codec
