import Doip.Proofs.Conversation.Run
import Doip.Proofs.Conversation.Verdict

/-! A run as an observer with a clock at the socket notes it: which frames came at what time. The frames that
mean nothing to the caller leave no trace among the signs (`Log.signs`). A run is orderly when whole frames come
and find room, and when the caller looks before the clock goes on and before more comes. -/

namespace Doip

namespace Happening

def isArrival : Happening → Bool
  | .arrive _ => true
  | _ => false

def isPass : Happening → Bool
  | .pass _ => true
  | _ => false

end Happening

structure Log where
  time : Nat := 0
  /-- Bytes that are no whole frame yet. -/
  buffer : Bytes
  /-- Every frame with the time at which its last byte came. -/
  frames : List (Nat × Message) := []
  /-- How many frames for the caller came since its last look. -/
  unread : Nat := 0
  last : Happening := .arrive (.bytes [])

namespace Log

def note (codec : Codec) (log : Log) : Happening → Log
  | .arrive (.bytes bs) =>
    let d := codec.drain (log.buffer ++ bs)
    { log with
      buffer := d.rest
      frames := log.frames ++ d.frames.map (log.time, ·)
      unread := log.unread + (d.frames.filter Stream.forwards).length
      last := .arrive (.bytes bs) }
  | .arrive a => { log with last := .arrive a }
  | .pass ms => { log with time := log.time + ms, last := .pass ms }
  | .look => { log with unread := 0, last := .look }

def noteAll (codec : Codec) (log : Log) (hs : List Happening) : Log := hs.foldl (note codec) log

/-- The frames that mean something to the caller of a request, and when they came. -/
def signs (server client : Address) (log : Log) : List (Nat × Sign) :=
  log.frames.filterMap fun (t, m) => (m.sign? server client).map (t, ·)

/-- What may happen next in an orderly run: bytes of whole frames for which there is room, and nothing but a look
between an arrival and the passing of time, for the caller is woken as soon as something happens. -/
def Allows (codec : Codec) (log : Log) : Happening → Prop
  | .arrive (.bytes bs) =>
    log.last.isPass = false ∧ (codec.drain (log.buffer ++ bs)).fault = none ∧
      log.unread + ((codec.drain (log.buffer ++ bs)).frames.filter Stream.forwards).length ≤ queueDepth
  | .arrive _ => False
  | .pass _ => log.last.isArrival = false
  | .look => True

def Orderly (codec : Codec) : Log → List Happening → Prop
  | _, [] => True
  | log, h :: hs => log.Allows codec h ∧ Orderly codec (log.note codec h) hs

variable (codec : Codec) (server client : Address) (log : Log)

theorem signs_bytes (bs : Bytes) :
    (log.note codec (.arrive (.bytes bs))).signs server client =
      log.signs server client ++
        (signsIn server client (codec.drain (log.buffer ++ bs)).frames).map (log.time, ·) := by
  simp only [signs, note, signsIn, List.filterMap_append, List.filterMap_map, List.map_filterMap]
  rfl

theorem frames_note (h : Happening) :
    ∃ ms : List Message, (log.note codec h).frames = log.frames ++ ms.map (log.time, ·) := by
  cases h with
  | arrive a =>
    cases a with
    | bytes bs => exact ⟨_, rfl⟩
    | endOfStream => exact ⟨[], (List.append_nil _).symm⟩
    | failure => exact ⟨[], (List.append_nil _).symm⟩
  | pass ms => exact ⟨[], (List.append_nil _).symm⟩
  | look => exact ⟨[], (List.append_nil _).symm⟩

theorem frames_noteAll (hs : List Happening) :
    ∃ later, (log.noteAll codec hs).frames = log.frames ++ later := by
  induction hs generalizing log with
  | nil => exact ⟨[], (List.append_nil _).symm⟩
  | cons h hs ih =>
    obtain ⟨ms, hms⟩ := frames_note codec log h
    obtain ⟨more, hmore⟩ := ih (log.note codec h)
    rw [hms, List.append_assoc] at hmore
    exact ⟨ms.map (log.time, ·) ++ more, hmore⟩

theorem signs_note (h : Happening) :
    ∃ later, (log.note codec h).signs server client = log.signs server client ++ later ∧
      ∀ p ∈ later, log.time ≤ p.1 := by
  obtain ⟨ms, hms⟩ := frames_note codec log h
  refine ⟨(signsIn server client ms).map (log.time, ·), ?_, fun p hp => ?_⟩
  · simp only [signs, hms, signsIn, List.filterMap_append, List.filterMap_map, List.map_filterMap]
    rfl
  · obtain ⟨sign, -, rfl⟩ := List.mem_map.1 hp
    exact Nat.le_refl _

theorem signs_noteAll (hs : List Happening) :
    ∃ later, (log.noteAll codec hs).signs server client = log.signs server client ++ later := by
  obtain ⟨later, hlater⟩ := frames_noteAll codec log hs
  exact ⟨_, by rw [signs, hlater, List.filterMap_append, ← signs]⟩

/-- The run in which each chunk of bytes comes after a gap, and the call looks whenever something has happened. -/
def schedule : List (Nat × Bytes) → List Happening
  | [] => [.look]
  | (gap, bs) :: chunks => .look :: .pass gap :: .look :: .arrive (.bytes bs) :: schedule chunks

variable {codec log}

/-- Every timed sequence of chunks, each with whole frames to find room for, has an orderly run. -/
theorem orderly_schedule {chunks : List (Nat × Bytes)}
    (h : ∀ d ∈ codec.feed log.buffer (chunks.map (·.2)),
      d.fault = none ∧ (d.frames.filter Stream.forwards).length ≤ queueDepth) :
    log.Orderly codec (schedule chunks) := by
  induction chunks generalizing log with
  | nil => exact ⟨trivial, trivial⟩
  | cons chunk chunks ih =>
    obtain ⟨gap, bs⟩ := chunk
    rw [List.map_cons, Codec.feed] at h
    obtain ⟨⟨hfault, hroom⟩, hrest⟩ := List.forall_mem_cons.1 h
    refine ⟨trivial, rfl, trivial, ⟨rfl, hfault, ?_⟩, ih hrest⟩
    exact Nat.le_trans (Nat.le_of_eq (Nat.zero_add _)) hroom

end Log
end Doip
