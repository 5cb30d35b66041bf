import Doip.Entity.Script
import Doip.Frame.Stream

/-! The sessions of a scripted entity. A session works through whole frames in order; while a response is held
back it reads nothing. It ends when it refuses activation, when a header is broken, and when the tester
has closed and every whole frame is answered. -/

namespace Doip

/-- One TCP session as the entity sees it. -/
structure Session where
  /-- Bytes that are not answered yet. -/
  unread : Bytes := []
  /-- A response that is held back, and how long. -/
  late : Option (Nat × Bytes) := none
  /-- The tester has closed its side. -/
  atEnd : Bool := false
  ended : Bool := false
  /-- All the entity has sent. -/
  written : Bytes := []
deriving DecidableEq

structure Entity where
  script : Script
  sessions : List Session := []
  /-- What was noted down, oldest first. -/
  observations : List Observation := []

namespace Session

/-- Works through whole frames until bytes are missing, a response is held back, or the session ends. -/
def work (script : Script) (s : Session) : Session × List Observation :=
  match h : Script.codec.splitFrame s.unread with
  | .error _ => ({ s with ended := true }, [])
  | .ok none => ({ s with ended := s.atEnd }, [])
  | .ok (some (m, rest)) =>
    have := Codec.splitFrame_lt h
    let a := script.answer m
    let s := { s with unread := rest, written := s.written ++ a.output }
    if a.closes then ({ s with ended := true }, a.observed.toList)
    else match a.late with
      | some (ms + 1, frame) => ({ s with late := some (ms + 1, frame) }, a.observed.toList)
      | some (0, frame) =>
        let (s, seen) := work script { s with written := s.written ++ frame }
        (s, a.observed.toList ++ seen)
      | none =>
        let (s, seen) := work script s
        (s, a.observed.toList ++ seen)
termination_by s.unread.length

/-- Works on, unless the session is over or holds a response back. -/
def resume (script : Script) (s : Session) : Session × List Observation :=
  if s.ended || s.late.isSome then (s, []) else s.work script

def receive (script : Script) (bs : Bytes) (s : Session) : Session × List Observation :=
  resume script { s with unread := s.unread ++ bs }

def close (script : Script) (s : Session) : Session × List Observation :=
  resume script { s with atEnd := true }

/-- Lets time pass; a response that is due is sent. -/
def elapse (script : Script) (ms : Nat) (s : Session) : Session × List Observation :=
  match s.late with
  | none => (s, [])
  | some (wait, frame) =>
    if ms < wait then ({ s with late := some (wait - ms, frame) }, [])
    else resume script { s with late := none, written := s.written ++ frame }

end Session

namespace Entity

def accept (e : Entity) : Entity := { e with sessions := e.sessions ++ [{}] }

/-- Lets one session do something, and notes down what it saw. -/
def withSession (e : Entity) (i : Nat) (f : Session → Session × List Observation) : Entity :=
  match e.sessions[i]? with
  | none => e
  | some s =>
    let (s, seen) := f s
    { e with sessions := e.sessions.set i s, observations := e.observations ++ seen }

def receive (e : Entity) (i : Nat) (bs : Bytes) : Entity := e.withSession i (·.receive e.script bs)

def close (e : Entity) (i : Nat) : Entity := e.withSession i (·.close e.script)

def elapse (e : Entity) (ms : Nat) : Entity :=
  (List.range e.sessions.length).foldl (fun e i => e.withSession i (·.elapse e.script ms)) e

def nextDue? (e : Entity) : Option Nat := (e.sessions.filterMap fun s => s.late.map (·.1)).min?

def identify (e : Entity) (datagram : Bytes) : Entity × List Bytes :=
  match Script.identification? datagram with
  | none => (e, [])
  | some r =>
    ({ e with observations := e.observations ++ [.identification] },
      (e.script.announcementsFor r).map (Script.codec.encodePayload ∘ Payload.announcement))

/-! What was noted down, by kind. -/

def activationRequests (e : Entity) : List Address :=
  e.observations.filterMap fun | .activation tester => some tester | _ => none

def diagnosticRequests (e : Entity) : List (Address × Bytes) :=
  e.observations.filterMap fun | .request tester data => some (tester, data) | _ => none

def aliveChecks (e : Entity) : List Address :=
  e.observations.filterMap fun | .aliveCheck tester => some tester | _ => none

def genericNacks (e : Entity) : List UInt8 :=
  e.observations.filterMap fun | .genericNack code => some code | _ => none

def identifications (e : Entity) : Nat := e.observations.countP (· = .identification)

def sessionsEnded (e : Entity) : Nat := e.sessions.countP (·.ended)

end Entity
end Doip
