/-! A timer that bounds waits and can be stopped from outside. A wait ends at once when the client is shut
down, then when the timer was stopped, then when what it waits for is there, and last when its time is up.
All waits of a timer share one phase: each sets it when it begins and when it ends, and a stop acts
only on what it finds there. Time is virtual and in milliseconds. -/

namespace Doip

inductive TimerPhase
  | idle
  | armed
  | cancelRequested
deriving DecidableEq, Repr

def TimerPhase.name : TimerPhase → String
  | idle => "Idle"
  | armed => "Armed"
  | cancelRequested => "CancelRequested"

inductive TimerOutcome
  | timedOut
  | cancelled
deriving DecidableEq, Repr

def TimerOutcome.name : TimerOutcome → String
  | timedOut => "TimedOut"
  | cancelled => "Cancelled"

/-- A wait in progress, known by the key of its waiter. -/
structure Wait where
  key : Nat
  /-- The time it still has. -/
  remaining : Nat
  /-- Its time was seen to run out. -/
  expired : Bool := false
  /-- The timer was stopped while it was pending. -/
  stopped : Bool := false
deriving DecidableEq, Repr

/-- Lets time pass. A wait without any time left expires even when none passes. -/
def Wait.elapse (ms : Nat) (w : Wait) : Wait :=
  { w with remaining := w.remaining - ms, expired := w.expired || w.remaining ≤ ms }

/-- How a wait ends when its waiter looks, given what it waits for if that is there. -/
def Wait.poll {α : Type} (w : Wait) (shutDown : Bool) (output : Option α) : Option (Except TimerOutcome α) :=
  if shutDown || w.stopped then some (.error .cancelled)
  else match output with
    | some a => some (.ok a)
    | none => if w.expired then some (.error .timedOut) else none

structure Timer where
  phase : TimerPhase := .idle
  waits : List Wait := []
deriving DecidableEq, Repr

namespace Timer

def arm (t : Timer) (key timeout : Nat) : Timer :=
  { phase := .armed, waits := t.waits ++ [{ key, remaining := timeout }] }

def finish (t : Timer) (key : Nat) : Timer :=
  { phase := .idle, waits := t.waits.filter (·.key ≠ key) }

/-- Stops every pending wait, if the timer is armed. -/
def stop (t : Timer) : Timer :=
  if t.phase = .armed then
    { phase := .cancelRequested, waits := t.waits.map fun w => { w with stopped := true } }
  else t

def elapse (t : Timer) (ms : Nat) : Timer := { t with waits := t.waits.map (Wait.elapse ms) }

def wait? (t : Timer) (key : Nat) : Option Wait := t.waits.find? (·.key = key)

def nextExpiry? (t : Timer) : Option Nat := ((t.waits.filter (!·.expired)).map (·.remaining)).min?

end Timer
end Doip
