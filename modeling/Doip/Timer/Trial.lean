import Doip.Timer.Basic

/-! Trials of one timer: waits for something that is never there, is there at once or comes after a while,
alone or two at a time, with a stop or a shutdown in between. -/

namespace Doip.Timer

/-- A timer under trial and the waits that have ended, each with its outcome or with what came. -/
structure Trial where
  timer : Timer := {}
  shutDown : Bool := false
  /-- When what a wait waits for will be there. -/
  arrivals : List (Nat × Nat) := []
  ended : List (Nat × Except TimerOutcome Unit) := []

inductive Intervention
  | stop
  | shutdown
deriving DecidableEq, Repr

inductive Report (α : Type)
  | nothing
  | outcome (result : Except TimerOutcome Unit) (seen : List TimerPhase)
  | pair (first second : TimerOutcome) (seen : Option (List TimerPhase))
  | output (result : Except TimerOutcome (Option α))

inductive Step (α : Type)
  | stop
  | shutdown
  | start (ms : Nat) (during : Option Intervention)
  | pair (first second : Nat) (stopAt : Option Nat)
  | waitReady (ms : Nat) (value : α)
  | waitSleep (ms sleep : Nat)

namespace Trial

def intervene (t : Trial) : Intervention → Trial
  | .stop => { t with timer := t.timer.stop }
  | .shutdown => { t with shutDown := true }

def poll (t : Trial) (key : Nat) : Trial :=
  let arrived := t.arrivals.any fun (k, ms) => k = key && ms = 0
  match (t.timer.wait? key).bind (·.poll t.shutDown (if arrived then some () else none)) with
  | none => t
  | some result => { t with timer := t.timer.finish key, ended := t.ended ++ [(key, result)] }

def begin (t : Trial) (key ms : Nat) (arrival : Option Nat) : Trial :=
  poll { t with
    timer := t.timer.arm key ms
    arrivals := (t.arrivals.filter (·.1 ≠ key)) ++ (arrival.map (key, ·)).toList
    ended := t.ended.filter (·.1 ≠ key) } key

def elapse (t : Trial) (ms : Nat) : Trial :=
  { t with timer := t.timer.elapse ms, arrivals := t.arrivals.map fun (k, r) => (k, r - ms) }

/-- The time until something can end a pending wait. -/
def next? (t : Trial) : Option Nat :=
  let arrivals := (t.arrivals.filter fun (k, r) => 0 < r && (t.timer.wait? k).isSome).map (·.2)
  (t.timer.nextExpiry?.toList ++ arrivals).min?

/-- Lets time pass until a given one is over, and every waiter look whenever something has happened. -/
def run : (fuel : Nat) → Nat → Trial → Trial
  | 0, _, t => t
  | fuel + 1, ms, t =>
    match t.next? with
    | none => t.elapse ms
    | some d =>
      if ms < d then t.elapse ms
      else run fuel (ms - d) ((t.timer.waits.map (·.key)).foldl poll (t.elapse d))

def runOut : (fuel : Nat) → Trial → Trial
  | 0, t => t
  | fuel + 1, t =>
    match t.next? with
    | none => t
    | some d => runOut fuel ((t.timer.waits.map (·.key)).foldl poll (t.elapse d))

/-- More than the events that two waits can see. -/
def rounds : Nat := 8

def settle (t : Trial) : Trial := runOut rounds ((t.timer.waits.map (·.key)).foldl poll t)

def result (t : Trial) (key : Nat) : Except TimerOutcome Unit := (t.ended.lookup key).getD (.error .cancelled)

def outcome (t : Trial) (key : Nat) : TimerOutcome :=
  match t.result key with
  | .ok () => .cancelled
  | .error o => o

def step {α : Type} (t : Trial) : Step α → Trial × Report α
  | .stop => (t.intervene .stop, .nothing)
  | .shutdown => (t.intervene .shutdown, .nothing)
  | .start ms during =>
    let armed := t.begin 0 ms none
    let disturbed := during.elim armed armed.intervene
    let done := disturbed.settle
    (done, .outcome (done.result 0) [armed.timer.phase, disturbed.timer.phase])
  | .pair first second stopAt =>
    let armed := (t.begin 0 first none).begin 1 second none
    match stopAt with
    | none =>
      let done := armed.settle
      (done, .pair (done.outcome 0) (done.outcome 1) none)
    | some ms =>
      let later := run rounds ms armed
      let stopped := later.intervene .stop
      let done := stopped.settle
      (done, .pair (done.outcome 0) (done.outcome 1) (some [later.timer.phase, stopped.timer.phase]))
  | .waitReady ms value =>
    let done := (t.begin 0 ms (some 0)).settle
    (done, .output ((done.result 0).map fun _ => some value))
  | .waitSleep ms sleep =>
    let begun := t.begin 0 ms (some sleep)
    let done := begun.settle
    (done, .output ((done.result 0).map fun _ => none))

def runSteps {α : Type} : Trial → List (Step α) → List (Report α × TimerPhase)
  | _, [] => []
  | t, s :: ss =>
    let (t, report) := t.step s
    (report, t.timer.phase) :: runSteps t ss

end Trial
end Doip.Timer
