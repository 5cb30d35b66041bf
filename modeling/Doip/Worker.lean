/-! The worker that runs every exchange with the network. Calls are handed to it and wait for their result;
once it is shut down it takes no more, and a call that is under way is refused as well. -/

namespace Doip

inductive SubmitError
  | shutDown
  | insideRuntime
deriving DecidableEq, Repr

def SubmitError.message : SubmitError → String
  | shutDown => "Execution context is shut down"
  | insideRuntime => "Blocking call issued from inside an async runtime"

structure Worker where
  /-- The token that shuts the worker and everything bound to it down. -/
  cancelled : Bool := false
deriving DecidableEq, Repr

namespace Worker

def threadName : String := "diag-client-main"

def isRunning (w : Worker) : Bool := !w.cancelled

def stop (_ : Worker) : Worker := { cancelled := true }

/-- Whether a call is taken; `inside` tells that it comes from a thread that must not block. -/
def submit (w : Worker) (inside : Bool) : Except SubmitError Unit :=
  if inside then .error .insideRuntime
  else if w.cancelled then .error .shutDown
  else .ok ()

/-- A job: one that gives a value, one that never ends and is stopped from outside, or one that stops the
worker it runs on. -/
inductive Job (α : Type)
  | value (a : α)
  | endless
  | stopper

inductive Step (α : Type)
  | run (job : Job α) (inside : Bool)
  | stop

inductive Report (α : Type)
  | nothing
  | output (value : Option α)
  | refused (e : SubmitError)

def step {α : Type} (w : Worker) : Step α → Worker × Report α
  | .stop => (w.stop, .nothing)
  | .run job inside =>
    match w.submit inside with
    | .error e => (match job with | .endless => w.stop | _ => w, .refused e)
    | .ok () =>
      match job with
      | .value a => (w, .output (some a))
      | .endless => (w.stop, .refused .shutDown)
      | .stopper => (w.stop, .output none)

/-- The reports of all steps, each with whether the worker runs after it. -/
def runSteps {α : Type} : Worker → List (Step α) → List (Report α × Bool)
  | _, [] => []
  | w, s :: ss =>
    let (w, report) := w.step s
    (report, w.isRunning) :: runSteps w ss

end Worker
end Doip
