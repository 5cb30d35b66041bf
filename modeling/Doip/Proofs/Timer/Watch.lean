import Doip.Proofs.Timer

/-! A timer as its callers see it (`Watch`), with a clock beside it, with what each wait is for and with how those waits
ended that are over. Any number of waits may be begun, looked at and dropped in any order (`Act`). -/

namespace Doip.Timer

theorem stop_idle {t : Timer} (h : t.phase = .idle) : t.stop = t := by
  unfold stop
  rw [if_neg (by rw [h]; decide)]

/-- How a wait ended. -/
structure Ending (α : Type) where
  key : Nat
  time : Nat
  result : Except TimerOutcome α

structure Watch (α : Type) where
  timer : Timer := {}
  shutDown : Bool := false
  clock : Nat := 0
  /-- What the wait under each key is for: when it will be there, if ever, and what it is. -/
  futures : List (Option (Nat × α)) := []
  ended : List (Ending α) := []

inductive Act (α : Type)
  /-- A wait begins, for something that comes after a while or never. -/
  | begin (timeout : Nat) (future : Option (Nat × α))
  | look (key : Nat)
  /-- A waiter gives up without a look; its wait is gone and has not ended. -/
  | drop (key : Nat)
  | stop
  | shutDown
  | pass (ms : Nat)

namespace Watch

variable {α : Type}

/-- What a wait is for, if it is there. -/
def output? (v : Watch α) (key : Nat) : Option α :=
  (v.futures[key]?.join.filter fun f => f.1 ≤ v.clock).map (·.2)

def look (v : Watch α) (key : Nat) : Watch α :=
  match (v.timer.wait? key).bind (·.poll v.shutDown (v.output? key)) with
  | none => v
  | some result => { v with timer := v.timer.finish key, ended := v.ended ++ [⟨key, v.clock, result⟩] }

def step (v : Watch α) : Act α → Watch α
  | .begin timeout future =>
    { v with
      timer := v.timer.arm v.futures.length timeout
      futures := v.futures ++ [future.map fun f => (v.clock + f.1, f.2)] }
  | .look key => v.look key
  | .drop key => { v with timer := { v.timer with waits := v.timer.waits.filter (·.key ≠ key) } }
  | .stop => { v with timer := v.timer.stop }
  | .shutDown => { v with shutDown := true }
  | .pass ms => { v with timer := v.timer.elapse ms, clock := v.clock + ms }

def run (v : Watch α) (as : List (Act α)) : Watch α := as.foldl step v

theorem run_append (v : Watch α) (as as' : List (Act α)) : v.run (as ++ as') = (v.run as).run as' :=
  List.foldl_append

variable {v : Watch α}

/-- A look either changes nothing or ends a pending wait under its key. -/
theorem look_cases (v : Watch α) (key : Nat) :
    v.look key = v ∨
      ∃ w ∈ v.timer.waits, ∃ result, w.key = key ∧ w.poll v.shutDown (v.output? key) = some result ∧
        v.look key = { v with timer := v.timer.finish key, ended := v.ended ++ [⟨key, v.clock, result⟩] } := by
  unfold look
  cases hpoll : (v.timer.wait? key).bind (·.poll v.shutDown (v.output? key)) with
  | none => exact .inl rfl
  | some result =>
    obtain ⟨w, hw, hresult⟩ := Option.bind_eq_some_iff.1 hpoll
    exact .inr ⟨w, List.mem_of_find?_eq_some hw, result, by simpa using List.find?_some hw, hresult, rfl⟩

end Watch
end Doip.Timer
