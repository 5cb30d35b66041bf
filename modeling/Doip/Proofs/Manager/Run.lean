import Doip.Manager

/-! Runs of a manager with all its conversations: its start and stop, discoveries, the passing of time, and in any
order what happens to each conversation. A manager is started at most once (`starts_le_one`). -/

namespace Doip.Manager

/-- A start, for which the worker's thread may not be had. -/
def launch (m : Manager) (fault : Option String) : Except ManagerError Manager :=
  match m.lifecycle, fault with
  | .created, some cause => .error (.runtime cause)
  | _, _ => m.start

/-- What happens to a manager and its conversations. -/
inductive Event
  | start (fault : Option String)
  | stop
  | discover (network : Network) (filter : Filter) (answers : Bytes → List Datagram)
  /-- Time passes, for all conversations alike. -/
  | elapse (ms : Nat)
  /-- A call on a conversation, a step of one, or something on one of its sockets. -/
  | within (conversation : Nat) (event : Conversation.Event)

def step (m : Manager) : Event → Manager
  | .start fault => match m.launch fault with
    | .ok started => started
    | .error _ => m
  | .stop => m.stop
  | .discover network filter answers => (m.discover network filter answers).1
  | .elapse ms => { m with conversations := m.conversations.map (·.apply m.worker (.elapse ms)) }
  | .within i e => m.apply i e

def run (m : Manager) (es : List Event) : Manager := es.foldl step m

def starts (m : Manager) : List Event → Nat
  | [] => 0
  | e :: es =>
    let now := match e with
      | .start fault => if (m.launch fault).isOk then 1 else 0
      | _ => 0
    now + (m.step e).starts es

/-- What an event comes to, if it is a discovery. -/
def discovered? (m : Manager) : Event → Option (Except DiscoveryError (List Vehicle))
  | .discover network filter answers => some (m.discover network filter answers).2
  | _ => none

/-- What the discoveries of a run come to. -/
def discoveries (m : Manager) : List Event → List (Except DiscoveryError (List Vehicle))
  | [] => []
  | e :: es => (m.discovered? e).toList ++ (m.step e).discoveries es

variable {m : Manager}

theorem run_append (m : Manager) (es es' : List Event) : m.run (es ++ es') = (m.run es).run es' :=
  List.foldl_append

theorem launch_of_ne_created (h : m.lifecycle ≠ .created) (fault : Option String) :
    ∃ e, m.launch fault = .error e := by
  cases hlife : m.lifecycle with
  | created => exact absurd hlife h
  | running => exact ⟨.alreadyInitialized, by simp only [launch, start, hlife]⟩
  | shutDown => exact ⟨.shutDown, by simp only [launch, start, hlife]⟩

theorem lifecycle_step_of_ne_created (h : m.lifecycle ≠ .created) (e : Event) : (m.step e).lifecycle ≠ .created := by
  cases e with
  | start fault =>
    obtain ⟨error, herror⟩ := launch_of_ne_created h fault
    simpa only [step, herror] using h
  | stop =>
    simp only [step, stop]
    split <;> exact nofun
  | discover network filter answers =>
    simp only [step, discover]
    split <;> exact h
  | elapse ms => exact h
  | within i e => exact h

theorem starts_of_ne_created (h : m.lifecycle ≠ .created) (es : List Event) : m.starts es = 0 := by
  induction es generalizing m with
  | nil => rfl
  | cons e es ih =>
    have hrest := ih (lifecycle_step_of_ne_created h e)
    cases e with
    | start fault =>
      obtain ⟨error, herror⟩ := launch_of_ne_created h fault
      simp only [starts, hrest, herror]
      rfl
    | _ => simp only [starts, hrest]

theorem lifecycle_of_launch {started : Manager} {fault : Option String} (h : m.launch fault = .ok started) :
    started.lifecycle = .running := by
  cases hlife : m.lifecycle with
  | created =>
    cases fault with
    | none =>
      simp only [launch, start, hlife, Except.ok.injEq] at h
      rw [← h]
    | some cause => simp only [launch, hlife, reduceCtorEq] at h
  | running => simp only [launch, start, hlife, reduceCtorEq] at h
  | shutDown => simp only [launch, start, hlife, reduceCtorEq] at h

theorem starts_le_one (m : Manager) (es : List Event) : m.starts es ≤ 1 := by
  induction es generalizing m with
  | nil => exact Nat.zero_le 1
  | cons e es ih =>
    cases e with
    | start fault =>
      cases hlaunch : m.launch fault with
      | error error =>
        simp only [starts, hlaunch, Except.isOk, Except.toBool, Bool.false_eq_true, if_false, Nat.zero_add]
        exact ih _
      | ok started =>
        have hstarted : (m.step (.start fault)).lifecycle ≠ .created := by
          simp only [step, hlaunch, lifecycle_of_launch hlaunch]
          exact nofun
        simp only [starts, hlaunch, starts_of_ne_created hstarted]
        exact Nat.le_refl 1
    | _ =>
      simp only [starts, Nat.zero_add]
      exact ih _

theorem vehicles_step (m : Manager) (e : Event) :
    (m.step e).vehicles = ((m.discovered? e).bind Except.toOption).getD m.vehicles := by
  cases e with
  | start fault =>
    cases hlife : m.lifecycle <;> cases fault <;> simp only [step, launch, start, hlife] <;> rfl
  | stop =>
    simp only [step, stop]
    split <;> rfl
  | discover network filter answers =>
    simp only [step, discovered?, discover]
    split <;> rfl
  | elapse ms => rfl
  | within i e => rfl

theorem vehicles_run (m : Manager) (es : List Event) :
    (m.run es).vehicles = ((m.discoveries es).filterMap Except.toOption).getLast?.getD m.vehicles := by
  induction es generalizing m with
  | nil => rfl
  | cons e es ih =>
    show ((m.step e).run es).vehicles = _
    rw [ih, vehicles_step, discoveries, List.filterMap_append]
    cases m.discovered? e with
    | none => rfl
    | some result =>
      cases result with
      | error e => rfl
      | ok vs =>
        show _ = (vs :: ((m.step e).discoveries es).filterMap Except.toOption).getLast?.getD m.vehicles
        rw [List.getLast?_cons]
        rfl

def twoTesters : Manager where
  config := {
    conversations := [{ name := "one", source := 1 }, { name := "two", source := 2 }]
    servers := [{ logicalAddress := 0xFA25, host := .localhost }] }

def connecting (i : Nat) (source : Address) : List Event :=
  [.call (.connect 0xFA25 none) false, .advance 0, .advance 0, .advance 0, .advance 0, .dialled 0 .established,
    .advance 0, .advance 0, .arrive 0 (.bytes (Codec.encodePayload {}
      (.activationResponse { client := source, server := 0xFA25, code := .routingSuccessful }))), .advance 0].map
    (Event.within i)

end Doip.Manager
