import Doip.Proofs.Manager.Run

/-! Runs of a manager with all its conversations, in any order of events. Of such a run a conversation sees nothing but
the manager's start and stop, the passing of time, its own calls, and what happens on its own sockets: the rest can be
left out (`undisturbed`). -/

namespace Doip.Manager

/-- Whether an event is one that the conversation with the given number takes part in. -/
def Event.concerns (j : Nat) : Event → Bool
  | .discover _ _ _ => false
  | .within i _ => i = j
  | _ => true

/-- A conversation behind each event that concerns it: what its calls have come to, what it has written on its
sockets, its state, its timer with all waits. -/
def history (m : Manager) (j : Nat) : List Event → List (Option Conversation)
  | [] => []
  | e :: es =>
    if e.concerns j then (m.step e).conversations[j]? :: (m.step e).history j es else (m.step e).history j es

variable {j : Nat} {m m' : Manager} {e : Event}

/-- Two managers that one of their conversations cannot tell from each other. -/
structure Agree (j : Nat) (m m' : Manager) : Prop where
  config : m.config = m'.config
  lifecycle : m.lifecycle = m'.lifecycle
  worker : m.worker = m'.worker
  conversation : m.conversations[j]? = m'.conversations[j]?

theorem Agree.refl (j : Nat) (m : Manager) : Agree j m m := ⟨rfl, rfl, rfl, rfl⟩

theorem Agree.symm (h : Agree j m m') : Agree j m' m :=
  ⟨h.config.symm, h.lifecycle.symm, h.worker.symm, h.conversation.symm⟩

theorem Agree.trans {m'' : Manager} (h : Agree j m m') (h' : Agree j m' m'') : Agree j m m'' :=
  ⟨h.config.trans h'.config, h.lifecycle.trans h'.lifecycle, h.worker.trans h'.worker,
    h.conversation.trans h'.conversation⟩

/-! What each kind of event makes of two such managers. -/

theorem Agree.map (h : Agree j m m') (f : Conversation → Conversation) :
    (m.conversations.map f)[j]? = (m'.conversations.map f)[j]? := by
  rw [List.getElem?_map, List.getElem?_map, h.conversation]

theorem Agree.launch (h : Agree j m m') (fault : Option String) :
    Agree j (m.step (.start fault)) (m'.step (.start fault)) := by
  have hlife := h.lifecycle
  cases hm : m.lifecycle with
  | created =>
    rw [hm] at hlife
    cases fault with
    | some cause =>
      simp only [step, Manager.launch, hm, ← hlife]
      exact h
    | none =>
      simp only [step, Manager.launch, start, hm, ← hlife]
      exact ⟨h.config, rfl, h.worker, by rw [h.config]⟩
  | running =>
    rw [hm] at hlife
    simp only [step, Manager.launch, start, hm, ← hlife]
    exact h
  | shutDown =>
    rw [hm] at hlife
    simp only [step, Manager.launch, start, hm, ← hlife]
    exact h

theorem Agree.stop (h : Agree j m m') : Agree j m.stop m'.stop := by
  unfold Manager.stop
  rw [← h.lifecycle]
  cases m.lifecycle with
  | running =>
    refine ⟨h.config, rfl, congrArg Worker.stop h.worker, ?_⟩
    simp only [← h.worker]
    exact h.map _
  | created => exact ⟨h.config, rfl, h.worker, h.conversation⟩
  | shutDown => exact ⟨h.config, rfl, h.worker, h.conversation⟩

theorem agree_discover (j : Nat) (m : Manager) (network : Network) (filter : Filter)
    (answers : Bytes → List Datagram) : Agree j m (m.discover network filter answers).1 := by
  unfold discover
  split
  · exact .refl j m
  · exact ⟨rfl, rfl, rfl, rfl⟩

theorem agree_within {i : Nat} (hi : i ≠ j) (m : Manager) (e : Conversation.Event) : Agree j m (m.apply i e) :=
  ⟨rfl, rfl, rfl, (List.getElem?_modify_ne _ _ hi).symm⟩

theorem Agree.step (h : Agree j m m') (e : Event) : Agree j (m.step e) (m'.step e) := by
  cases e with
  | start fault => exact h.launch fault
  | stop => exact h.stop
  | discover network filter answers =>
    exact (agree_discover j m network filter answers).symm.trans (h.trans (agree_discover j m' network filter answers))
  | elapse ms =>
    refine ⟨h.config, h.lifecycle, h.worker, ?_⟩
    show (m.conversations.map _)[j]? = (m'.conversations.map _)[j]?
    rw [h.worker]
    exact h.map _
  | within i e =>
    refine ⟨h.config, h.lifecycle, h.worker, ?_⟩
    show (m.conversations.modify i _)[j]? = (m'.conversations.modify i _)[j]?
    rw [List.getElem?_modify, List.getElem?_modify, h.conversation, h.worker]

theorem agree_step (he : e.concerns j = false) (m : Manager) : Agree j m (m.step e) := by
  cases e with
  | discover network filter answers => exact agree_discover j m network filter answers
  | within i e => exact agree_within (of_decide_eq_false he) m e
  | start fault => cases he
  | stop => cases he
  | elapse ms => cases he

theorem Agree.run (h : Agree j m m') (es : List Event) : Agree j (m.run es) (m'.run (es.filter (Event.concerns j))) := by
  induction es generalizing m m' with
  | nil => exact h
  | cons e es ih =>
    cases he : e.concerns j with
    | true =>
      rw [List.filter_cons_of_pos he]
      exact ih (h.step e)
    | false =>
      rw [List.filter_cons_of_neg (by simp [he])]
      exact ih ((agree_step he m).symm.trans h)

theorem Agree.history (h : Agree j m m') (es : List Event) :
    m.history j es = m'.history j (es.filter (Event.concerns j)) := by
  induction es generalizing m m' with
  | nil => rfl
  | cons e es ih =>
    cases he : e.concerns j with
    | true =>
      have hstep := h.step e
      simp only [List.filter_cons_of_pos he, Manager.history, he, if_true, hstep.conversation, ih hstep]
    | false =>
      rw [List.filter_cons_of_neg (by simp [he]), Manager.history, he, if_neg Bool.false_ne_true]
      exact ih ((agree_step he m).symm.trans h)

/-- Whatever the other conversations do, and whoever is discovered: without it a conversation has the same history and
stands where it stands. It depends on nothing but its own part of the run, and what is no part of it leaves every call,
wait and connection of the conversation as it is. -/
theorem undisturbed (m : Manager) (j : Nat) (es : List Event) :
    m.history j (es.filter (Event.concerns j)) = m.history j es ∧
      (m.run (es.filter (Event.concerns j))).conversations[j]? = (m.run es).conversations[j]? ∧
      (∀ es' : List Event, es'.filter (Event.concerns j) = es.filter (Event.concerns j) →
        m.history j es' = m.history j es ∧ (m.run es').conversations[j]? = (m.run es).conversations[j]?) ∧
      ∀ e : Event, e.concerns j = false → ((m.run es).step e).conversations[j]? = (m.run es).conversations[j]? := by
  have hhistory : ∀ es, m.history j es = m.history j (es.filter (Event.concerns j)) := (Agree.refl j m).history
  have hrun : ∀ es, (m.run es).conversations[j]? = (m.run (es.filter (Event.concerns j))).conversations[j]? :=
    fun es => ((Agree.refl j m).run es).conversation
  refine ⟨(hhistory es).symm, (hrun es).symm, fun es' hown => ⟨?_, ?_⟩, fun e he => ?_⟩
  · rw [hhistory es', hown, ← hhistory es]
  · rw [hrun es', hown, ← hrun es]
  · exact (agree_step he (m.run es)).conversation.symm

def partedTesters : List Event :=
  .start none :: connecting 0 1 ++ connecting 1 2 ++
    [.within 0 (.call (.request [0x3E, 0]) false), .within 1 (.call (.request [0x3E, 0]) false)] ++
    [Conversation.Event.advance 1, .advance 1, .advance 1, .advance 1].flatMap (fun e => [.within 0 e, .within 1 e]) ++
    [Conversation.Event.call .shutdown false, .advance 2, .advance 2, .advance 2, .advance 2, .advance 1, .advance 1,
      .arrive 0 .endOfStream].map (Event.within 0)

def secondTester : List Event :=
  .start none :: connecting 1 2 ++
    [Conversation.Event.call (.request [0x3E, 0]) false, .advance 1, .advance 1, .advance 1, .advance 1].map
      (Event.within 1)

/-- While the first of two testers is shut down, the second waits for its acknowledgement, as it does when the first
does nothing at all. -/
theorem waits_beside_shutdown :
    secondTester.filter (Event.concerns 1) = partedTesters.filter (Event.concerns 1) ∧
      (twoTesters.run partedTesters).conversations.map (·.state) = [.disconnected, .activated] ∧
      (twoTesters.run partedTesters).conversations.map (·.timer.waits) = [[], [{ key := 1, remaining := 2000 }]] ∧
      twoTesters.history 1 secondTester = twoTesters.history 1 partedTesters ∧
      (twoTesters.run secondTester).conversations[1]? = (twoTesters.run partedTesters).conversations[1]? ∧
      ((twoTesters.run partedTesters).step (.within 0 (.arrive 0 .failure))).conversations[1]? =
        (twoTesters.run partedTesters).conversations[1]? := by
  have hsame : secondTester.filter (Event.concerns 1) = partedTesters.filter (Event.concerns 1) := rfl
  obtain ⟨-, -, hown, hother⟩ := undisturbed twoTesters 1 partedTesters
  obtain ⟨hhistory, hrun⟩ := hown secondTester hsame
  exact ⟨hsame, by decide +kernel, by decide +kernel, hhistory, hrun, hother (.within 0 (.arrive 0 .failure)) rfl⟩

end Doip.Manager
