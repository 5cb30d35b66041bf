import Doip.Proofs.Conversation.Account
import Doip.Proofs.Conversation.Cancelled

/-! Calls from inside a runtime, which the worker refuses. Whatever else happens on the conversation, such a call never
gets past its submission, and all that its steps touch is the link, what the link reaches, and the timer
(`Confined.advance`). So a refused request changes nothing; a refused connect drops the link if there is one, whoever
has made it; and a refused disconnect, which always finds one, has cancelled what it reaches and stopped the timer
before it is refused, leaves the slot as it is, and still reports success (`refused_harmless_iff`). -/

namespace Doip

/-- The points of a call up to its submission, and behind a submission that was refused. -/
def Call.isConfined : Call → Bool
  | .connect _ _ .entered => true
  | .connect _ _ .checked => true
  | .connect _ _ (.submitting _) => true
  | .connect _ _ .refused => true
  | .disconnect .entered => true
  | .disconnect .stopping => true
  | .disconnect .submitting => true
  | .request _ .entered => true
  | .request _ .submitting => true
  | .returned _ => true
  | _ => false

def Call.isSubmitting : Call → Bool
  | .connect _ _ (.submitting _) => true
  | .disconnect .submitting => true
  | .request _ .submitting => true
  | _ => false

def Operation.isSubmitted : Operation → Bool
  | .connect _ _ => true
  | .disconnect => true
  | .request _ => true
  | .startup => false
  | .shutdown => false

def Outcome.isSuccess : Outcome → Bool
  | .connect .success => true
  | .disconnect .success => true
  | .request (.ok _) => true
  | _ => false

theorem Operation.isConfined_of {op : Operation} (h : op.isSubmitted = true) : (Call.of op).isConfined = true := by
  cases op <;> first | rfl | cases h

namespace Conversation

variable {w : Worker} {c : Conversation} {id : Nat} {op : Operation} {call : Call} {data : Bytes}
variable {target : Address} {host : Option IpAddress}

/-! What the steps of such a call do. -/

/-- What the next step of a call that the worker is not going to take does to the conversation. -/
def meddle (c : Conversation) : Call → Conversation
  | .connect _ _ .refused => { c with link := none }
  | .disconnect .entered => c.cutLink.getD c
  | .disconnect .stopping => { c with timer := c.timer.stop }
  | _ => c

def turnAway (c : Conversation) : Call → Call
  | .connect target host .entered => if c.running then .connect target host .checked else .returned (.connect .failed)
  | .connect target host .checked =>
    if c.state = .activated then .returned (.connect .alreadyConnected)
    else match c.resolve target host with
      | none => .returned (.connect .failed)
      | some endpoint => .connect target host (.submitting endpoint)
  | .connect target host (.submitting _) => .connect target host .refused
  | .connect _ _ .refused => .returned (.connect .failed)
  | .disconnect .entered => if c.link.isSome then .disconnect .stopping else .returned (.disconnect .failed)
  | .disconnect .stopping => .disconnect .submitting
  | .disconnect .submitting => .returned (.disconnect .success)
  | .request data .entered =>
    if data.isEmpty then .returned (.request (.error .emptyPayload))
    else if c.running then .request data .submitting
    else .returned (.request (.error .notConnected))
  | .request _ .submitting => .returned (.request (.error .cancelled))
  | call => call

theorem stepCall_inside (h : call.isConfined = true) (w : Worker) (id : Nat) (c : Conversation) :
    stepCall w id true c call = (c.meddle call, c.turnAway call) := by
  cases call with
  | connect target host point =>
    cases point with
    | entered => simp only [stepCall, stepConnect, turnAway]; split <;> rfl
    | checked =>
      simp only [stepCall, stepConnect, turnAway]
      split
      · rfl
      · cases c.resolve target host <;> rfl
    | submitting endpoint => rfl
    | refused => rfl
    | _ => cases h
  | disconnect point =>
    cases point with
    | entered =>
      simp only [stepCall, stepDisconnect, meddle, turnAway, cutLink]
      cases c.link <;> rfl
    | stopping => rfl
    | submitting => rfl
    | _ => cases h
  | request data point =>
    cases point with
    | entered =>
      simp only [stepCall, stepRequest, turnAway]
      split
      · rfl
      · split <;> rfl
    | submitting => rfl
    | _ => cases h
  | returned outcome => rfl
  | shutdown point => cases h
  | startup => cases h

theorem turnAway_confined (h : call.isConfined = true) (c : Conversation) : (c.turnAway call).isConfined = true := by
  unfold turnAway
  split <;> repeat' split
  all_goals first | rfl | exact h

/-- The call with the given number comes from inside a runtime and has not got past its submission. -/
def Confined (id : Nat) (c : Conversation) : Prop :=
  ∃ call, c.threads[id]? = some ⟨call, true⟩ ∧ call.isConfined = true

theorem confined_call (h : op.isSubmitted = true) (w : Worker) (c : Conversation) :
    Confined c.threads.length (c.apply w (.call op true)) :=
  ⟨.of op, List.getElem?_concat_length, Operation.isConfined_of h⟩

theorem dropped_confined (h : call.isConfined = true) : dropped ⟨call, true⟩ = ⟨call, true⟩ := by
  cases call with
  | connect target host point => cases point <;> first | rfl | cases h
  | disconnect point => cases point <;> first | rfl | cases h
  | request data point => cases point <;> first | rfl | cases h
  | _ => rfl

theorem Confined.apply (h : Confined id c) (w : Worker) (e : Event) : Confined id (c.apply w e) := by
  obtain ⟨call, ht, hcall⟩ := h
  cases e with
  | call operation inside =>
    exact ⟨call, (List.getElem?_append_left (List.getElem?_eq_some_iff.1 ht).1).trans ht, hcall⟩
  | advance j =>
    by_cases hj : j = id
    · subst hj
      refine ⟨c.turnAway call, (getElem?_advance ht).trans ?_, turnAway_confined hcall c⟩
      rw [stepCall_inside hcall]
    · exact ⟨call, (getElem?_advance_of_ne hj).trans ht, hcall⟩
  | dropTasks =>
    refine ⟨call, ?_, hcall⟩
    rw [Conversation.apply, dropTasks_threads, ht, Option.map_some, dropped_confined hcall]
  | _ => exact ⟨call, ht, hcall⟩

theorem Confined.play (h : Confined id c) (es : List (Worker × Event)) : Confined id (c.play es) :=
  List.foldlRecOn es _ h fun _ h p _ => h.apply p.1 p.2

/-- A step of a call that is not going to be taken leaves all but what it meddles with as it is. -/
theorem Confined.advance (h : Confined id c) : ∃ call, c.threads[id]? = some ⟨call, true⟩ ∧ call.isConfined = true ∧
    ∀ w, c.advance w id = { c.meddle call with threads := (c.advance w id).threads } := by
  obtain ⟨call, ht, hcall⟩ := h
  refine ⟨call, ht, hcall, fun w => ?_⟩
  rw [advance_eq ht, stepCall_inside hcall]

/-! From the first step of such a call to its end. -/

/-- A conversation with one call more, which comes from inside a runtime. -/
def callingInside (c : Conversation) (call : Call) : Conversation :=
  { c with threads := c.threads ++ [⟨call, true⟩] }

def stepInside (p : Conversation × Call) : Conversation × Call := (p.1.meddle p.2, p.1.turnAway p.2)

theorem threads_meddle (c : Conversation) (call : Call) : (c.meddle call).threads = c.threads := by
  unfold meddle
  split
  · rfl
  · unfold cutLink
    cases c.link <;> rfl
  · rfl
  · rfl

theorem meddle_callingInside (c : Conversation) (call call' : Call) :
    (c.callingInside call').meddle call = (c.meddle call).callingInside call' := by
  unfold meddle
  split
  · rfl
  · have hlink : (c.callingInside call').link = c.link := rfl
    unfold cutLink
    rw [hlink]
    cases c.link <;> rfl
  · rfl
  · rfl

theorem advance_callingInside (h : call.isConfined = true) (w : Worker) (c : Conversation) :
    (c.callingInside call).advance w c.threads.length = (c.meddle call).callingInside (c.turnAway call) := by
  have ht : (c.callingInside call).threads[c.threads.length]? = some ⟨call, true⟩ := List.getElem?_concat_length
  have hset : ∀ t, (c.callingInside call).threads.set c.threads.length t = c.threads ++ [t] := by
    intro t
    simp [callingInside]
  rw [advance_eq ht, hset, stepCall_inside h, meddle_callingInside]
  simp only [callingInside, threads_meddle]
  rfl

theorem repeat_advance (h : call.isConfined = true) (w : Worker) (c : Conversation) (n : Nat) :
    let p := Nat.repeat stepInside n (c, call)
    Nat.repeat (·.advance w c.threads.length) n (c.callingInside call) = p.1.callingInside p.2 ∧
      p.2.isConfined = true ∧ p.1.threads = c.threads := by
  induction n with
  | zero => exact ⟨rfl, h, rfl⟩
  | succ n ih =>
    obtain ⟨hrun, hconfined, hthreads⟩ := ih
    refine ⟨?_, turnAway_confined hconfined _, (threads_meddle _ _).trans hthreads⟩
    have hlast := advance_callingInside hconfined w (Nat.repeat stepInside n (c, call)).1
    rw [hthreads] at hlast
    rw [Nat.repeat, hrun, hlast]
    rfl

/-- A call from inside a runtime, with nothing in between; none takes more than four steps. -/
def callInside (w : Worker) (c : Conversation) (op : Operation) : Conversation :=
  Nat.repeat (·.advance w c.threads.length) 4 (c.apply w (.call op true))

theorem callInside_eq (hop : op.isSubmitted = true) (w : Worker) (c : Conversation) :
    c.callInside w op = (Nat.repeat stepInside 4 (c, .of op)).1.callingInside (Nat.repeat stepInside 4 (c, .of op)).2 :=
  (repeat_advance (Operation.isConfined_of hop) w c 4).1

/-! What the call has passed when it is submitted. -/

/-- A call from inside a runtime passes its checks and is submitted to the worker, which refuses it. -/
def Submits (w : Worker) (c : Conversation) (op : Operation) : Prop :=
  ∃ n t, (Nat.repeat (·.advance w c.threads.length) n (c.apply w (.call op true))).threads[c.threads.length]? =
    some t ∧ t.call.isSubmitting = true

def Comes (p : Conversation × Call) : Prop := ∃ n, (Nat.repeat stepInside n p).2.isSubmitting = true

theorem Submits.comes (hop : op.isSubmitted = true) (h : c.Submits w op) : Comes (c, .of op) := by
  obtain ⟨n, t, ht, hsubmitting⟩ := h
  obtain ⟨hrun, -, hthreads⟩ := repeat_advance (Operation.isConfined_of hop) w c n
  rw [show c.apply w (.call op true) = c.callingInside (.of op) from rfl, hrun, callingInside, hthreads,
    List.getElem?_concat_length] at ht
  cases ht
  exact ⟨n, hsubmitting⟩

theorem repeat_stepInside_succ (n : Nat) (p : Conversation × Call) :
    Nat.repeat stepInside (n + 1) p = Nat.repeat stepInside n (stepInside p) := by
  induction n with
  | zero => rfl
  | succ n ih => exact congrArg stepInside ih

theorem Comes.step (h : Comes (c, call)) (hnot : call.isSubmitting = false) :
    Comes (c.meddle call, c.turnAway call) := by
  obtain ⟨n, hn⟩ := h
  cases n with
  | zero => cases hnot.symm.trans hn
  | succ n => exact ⟨n, repeat_stepInside_succ n (c, call) ▸ hn⟩

theorem not_comes_returned (c : Conversation) (outcome : Outcome) : ¬ Comes (c, .returned outcome) := by
  rintro ⟨n, hn⟩
  have hstays : ∀ m, Nat.repeat stepInside m (c, .returned outcome) = (c, .returned outcome) := by
    intro m
    induction m with
    | zero => rfl
    | succ m ih => exact congrArg stepInside ih
  rw [hstays] at hn
  cases hn

theorem Comes.of_ite {p : Prop} [Decidable p] {outcome : Outcome}
    (h : Comes (c, if p then call else .returned outcome)) : p := by
  by_contra hp
  rw [if_neg hp] at h
  exact not_comes_returned c outcome h

theorem Comes.of_ite_not {p : Prop} [Decidable p] {outcome : Outcome}
    (h : Comes (c, if p then .returned outcome else call)) : ¬ p := by
  intro hp
  rw [if_pos hp] at h
  exact not_comes_returned c outcome h

def refusal (c : Conversation) : Operation → Conversation × Outcome
  | .connect _ _ => ({ c with link := none }, .connect .failed)
  | .disconnect => ({ c.cutLink.getD c with timer := c.timer.stop }, .disconnect .success)
  | .request _ => (c, .request (.error .cancelled))
  | _ => (c, .done)

theorem threads_refusal (c : Conversation) (op : Operation) : (c.refusal op).1.threads = c.threads := by
  cases op with
  | disconnect => exact threads_meddle c (.disconnect .entered)
  | _ => rfl

theorem Comes.connect (h : Comes (c, .of (.connect target host))) :
    Nat.repeat stepInside 4 (c, .of (.connect target host)) =
      ((c.refusal (.connect target host)).1, .returned (c.refusal (.connect target host)).2) := by
  have hentered : Comes (c, c.turnAway (.connect target host .entered)) := h.step rfl
  have hrunning : c.turnAway (.connect target host .entered) = .connect target host .checked := if_pos hentered.of_ite
  rw [hrunning] at hentered
  -- the state and the address are looked at in one step
  have hchecked : Comes (c, c.turnAway (.connect target host .checked)) := hentered.step rfl
  have hstate : c.turnAway (.connect target host .checked) = _ := if_neg hchecked.of_ite_not
  rw [hstate] at hchecked
  cases hto : c.resolve target host with
  | none =>
    rw [hto] at hchecked
    exact absurd hchecked (not_comes_returned c _)
  | some endpoint =>
    rw [hto] at hstate
    simp only [Nat.repeat, stepInside, Call.of, hrunning]
    simp only [meddle, hstate]
    rfl

theorem Comes.disconnect (h : Comes (c, .of .disconnect)) : c.link ≠ none ∧
    Nat.repeat stepInside 4 (c, .of .disconnect) =
      ((c.refusal .disconnect).1, .returned (c.refusal .disconnect).2) := by
  have hentered : Comes (c.meddle (.disconnect .entered), c.turnAway (.disconnect .entered)) := h.step rfl
  have hlink : c.link.isSome = true := hentered.of_ite
  have hcut : c.turnAway (.disconnect .entered) = .disconnect .stopping := if_pos hlink
  refine ⟨Option.isSome_iff_ne_none.1 hlink, ?_⟩
  obtain ⟨l, hl⟩ := Option.isSome_iff_exists.1 hlink
  simp only [Nat.repeat, stepInside, Call.of, hcut, meddle, refusal, cutLink, hl]
  rfl

theorem Comes.request (h : Comes (c, .of (.request data))) :
    Nat.repeat stepInside 4 (c, .of (.request data)) =
      ((c.refusal (.request data)).1, .returned (c.refusal (.request data)).2) := by
  have hentered : Comes (c, c.turnAway (.request data .entered)) := h.step rfl
  have hdata : c.turnAway (.request data .entered) = _ := if_neg hentered.of_ite_not
  rw [hdata] at hentered
  have hchecked : c.turnAway (.request data .entered) = .request data .submitting :=
    hdata.trans (if_pos hentered.of_ite)
  simp only [Nat.repeat, stepInside, Call.of, hchecked]
  rfl

theorem Submits.callInside (hop : op.isSubmitted = true) (h : c.Submits w op) :
    c.callInside w op = (c.refusal op).1.callingInside (.returned (c.refusal op).2) := by
  have hcomes := h.comes hop
  rw [callInside_eq hop]
  cases op with
  | connect target host => rw [hcomes.connect]
  | disconnect => rw [hcomes.disconnect.2]
  | request data => rw [hcomes.request]
  | startup => cases hop
  | shutdown => cases hop

/-- Link and slot, what shows of them, every connection and every wait are as before. -/
structure Untouched (c c' : Conversation) : Prop where
  link : c'.link = c.link
  slot : c'.slot = c.slot
  state : c'.state = c.state
  server : c'.serverAddress = c.serverAddress
  connections : c'.connections = c.connections
  timer : c'.timer = c.timer

theorem outcome?_callingInside (c : Conversation) (outcome : Outcome) :
    (c.callingInside (.returned outcome)).outcome? c.threads.length = some outcome := by
  have ht : (c.callingInside (.returned outcome)).threads[c.threads.length]? = some ⟨.returned outcome, true⟩ :=
    List.getElem?_concat_length
  exact (outcome?_eq_some_iff ht).2 rfl

/-- A call that the worker refuses because it comes from inside a runtime, on any conversation and whatever else is
under way there, leaves everything as it is and does not report success exactly when it is a request or there is no
link. A connect takes the link away; a disconnect has by then cancelled what the link reached and stopped the timer,
and reports success. Nor do its steps do more when others come in between. -/
theorem refused_harmless_iff (hop : op.isSubmitted = true) (h : c.Submits w op) :
    let id := c.threads.length
    let after := c.callInside w op
    ((c.Untouched after ∧ ∃ outcome, after.outcome? id = some outcome ∧ outcome.isSuccess = false) ↔
        (∃ data, op = .request data) ∨ c.link = none) ∧
      after = (c.refusal op).1.callingInside (.returned (c.refusal op).2) ∧
      ∀ es, let now := (c.apply w (.call op true)).play es
        ∃ call, now.threads[id]? = some ⟨call, true⟩ ∧ call.isConfined = true ∧
          ∀ w', now.advance w' id = { now.meddle call with threads := (now.advance w' id).threads } := by
  intro id after
  have hafter : after = (c.refusal op).1.callingInside (.returned (c.refusal op).2) := h.callInside hop
  have hid : id = (c.refusal op).1.threads.length := by rw [threads_refusal]
  have houtcome : after.outcome? id = some (c.refusal op).2 := by
    rw [hafter, hid]
    exact outcome?_callingInside _ _
  refine ⟨?_, hafter, fun es => ((confined_call hop w c).play es).advance⟩
  rw [houtcome, hafter]
  cases op with
  | connect target host =>
    constructor
    · rintro ⟨huntouched, -⟩
      exact .inr huntouched.link.symm
    · rintro (⟨data, hdata⟩ | hlink)
      · cases hdata
      · have hsame : { c with link := none } = c := by rw [← hlink]
        refine ⟨?_, _, rfl, rfl⟩
        rw [refusal, hsame]
        exact ⟨rfl, rfl, rfl, rfl, rfl, rfl⟩
  | disconnect =>
    constructor
    · rintro ⟨-, outcome, houtcome, hfails⟩
      cases houtcome
      cases hfails
    · rintro (⟨data, hdata⟩ | hlink)
      · cases hdata
      · exact absurd hlink (h.comes hop).disconnect.1
  | request data => exact iff_of_true ⟨⟨rfl, rfl, rfl, rfl, rfl, rfl⟩, _, rfl, rfl⟩ (.inl ⟨data, rfl⟩)
  | startup => cases hop
  | shutdown => cases hop

/-- Routing is activated, and a disconnect from inside a runtime is refused. -/
def abandoned : Conversation := (welcomed.advance {} 0).callInside {} .disconnect

/-- A refused disconnect has reported success, and the connection is still in the slot, where no link leads any more:
another disconnect finds none, and a connect takes it for one that is activated. -/
theorem refused_disconnect_strands :
    let now := welcomed.advance {} 0
    (now.Idle ∧ now.state = .activated ∧ now.slot = some 0) ∧
      ¬ (now.Untouched abandoned ∧ ∃ outcome, abandoned.outcome? 1 = some outcome ∧ outcome.isSuccess = false) ∧
      (abandoned.outcome? 1 = some (.disconnect .success) ∧ abandoned.link = none ∧ abandoned.slot = some 0) ∧
      ([Event.call .disconnect false, .advance 2].foldl (apply {}) abandoned).outcome? 2 =
        some (.disconnect .failed) ∧
      ([Event.call (.connect 0x1000 (some .localhost)) false, .advance 2, .advance 2, .advance 2,
        .advance 2].foldl (apply {}) abandoned).outcome? 2 = some (.connect .alreadyConnected) := by
  intro now
  have hnow : now.Idle ∧ now.state = .activated ∧ now.slot = some 0 := by
    simp only [now, welcomed_eq]
    exact ⟨List.forall_mem_singleton.2 ⟨_, rfl⟩, rfl, rfl⟩
  have hmade : now.Submits {} .disconnect ∧ now.threads.length = 1 ∧ now.link = some ⟨0, 0x1000⟩ := by
    simp only [now, welcomed_eq]
    exact ⟨⟨2, _, rfl, rfl⟩, rfl, rfl⟩
  obtain ⟨hsubmits, hid, hlink⟩ := hmade
  have hop : Operation.disconnect.isSubmitted = true := rfl
  obtain ⟨hharmless, -, -⟩ := refused_harmless_iff hop hsubmits
  rw [hid, hlink] at hharmless
  refine ⟨hnow, fun huntouched => ?_, ?_⟩
  · rcases hharmless.1 huntouched with ⟨data, hdata⟩ | hnone
    · cases hdata
    · cases hnone
  · rw [abandoned, welcomed_eq]
    exact ⟨⟨rfl, rfl, rfl⟩, rfl, rfl⟩

end Conversation
end Doip
