import Doip.Proofs.Conversation.Severed
import Doip.Proofs.Manager.Run

/-! Runs in which one thread uses a manager and its conversations, with one call after the other (`Orderly`). The
manager goes through three stages and never back (`Stage`). Behind its first stop nothing is started, looked up or
discovered any more, and whatever is called on a conversation comes to its end without having reached the network
(`final`). -/

namespace Doip

namespace Manager

open Conversation (Severed Calls Vain Refines)

/-- No call is under way on any conversation. -/
def Idle (m : Manager) : Prop := ∀ c ∈ m.conversations, c.Idle

instance (m : Manager) : Decidable m.Idle := inferInstanceAs (Decidable (∀ c ∈ m.conversations, c.Idle))

/-- What happens without the thread. -/
def Event.outside : Event → Bool
  | .elapse _ => true
  | .within _ e => e.isNetwork
  | _ => false

/-- The thread, which is none of the worker's, begins something when nothing else is under way. -/
def Event.Orderly (m : Manager) : Event → Prop
  | .within _ (.call _ inside) => m.Idle ∧ inside = false
  | .within _ (.advance _) => True
  | .within _ e => e.isNetwork = true
  | .elapse _ => True
  | _ => m.Idle

instance (m : Manager) (e : Event) : Decidable (e.Orderly m) :=
  match e with
  | .within _ (.call _ inside) => inferInstanceAs (Decidable (m.Idle ∧ inside = false))
  | .within _ (.advance _) => isTrue trivial
  | .within _ (.dialled _ _) => isTrue rfl
  | .within _ (.arrive _ _) => isTrue rfl
  | .within _ (.noticeClosed _) => isTrue rfl
  | .within _ (.sever _) => isTrue rfl
  | .within _ (.elapse _) => isTrue rfl
  | .within _ .shutDown => isFalse nofun
  | .within _ .dropTasks => isFalse nofun
  | .elapse _ => isTrue trivial
  | .start _ => inferInstanceAs (Decidable m.Idle)
  | .stop => inferInstanceAs (Decidable m.Idle)
  | .discover _ _ _ => inferInstanceAs (Decidable m.Idle)

def Orderly (m : Manager) : List Event → Prop
  | [] => True
  | e :: es => e.Orderly m ∧ (m.step e).Orderly es

instance Orderly.decidable (m : Manager) : (es : List Event) → Decidable (m.Orderly es)
  | [] => isTrue trivial
  | e :: es =>
    have := Orderly.decidable (m.step e) es
    inferInstanceAs (Decidable (e.Orderly m ∧ (m.step e).Orderly es))

variable {m : Manager} {c : Conversation} {w : Worker} {e : Event} {es es' : List Event}

theorem Orderly.append (h : m.Orderly (es ++ es')) : m.Orderly es ∧ (m.run es).Orderly es' := by
  induction es generalizing m with
  | nil => exact ⟨trivial, h⟩
  | cons e es ih =>
    obtain ⟨hfirst, hrest⟩ := ih h.2
    exact ⟨⟨h.1, hfirst⟩, hrest⟩

/-! A conversation behind the stop. -/

inductive Fenced (c : Conversation) : Prop
  | idle (h : Severed c) (hidle : c.Idle)
  | busy {ts : List Thread} {op : Operation} {call : Call} (h : Severed c) (hcalls : Calls c ts op call)

theorem Fenced.severed (h : Fenced c) : Severed c := by
  cases h with
  | idle h hidle => exact h
  | busy h hcalls => exact h

theorem Fenced.network {e : Conversation.Event} (h : Fenced c) (he : e.isNetwork = true) (w : Worker) :
    Fenced (c.apply w e) ∧ (c.apply w e).sent = c.sent := by
  obtain ⟨hs, hsent⟩ := h.severed.network he w
  have hthreads := Conversation.apply_network_threads he w c
  refine ⟨?_, hsent⟩
  cases h with
  | idle h hidle => exact .idle hs fun t ht => hidle t (hthreads ▸ ht)
  | busy h hcalls => exact .busy hs ⟨hthreads.trans hcalls.threads, hcalls.ended, hcalls.aside⟩

theorem Fenced.advance (h : Fenced c) (hw : w.cancelled = true) (id : Nat) :
    Fenced (c.advance w id) ∧ (c.advance w id).sent = c.sent := by
  cases h with
  | idle h hidle =>
    rw [Conversation.advance_ended fun t ht => hidle t (List.mem_of_getElem? ht)]
    exact ⟨.idle h hidle, rfl⟩
  | busy h hcalls =>
    rename_i ts op call
    by_cases hid : id = ts.length
    · obtain ⟨running, call', hsame, haside, -⟩ := hcalls.advance h hw
      rw [hid, hsame]
      exact ⟨.busy ⟨h.link, h.slot, h.streams⟩ ⟨rfl, hcalls.ended, haside⟩, rfl⟩
    · rw [hcalls.advance_of_ne hid w]
      exact ⟨.busy h hcalls, rfl⟩

theorem Fenced.call (h : Fenced c) (hidle : c.Idle) (op : Operation) (w : Worker) :
    Fenced (c.apply w (.call op false)) ∧ (c.apply w (.call op false)).sent = c.sent :=
  ⟨.busy ⟨h.severed.link, h.severed.slot, h.severed.streams⟩ (.make hidle op w), rfl⟩

/-! A manager behind the stop. -/

structure Over (m : Manager) : Prop where
  lifecycle : m.lifecycle = .shutDown
  /-- A manager that was stopped before it was started has a worker that lives, and no conversations. -/
  conversations : ∀ c ∈ m.conversations, m.worker.cancelled = true ∧ Fenced c

/-- What every event leaves as it is. -/
structure Keeps (m m' : Manager) : Prop where
  sent : m'.conversations.map Conversation.sent = m.conversations.map Conversation.sent
  vehicles : m'.vehicles = m.vehicles

theorem Keeps.refl (m : Manager) : Keeps m m := ⟨rfl, rfl⟩

theorem Keeps.trans {m' m'' : Manager} (h : Keeps m m') (h' : Keeps m' m'') : Keeps m m'' :=
  ⟨h'.sent.trans h.sent, h'.vehicles.trans h.vehicles⟩

theorem Over.launch (h : Over m) (fault : Option String) : m.launch fault = .error .shutDown := by
  simp only [Manager.launch, start, h.lifecycle]

theorem Over.stop (h : Over m) : m.stop = m := by
  obtain ⟨config, lifecycle, worker, conversations, vehicles⟩ := m
  obtain rfl : lifecycle = .shutDown := h.lifecycle
  rfl

theorem Over.conversation (h : Over m) (name : String) : m.conversation name = .error .shutDown := by
  simp only [Manager.conversation, h.lifecycle]

theorem Over.discover (h : Over m) (network : Network) (filter : Filter) (answers : Bytes → List Datagram) :
    m.discover network filter answers = (m, .error .cancelled) := by
  simp [Manager.discover, identificationRequest, isRunning, h.lifecycle]

theorem Over.within (h : Over m) {f : Conversation → Conversation}
    (hf : ∀ c ∈ m.conversations, Fenced (f c) ∧ (f c).sent = c.sent) (i : Nat) :
    Over { m with conversations := m.conversations.modify i f } ∧
      Keeps m { m with conversations := m.conversations.modify i f } :=
  ⟨⟨h.lifecycle, forall_mem_modify h.conversations (fun c hc => ⟨(h.conversations c hc).1, (hf c hc).1⟩) i⟩,
    ⟨map_modify_of_eq (fun c hc => (hf c hc).2) i, rfl⟩⟩

theorem Over.step (h : Over m) (he : e.Orderly m) : Over (m.step e) ∧ Keeps m (m.step e) := by
  cases e with
  | start fault =>
    simp only [Manager.step, h.launch]
    exact ⟨h, .refl m⟩
  | stop =>
    rw [Manager.step, h.stop]
    exact ⟨h, .refl m⟩
  | discover network filter answers =>
    rw [Manager.step, h.discover]
    exact ⟨h, .refl m⟩
  | elapse ms =>
    have hone : ∀ c ∈ m.conversations,
        Fenced (c.apply m.worker (.elapse ms)) ∧ (c.apply m.worker (.elapse ms)).sent = c.sent :=
      fun c hc => (h.conversations c hc).2.network rfl m.worker
    refine ⟨⟨h.lifecycle, fun c hc => ?_⟩, ⟨?_, rfl⟩⟩
    · obtain ⟨c₀, hc₀, rfl⟩ := List.mem_map.1 hc
      exact ⟨(h.conversations c₀ hc₀).1, (hone c₀ hc₀).1⟩
    · simp only [Manager.step, List.map_map]
      exact List.map_congr_left fun c hc => (hone c hc).2
  | within i e =>
    refine h.within (fun c hc => ?_) i
    obtain ⟨hw, hfenced⟩ := h.conversations c hc
    cases e with
    | call op inside =>
      obtain ⟨hidle, rfl⟩ := he
      exact hfenced.call (hidle c hc) op m.worker
    | advance id => exact hfenced.advance hw id
    | dialled j dial => exact hfenced.network rfl m.worker
    | arrive j a => exact hfenced.network rfl m.worker
    | noticeClosed j => exact hfenced.network rfl m.worker
    | sever j => exact hfenced.network rfl m.worker
    | elapse ms => exact hfenced.network rfl m.worker
    | shutDown => cases he
    | dropTasks => cases he

theorem Over.run (h : Over m) (hes : m.Orderly es) : Over (m.run es) ∧ Keeps m (m.run es) := by
  induction es generalizing m with
  | nil => exact ⟨h, .refl m⟩
  | cons e es ih =>
    obtain ⟨hone, hkeeps⟩ := h.step hes.1
    obtain ⟨hall, hkeeps'⟩ := ih hone hes.2
    exact ⟨hall, hkeeps.trans hkeeps'⟩

/-! The stages of a manager. -/

inductive Stage (m : Manager) : Prop
  | created (hlife : m.lifecycle = .created) (hworker : m.worker = {}) (hnone : m.conversations = [])
  | running (hlife : m.lifecycle = .running) (hworker : m.worker = {})
      (h : ∀ c ∈ m.conversations, ∃ start ops, Refines start c ops)
  | stopped (h : Over m)

theorem Stage.launch (h : Stage m) (fault : Option String) : Stage (m.step (.start fault)) := by
  cases h with
  | created hlife hworker hnone =>
    cases fault with
    | some cause =>
      simp only [Manager.step, Manager.launch, hlife]
      exact .created hlife hworker hnone
    | none =>
      simp only [Manager.step, Manager.launch, start, hlife]
      refine .running rfl hworker fun c hc => ?_
      obtain ⟨settings, -, rfl⟩ := List.mem_map.1 hc
      exact ⟨_, [], .fresh settings m.config.version m.config.servers true⟩
  | running hlife hworker h =>
    simp only [Manager.step, Manager.launch, start, hlife]
    exact .running hlife hworker h
  | stopped h =>
    simp only [Manager.step, h.launch]
    exact .stopped h

theorem Stage.stop (h : Stage m) (hidle : m.Idle) : Over m.stop ∧ Keeps m m.stop := by
  cases h with
  | created hlife hworker hnone =>
    simp only [Manager.stop, hlife]
    exact ⟨⟨rfl, fun c hc => absurd hc (by simp [hnone])⟩, ⟨rfl, rfl⟩⟩
  | running hlife hworker h =>
    have hone : ∀ c ∈ m.conversations,
        let c' := ((c.shutdown m.worker).apply m.worker.stop .shutDown).apply m.worker.stop .dropTasks
        Severed c' ∧ c'.Idle ∧ c'.sent = c.sent := by
      intro c hc
      obtain ⟨start, ops, hrefines⟩ := h c hc
      rw [hworker]
      exact hrefines.stop (hidle c hc) _
    simp only [Manager.stop, hlife]
    refine ⟨⟨rfl, fun c hc => ?_⟩, ⟨?_, rfl⟩⟩
    · obtain ⟨c₀, hc₀, rfl⟩ := List.mem_map.1 hc
      obtain ⟨hs, hended, -⟩ := hone c₀ hc₀
      exact ⟨rfl, .idle hs hended⟩
    · rw [List.map_map]
      exact List.map_congr_left fun c hc => (hone c hc).2.2
  | stopped h =>
    rw [h.stop]
    exact ⟨h, .refl m⟩

theorem Stage.discover (h : Stage m) (network : Network) (filter : Filter) (answers : Bytes → List Datagram) :
    Stage (m.discover network filter answers).1 := by
  unfold Manager.discover
  split
  · exact h
  · cases h with
    | created hlife hworker hnone => exact .created hlife hworker hnone
    | running hlife hworker h => exact .running hlife hworker h
    | stopped h => exact .stopped ⟨h.lifecycle, h.conversations⟩

theorem Stage.step (h : Stage m) (he : e.Orderly m) : Stage (m.step e) := by
  cases e with
  | start fault => exact h.launch fault
  | stop => exact .stopped (h.stop he).1
  | discover network filter answers => exact h.discover network filter answers
  | elapse ms =>
    cases h with
    | created hlife hworker hnone => exact .created hlife hworker (by simp only [Manager.step, hnone, List.map_nil])
    | running hlife hworker h =>
      refine .running hlife hworker fun c hc => ?_
      obtain ⟨c₀, hc₀, rfl⟩ := List.mem_map.1 hc
      obtain ⟨start, ops, hrefines⟩ := h c₀ hc₀
      rw [hworker]
      exact ⟨start, ops, hrefines.network rfl⟩
    | stopped h => exact .stopped (h.step he).1
  | within i e =>
    cases h with
    | created hlife hworker hnone =>
      exact .created hlife hworker (by simp only [Manager.step, apply, hnone, List.modify_nil])
    | running hlife hworker h =>
      refine .running hlife hworker (forall_mem_modify h (fun c hc => ?_) i)
      obtain ⟨start, ops, hrefines⟩ := h c hc
      rw [hworker]
      cases e with
      | call op inside =>
        obtain ⟨hidle, rfl⟩ := he
        exact ⟨start, _, hrefines.call (hidle c hc) op⟩
      | advance id => exact ⟨start, ops, hrefines.advance id⟩
      | dialled j dial => exact ⟨start, ops, hrefines.network rfl⟩
      | arrive j a => exact ⟨start, ops, hrefines.network rfl⟩
      | noticeClosed j => exact ⟨start, ops, hrefines.network rfl⟩
      | sever j => exact ⟨start, ops, hrefines.network rfl⟩
      | elapse ms => exact ⟨start, ops, hrefines.network rfl⟩
      | shutDown => cases he
      | dropTasks => cases he
    | stopped h => exact .stopped (h.step he).1

theorem Stage.run (h : Stage m) (hes : m.Orderly es) : Stage (m.run es) := by
  induction es generalizing m with
  | nil => exact h
  | cons e es ih => exact ih (h.step hes.1) hes.2

/-! Every call comes to its end. -/

/-- A call on one of the conversations leads nowhere and has so many points before it at most; no other is under
way. -/
structure Owes (m : Manager) (i : Nat) (ts : List Thread) (op : Operation) (rank : Nat) : Prop where
  worker : m.worker.cancelled = true
  own : ∃ c call, m.conversations[i]? = some c ∧ Severed c ∧ Calls c ts op call ∧ call.rank ≤ rank
  others : ∀ (j : Nat) (c : Conversation), j ≠ i → m.conversations[j]? = some c → c.Idle

variable {i rank : Nat} {ts : List Thread} {op : Operation}

/-- What happens without the thread happens to each conversation by itself. -/
theorem step_outside (he : e.outside = true) (m : Manager) (j : Nat) :
    (m.step e).worker = m.worker ∧ ∃ f : Conversation → Conversation,
      (m.step e).conversations[j]? = m.conversations[j]?.map f ∧
        ∀ c, f c = c ∨ ∃ e' : Conversation.Event, e'.isNetwork = true ∧ f c = c.apply m.worker e' := by
  cases e with
  | elapse ms => exact ⟨rfl, _, List.getElem?_map, fun c => .inr ⟨.elapse ms, rfl, rfl⟩⟩
  | within i e =>
    refine ⟨rfl, _, List.getElem?_modify _ _ _ _, fun c => ?_⟩
    split
    · exact .inr ⟨e, he, rfl⟩
    · exact .inl rfl
  | start fault => cases he
  | stop => cases he
  | discover network filter answers => cases he

theorem Owes.outside (h : m.Owes i ts op rank) (he : e.outside = true) : (m.step e).Owes i ts op rank := by
  obtain ⟨c, call, hc, hs, hcalls, hrank⟩ := h.own
  refine ⟨(step_outside he m i).1 ▸ h.worker, ?_, fun j c' hj hc' => ?_⟩
  · obtain ⟨-, f, hf, hchange⟩ := step_outside he m i
    rw [hc, Option.map_some] at hf
    rcases hchange c with hsame | ⟨e', he', hsame⟩
    · exact ⟨f c, call, hf, by rwa [hsame], by rwa [hsame], hrank⟩
    · have hthreads := Conversation.apply_network_threads he' m.worker c
      rw [hsame] at hf
      exact ⟨_, call, hf, (hs.network he' m.worker).1,
        ⟨hthreads.trans hcalls.threads, hcalls.ended, hcalls.aside⟩, hrank⟩
  · obtain ⟨-, f, hf, hchange⟩ := step_outside he m j
    rw [hf] at hc'
    obtain ⟨c₀, hc₀, rfl⟩ := Option.map_eq_some_iff.1 hc'
    have hidle := h.others j c₀ hj hc₀
    rcases hchange c₀ with hsame | ⟨e', he', hsame⟩
    · rwa [hsame]
    · rw [hsame]
      intro t ht
      exact hidle t (Conversation.apply_network_threads he' m.worker c₀ ▸ ht)

theorem Owes.advance (h : m.Owes i ts op rank) :
    (m.step (.within i (.advance ts.length))).Owes i ts op (rank - 1) := by
  obtain ⟨c, call, hc, hs, hcalls, hrank⟩ := h.own
  obtain ⟨running, call', hsame, haside, hrank'⟩ := hcalls.advance hs h.worker
  refine ⟨h.worker, ⟨{ c with running, threads := ts ++ [{ call := call' }] }, call', ?_, ?_, ?_, ?_⟩, ?_⟩
  · have hown : (m.step (.within i (.advance ts.length))).conversations[i]? = some (c.advance m.worker ts.length) := by
      simp only [Manager.step, Manager.apply, List.getElem?_modify_eq, hc]
      rfl
    rw [hown, hsame]
  · exact ⟨hs.link, hs.slot, hs.streams⟩
  · exact ⟨rfl, hcalls.ended, haside⟩
  · exact Nat.le_trans hrank' (Nat.sub_le_sub_right hrank 1)
  · intro j c' hj hc'
    exact h.others j c' hj ((List.getElem?_modify_ne _ _ hj.symm).symm.trans hc')

/-- In each round something happens without the thread, and then its call takes a step. -/
def rounds (i id : Nat) (rs : List (List Event)) : List Event := rs.flatMap (· ++ [.within i (.advance id)])

theorem Owes.events (h : m.Owes i ts op rank) (hes : ∀ e ∈ es, e.outside = true) : (m.run es).Owes i ts op rank := by
  induction es generalizing m with
  | nil => exact h
  | cons e es ih =>
    exact ih (h.outside (hes e List.mem_cons_self)) fun e' he' => hes e' (List.mem_cons_of_mem e he')

theorem Owes.rounds (h : m.Owes i ts op rank) {rs : List (List Event)}
    (hrs : ∀ r ∈ rs, ∀ e ∈ r, e.outside = true) :
    (m.run (Manager.rounds i ts.length rs)).Owes i ts op (rank - rs.length) := by
  induction rs generalizing m rank with
  | nil => exact h
  | cons r rs ih =>
    have hone := (h.events (hrs r List.mem_cons_self)).advance
    have hrest := ih hone fun r' hr' => hrs r' (List.mem_cons_of_mem r hr')
    rw [Manager.rounds, List.flatMap_cons, run_append, run_append, List.length_cons, Nat.add_comm, ← Nat.sub_sub]
    exact hrest

theorem Owes.make (h : Over m) (hidle : m.Idle) (hc : m.conversations[i]? = some c) (op : Operation) :
    (m.step (.within i (.call op false))).Owes i c.threads op 9 := by
  obtain ⟨hw, hfenced⟩ := h.conversations c (List.mem_of_getElem? hc)
  have hs := hfenced.severed
  refine ⟨hw, ⟨c.apply m.worker (.call op false), .of op, ?_, ⟨hs.link, hs.slot, hs.streams⟩,
    .make (hidle c (List.mem_of_getElem? hc)) op m.worker, Call.rank_le _⟩, fun j c' hj hc' => ?_⟩
  · simp only [Manager.step, Manager.apply, List.getElem?_modify_eq, hc]
    rfl
  · exact hidle c' (List.mem_of_getElem? ((List.getElem?_modify_ne _ _ hj.symm).symm.trans hc'))

/-- What the call has come to, if it has, and that it has when it has no point before it. -/
theorem Owes.outcome (h : m.Owes i ts op rank) : ∃ c, m.conversations[i]? = some c ∧
    (∀ outcome, c.outcome? ts.length = some outcome → Vain op outcome) ∧
    (rank = 0 → m.Idle ∧ ∃ outcome, c.outcome? ts.length = some outcome) := by
  obtain ⟨c, call, hc, -, hcalls, hrank⟩ := h.own
  have ht : c.threads[ts.length]? = some { call := call } := by
    rw [hcalls.threads]
    exact List.getElem?_concat_length
  refine ⟨c, hc, fun outcome hout => ?_, fun hzero => ?_⟩
  · obtain rfl : call = .returned outcome := (Conversation.outcome?_eq_some_iff ht).1 hout
    exact hcalls.aside.vain
  · obtain ⟨outcome, rfl⟩ := hcalls.aside.returned (by omega)
    refine ⟨fun c' hc' => ?_, outcome, (Conversation.outcome?_eq_some_iff ht).2 rfl⟩
    obtain ⟨j, hj⟩ := List.mem_iff_getElem?.1 hc'
    by_cases hij : j = i
    · rw [hij, hc] at hj
      obtain rfl := Option.some.inj hj
      intro t ht'
      rw [hcalls.threads] at ht'
      rcases List.mem_append.1 ht' with hold | hlast
      · exact hcalls.ended t hold
      · obtain rfl := List.mem_singleton.1 hlast
        exact ⟨outcome, rfl⟩
    · exact h.others j c' hij hj

/-- Used by one thread, a manager is started at most once. Behind its first stop, whatever is called or happens, every
start and every lookup finds it shut down, a discovery is cancelled and leaves the known vehicles as they are, a stop
changes nothing, every conversation shows as disconnected, and no socket is opened or written to. A call on a
conversation ends without having reached the network, at the latest in the ninth round. -/
theorem final (config : Config) :
    (∀ es, starts { config } es ≤ 1) ∧
    ∀ before after : List Event, Orderly { config } (before ++ .stop :: after) →
      let m := run { config } before
      let m' := m.run (.stop :: after)
      (∀ fault, m'.launch fault = .error .shutDown) ∧
      (∀ name, m'.conversation name = .error .shutDown) ∧
      (∀ network filter answers, m'.discover network filter answers = (m', .error .cancelled)) ∧
      m'.stop = m' ∧
      m'.vehicles = m.vehicles ∧
      m'.conversations.map Conversation.sent = m.conversations.map Conversation.sent ∧
      (∀ c ∈ m'.conversations, c.state = .disconnected) ∧
      ∀ (i : Nat) (c : Conversation) (op : Operation) (rs : List (List Event)), m'.Idle →
        m'.conversations[i]? = some c → (∀ r ∈ rs, ∀ e ∈ r, e.outside = true) →
        let m'' := (m'.step (.within i (.call op false))).run (rounds i c.threads.length rs)
        ∃ c'', m''.conversations[i]? = some c'' ∧
          (∀ outcome, c''.outcome? c.threads.length = some outcome → Vain op outcome) ∧
          (9 ≤ rs.length → m''.Idle ∧ ∃ outcome, c''.outcome? c.threads.length = some outcome) := by
  refine ⟨starts_le_one _, fun before after horderly => ?_⟩
  intro m m'
  obtain ⟨hbefore, hidle, hafter⟩ := horderly.append
  have hstage : Stage m := Stage.run (.created rfl rfl rfl) hbefore
  obtain ⟨hstopped, hkeeps⟩ := hstage.stop hidle
  obtain ⟨hover, hkeeps'⟩ := hstopped.run hafter
  obtain ⟨hsent, hvehicles⟩ := hkeeps.trans hkeeps'
  refine ⟨hover.launch, hover.conversation, hover.discover, hover.stop, hvehicles, hsent,
    fun c hc => (hover.conversations c hc).2.severed.state, fun i c op rs hcalm hc hrs => ?_⟩
  obtain ⟨c'', hc'', hvain, hends⟩ := ((Owes.make hover hcalm hc op).rounds hrs).outcome
  exact ⟨c'', hc'', hvain, fun hnine => hends (Nat.sub_eq_zero_of_le hnine)⟩

/-- The first of two testers connects; behind the stop it is switched on again, and the manager is started and stopped
once more. -/
def stoppedTwice : List Event × List Event :=
  (.start none :: connecting 0 1, [.within 0 (.call .startup false), .within 0 (.advance 2), .start none, .stop])

/-- A connect behind the stop fails, and no more has been written than before it. -/
theorem connect_after_stop :
    let m := run twoTesters stoppedTwice.1
    let m' := m.run (.stop :: stoppedTwice.2)
    let connect : Operation := .connect 0xFA25 none
    Orderly twoTesters (stoppedTwice.1 ++ .stop :: stoppedTwice.2) ∧ m'.Idle ∧
      m.conversations.map (·.state) = [.activated, .disconnected] ∧ m'.conversations.map (·.running) = [true, false] ∧
      starts twoTesters (stoppedTwice.1 ++ .stop :: stoppedTwice.2) = 1 ∧
      m'.launch none = .error .shutDown ∧
      m'.conversations.map Conversation.sent = m.conversations.map Conversation.sent ∧
      (∀ c ∈ m'.conversations, c.state = .disconnected) ∧
      ∃ (c : Conversation) (outcome : Outcome), c.outcome? 3 = some outcome ∧ Vain connect outcome ∧
        ((m'.step (.within 0 (.call connect false))).run
          (rounds 0 3 (List.replicate 9 [.elapse 1]))).conversations[0]? = some c := by
  intro m m' connect
  have horderly : Orderly twoTesters (stoppedTwice.1 ++ .stop :: stoppedTwice.2) := by decide +kernel
  have hidle : m'.Idle := by decide +kernel
  obtain ⟨-, hfinal⟩ := final twoTesters.config
  obtain ⟨hlaunch, -, -, -, -, hsent, hstate, hcalls⟩ := hfinal stoppedTwice.1 stoppedTwice.2 horderly
  refine ⟨horderly, hidle, by decide +kernel, by decide +kernel, by decide +kernel, hlaunch none, hsent, hstate, ?_⟩
  obtain ⟨c, hc⟩ : ∃ c, m'.conversations[0]? = some c := Option.isSome_iff_exists.1 (by decide +kernel)
  have hthreads : c.threads.length = 3 := by
    have hlengths : (m'.conversations[0]?.map (·.threads.length)) = some 3 := by decide +kernel
    rw [hc] at hlengths
    exact Option.some.inj hlengths
  obtain ⟨c', hc', hvain, hends⟩ := hcalls 0 c connect (List.replicate 9 [.elapse 1]) hidle hc (by
    intro r hr e he
    obtain rfl := (List.mem_replicate.1 hr).2
    obtain rfl := List.mem_singleton.1 he
    rfl)
  rw [hthreads] at hc' hvain hends
  obtain ⟨-, outcome, hout⟩ := hends (Nat.le_refl 9)
  exact ⟨c', outcome, hout, hvain outcome hout, hc'⟩

end Manager
end Doip
