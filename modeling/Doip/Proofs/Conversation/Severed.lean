import Doip.Proofs.Conversation.Sequential

/-! A conversation whose worker has ended: it has no link, its slot is empty and no connection has a stream
(`Severed`). A conversation without a call under way comes to this when it is shut down, and stays there whatever is
called on it afterwards: each call fails in the same few ways (`Vain`), and nothing is written any more
(`Severed.step`). -/

namespace Doip

section Lists

variable {α β : Type} {l : List α} {f : α → α}

theorem forall_mem_modify {p : α → Prop} (h : ∀ a ∈ l, p a) (hf : ∀ a ∈ l, p (f a)) (i : Nat) :
    ∀ a ∈ l.modify i f, p a := by
  intro a ha
  obtain ⟨j, hj⟩ := List.mem_iff_getElem?.1 ha
  rw [List.getElem?_modify] at hj
  obtain ⟨b, hb, rfl⟩ := Option.map_eq_some_iff.1 hj
  have hmem := List.mem_of_getElem? hb
  split
  · exact hf b hmem
  · exact h b hmem

theorem map_modify_of_eq {g : α → β} (h : ∀ a ∈ l, g (f a) = g a) (i : Nat) : (l.modify i f).map g = l.map g := by
  refine List.ext_getElem? fun j => ?_
  rw [List.getElem?_map, List.getElem?_map, List.getElem?_modify]
  cases ha : l[j]? with
  | none => rfl
  | some a =>
    have hsame := h a (List.mem_of_getElem? ha)
    by_cases hi : i = j <;> simp [hi, hsame]

end Lists

/-- What was written on each socket of a connection, oldest first. -/
def Connection.sent (k : Connection) : List Bytes := (k.former ++ k.stream.toList).map (·.written)

/-- A machine whose last call is a shutdown is switched off and has no connection. -/
theorem Machine.Run.shut {start : Conversation} {m₀ m : Machine} {history : List (Operation × Outcome)}
    {outcome : Outcome} (h : Machine.Run start m₀ (history ++ [(.shutdown, outcome)]) m) :
    m = { running := false } := by
  generalize hall : history ++ [(Operation.shutdown, outcome)] = all at h
  induction h with
  | done => simp at hall
  | step hrun hstep ih =>
    obtain ⟨-, hlast⟩ := List.append_inj' hall rfl
    obtain ⟨rfl, rfl⟩ := Prod.mk.inj (List.singleton_inj.1 hlast)
    cases hstep
    rfl
  | lose hrun hsome ih =>
    rw [ih hall] at hsome
    cases hsome

namespace Conversation

variable {w : Worker} {id conn : Nat} {start c c' : Conversation} {k : Connection} {op : Operation} {call : Call}
variable {ops : List Operation} {data : Bytes} {e : Event}

/-- Every socket opened, and what was written on it. -/
def sent (c : Conversation) : List (List Bytes) := c.connections.map Connection.sent

structure Severed (c : Conversation) : Prop where
  link : c.link = none
  slot : c.slot = none
  streams : ∀ k ∈ c.connections, k.stream = none

/-- How a call ends that does not reach the network. -/
inductive Vain : Operation → Outcome → Prop
  | connect (target : Address) (host : Option IpAddress) : Vain (.connect target host) (.connect .failed)
  | disconnect : Vain .disconnect (.disconnect .failed)
  | requestEmpty : Vain (.request []) (.request (.error .emptyPayload))
  | requestStopped {data : Bytes} (h : data ≠ []) : Vain (.request data) (.request (.error .notConnected))
  | requestCancelled {data : Bytes} (h : data ≠ []) : Vain (.request data) (.request (.error .cancelled))
  | startup : Vain .startup .done
  | shutdown : Vain .shutdown .done

/-- Where a call that does not reach the network stands on its way. -/
inductive Aside : Operation → Call → Prop
  | made (op : Operation) : Aside op (.of op)
  | connect {target : Address} {host : Option IpAddress} {point : ConnectPoint}
      (h : point = .checked ∨ (∃ endpoint, point = .submitting endpoint) ∨ point = .refused) :
      Aside (.connect target host) (.connect target host point)
  | request {data : Bytes} (h : data ≠ []) : Aside (.request data) (.request data .submitting)
  | shutdown {point : ShutdownPoint} (h : point = .cancelling ∨ point = .releasing) :
      Aside .shutdown (.shutdown point)
  | ended {op : Operation} {outcome : Outcome} (h : Vain op outcome) : Aside op (.returned outcome)

theorem Aside.vain {outcome : Outcome} (h : Aside op (.returned outcome)) : Vain op outcome := by
  cases op <;> cases h <;> assumption

theorem Aside.returned (h : Aside op call) (hrank : call.rank = 0) : ∃ outcome, call = .returned outcome := by
  cases h with
  | made => cases op <;> simp [Call.of, Call.rank] at hrank
  | connect hpoint => rcases hpoint with rfl | ⟨endpoint, rfl⟩ | rfl <;> simp [Call.rank] at hrank
  | request hne => simp [Call.rank] at hrank
  | shutdown hpoint => rcases hpoint with rfl | rfl <;> simp [Call.rank] at hrank
  | ended hvain => exact ⟨_, rfl⟩

/-- A step leaves everything but the switch as it is and takes the call on, or ends it. -/
structure Passes (c : Conversation) (op : Operation) (rank : Nat) (r : Conversation × Call) : Prop where
  conversation : ∃ running, r.1 = { c with running }
  aside : Aside op r.2
  rank : r.2.rank ≤ rank - 1

theorem Passes.same {rank : Nat} (h : Aside op call) (hrank : call.rank ≤ rank - 1) : Passes c op rank (c, call) :=
  ⟨⟨c.running, rfl⟩, h, hrank⟩

theorem Passes.ends {rank : Nat} {outcome : Outcome} (h : Vain op outcome) :
    Passes c op rank (c, .returned outcome) :=
  .same (.ended h) (Nat.zero_le _)

theorem Severed.state (h : Severed c) : c.state = .disconnected := by
  unfold Conversation.state
  rw [h.link]
  rfl

theorem Severed.stepConnect (h : Severed c) (hw : w.cancelled = true) (id : Nat) {target : Address}
    {host : Option IpAddress} {point : ConnectPoint} (ha : Aside (.connect target host) (.connect target host point)) :
    Passes c (.connect target host) (Call.rank (.connect target host point))
      (stepConnect w id target host false c point) := by
  cases ha with
  | made =>
    simp only [Conversation.stepConnect]
    split
    · exact .same (.connect (.inl rfl)) (Nat.le_refl 8)
    · exact .ends (.connect target host)
  | connect hpoint =>
    rcases hpoint with rfl | ⟨endpoint, rfl⟩ | rfl
    · simp only [Conversation.stepConnect, h.state, reduceCtorEq, if_false]
      cases c.resolve target host with
      | none => exact .ends (.connect target host)
      | some endpoint => exact .same (.connect (.inr (.inl ⟨endpoint, rfl⟩))) (Nat.le_refl 7)
    · simp only [Conversation.stepConnect, Worker.submit, hw, Bool.false_eq_true, if_false, if_true]
      exact .same (.connect (.inr (.inr rfl))) (by decide : 1 ≤ 6)
    · have hsame : { c with link := none } = c := by rw [← h.link]
      simp only [Conversation.stepConnect, hsame]
      exact .ends (.connect target host)

theorem Severed.cutLink (h : Severed c) : c.cutLink = none := by
  rw [Conversation.cutLink, h.link]
  rfl

theorem Severed.stepRequest (hw : w.cancelled = true) (id : Nat) {point : RequestPoint}
    (ha : Aside (.request data) (.request data point)) :
    Passes c (.request data) (Call.rank (.request data point)) (stepRequest w id data false c point) := by
  cases ha with
  | made =>
    cases hdata : data with
    | nil => exact .ends .requestEmpty
    | cons b bs =>
      have hne : b :: bs ≠ [] := List.cons_ne_nil b bs
      simp only [Conversation.stepRequest, List.isEmpty_cons, Bool.false_eq_true, if_false]
      split
      · exact .same (.request hne) (Nat.le_refl 6)
      · exact .ends (.requestStopped hne)
  | request hne =>
    simp only [Conversation.stepRequest, Worker.submit, hw, Bool.false_eq_true, if_false, if_true]
    exact .ends (.requestCancelled hne)

theorem Severed.stepShutdown (h : Severed c) {point : ShutdownPoint} (ha : Aside .shutdown (.shutdown point)) :
    Passes c .shutdown (Call.rank (.shutdown point)) (stepShutdown c point) := by
  cases ha with
  | made =>
    simp only [Conversation.stepShutdown]
    split
    · exact ⟨⟨false, rfl⟩, .shutdown (.inl rfl), Nat.le_refl 3⟩
    · exact .ends .shutdown
  | shutdown hpoint =>
    rcases hpoint with rfl | rfl
    · simp only [Conversation.stepShutdown, h.cutLink]
      exact .same (.shutdown (.inr rfl)) (by decide : 1 ≤ 2)
    · simp only [Conversation.stepShutdown, h.slot]
      split
      · rename_i heq
        cases heq
      · exact .ends .shutdown

/-- Every step of a call leads nowhere. -/
theorem Severed.step (h : Severed c) (hw : w.cancelled = true) (id : Nat) (ha : Aside op call) :
    Passes c op call.rank (stepCall w id false c call) := by
  cases op with
  | connect target host =>
    cases ha with
    | made => exact h.stepConnect hw id (.made _)
    | connect hpoint => exact h.stepConnect hw id (.connect hpoint)
    | ended hvain => exact .ends hvain
  | disconnect =>
    cases ha with
    | made =>
      simp only [Call.of, stepCall, stepDisconnect, h.cutLink]
      exact .ends .disconnect
    | ended hvain => exact .ends hvain
  | request data =>
    cases ha with
    | made => exact Severed.stepRequest hw id (.made _)
    | request hne => exact Severed.stepRequest hw id (.request hne)
    | ended hvain => exact .ends hvain
  | startup =>
    cases ha with
    | made => exact ⟨⟨true, rfl⟩, .ended .startup, Nat.zero_le _⟩
    | ended hvain => exact .ends hvain
  | shutdown =>
    cases ha with
    | made => exact h.stepShutdown (.made _)
    | shutdown hpoint => exact h.stepShutdown (.shutdown hpoint)
    | ended hvain => exact .ends hvain

/-! A call that is made on it. -/

/-- The last of the calls leads nowhere, and has so many points before it at most; the others have ended. -/
structure Calls (c : Conversation) (ts : List Thread) (op : Operation) (call : Call) : Prop where
  threads : c.threads = ts ++ [{ call := call }]
  ended : ∀ t ∈ ts, ∃ outcome, t.call = .returned outcome
  aside : Aside op call

variable {ts : List Thread}

theorem Calls.make (hidle : c.Idle) (op : Operation) (w : Worker) :
    Calls (c.apply w (.call op false)) c.threads op (.of op) :=
  ⟨rfl, hidle, .made op⟩

theorem Calls.advance_of_ne (h : Calls c ts op call) (hid : id ≠ ts.length) (w : Worker) : c.advance w id = c := by
  refine advance_ended (fun t ht => ?_) w
  rw [h.threads] at ht
  rcases Nat.lt_or_gt_of_ne hid with hlt | hgt
  · rw [List.getElem?_append_left hlt] at ht
    exact h.ended t (List.mem_of_getElem? ht)
  · rw [List.getElem?_eq_none (by rw [List.length_append]; exact hgt)] at ht
    cases ht

theorem Calls.advance (h : Calls c ts op call) (hs : Severed c) (hw : w.cancelled = true) :
    ∃ running call', c.advance w ts.length = { c with running, threads := ts ++ [{ call := call' }] } ∧
      Aside op call' ∧ call'.rank ≤ call.rank - 1 := by
  obtain ⟨⟨running, hsame⟩, haside, hrank⟩ := hs.step hw ts.length h.aside
  refine ⟨running, _, ?_, haside, hrank⟩
  rw [advance_last h.threads, hsame]

/-! What comes from outside. -/

theorem sent_modifyConnection {f : Connection → Connection} (hf : ∀ k ∈ c.connections, (f k).sent = k.sent) :
    (c.modifyConnection conn f).sent = c.sent := map_modify_of_eq hf conn

theorem sent_map {f : Connection → Connection} (hf : ∀ k ∈ c.connections, (f k).sent = k.sent) :
    Conversation.sent { c with connections := c.connections.map f } = c.sent := by
  simp only [sent, List.map_map]
  exact List.map_congr_left hf

theorem Severed.map (h : Severed c) {f : Connection → Connection} (hf : ∀ k, k.stream = none → (f k).stream = none) :
    Severed { c with connections := c.connections.map f } := by
  refine ⟨h.link, h.slot, fun k hk => ?_⟩
  obtain ⟨k₀, hk₀, rfl⟩ := List.mem_map.1 hk
  exact hf k₀ (h.streams k₀ hk₀)

theorem Severed.modify (h : Severed c) {f : Connection → Connection}
    (hf : ∀ k, k.stream = none → (f k).stream = none) (conn : Nat) : Severed (c.modifyConnection conn f) :=
  ⟨h.link, h.slot, forall_mem_modify h.streams (fun k hk => hf k (h.streams k hk)) conn⟩

open Connection (OutsideStep)

/-- Without a stream nothing from outside adds to what was written. -/
theorem sent_of_outside {k k' : Connection} (h : OutsideStep k k') (hs : k.stream = none) : k'.sent = k.sent := by
  cases h with
  | dialled dial => rfl
  | arrive a => simp only [Connection.arrive, hs]
  | noticeClosed =>
    unfold Connection.noticeClosed
    split
    · simp [Connection.sent, hs]
    · rfl
  | sever => simp [Connection.sent, hs]
  | stopped => simp [Connection.sent, hs]

theorem Severed.outside (h : Severed c) {f : Connection → Connection} (hf : ∀ k, OutsideStep k (f k)) (conn : Nat) :
    Severed (c.modifyConnection conn f) ∧ (c.modifyConnection conn f).sent = c.sent :=
  ⟨h.modify (fun k => (hf k).persists.bare) conn,
    sent_modifyConnection fun k hk => sent_of_outside (hf k) (h.streams k hk)⟩

theorem Severed.network (h : Severed c) (he : e.isNetwork = true) (w : Worker) :
    Severed (c.apply w e) ∧ (c.apply w e).sent = c.sent := by
  cases e with
  | dialled j dial => exact h.outside (fun k => .dialled k dial) j
  | arrive j a => exact h.outside (fun k => .arrive k a) j
  | noticeClosed j => exact h.outside .noticeClosed j
  | sever j => exact h.outside .sever j
  | elapse ms => exact ⟨⟨h.link, h.slot, h.streams⟩, rfl⟩
  | call operation inside => cases he
  | advance id => cases he
  | shutDown => cases he
  | dropTasks => cases he

/-! How a conversation comes to this. -/

theorem Stands.waitOver_shutdown {m : Machine} (h : Stands start m id c .shutdown call) : c.waitOver = true := by
  have hwaits : c.timer.waits = [] := by
    cases h with
    | shutdownEntered h => exact h.waits
    | shutdownBare hpoint h => exact h.waits
    | shutdownCancelling h => exact h.waits
    | shutdownReleasing hpoint h => exact h.waits
  rw [Conversation.waitOver, hwaits]
  rfl

theorem Refines.advance_shutdown (h : Refines start c (ops ++ [.shutdown])) :
    Refines start (c.advance {} ops.length) (ops ++ [.shutdown]) ∧ (c.advance {} ops.length).points ≤ c.points - 1 := by
  refine ⟨h.advance _, ?_⟩
  generalize hall : ops ++ [Operation.shutdown] = all at h
  cases h with
  | idle hthreads hlen hrun h =>
    have hidle := idle_of_returned _ hthreads
    have hnone : (c.advance {} ops.length).points = 0 := by
      rw [advance_ended fun t ht => hidle t (List.mem_of_getElem? ht)]
      exact points_returned hthreads
    exact Nat.le_trans (Nat.le_of_eq hnone) (Nat.zero_le _)
  | busy hthreads hlen hrun h =>
    obtain ⟨rfl, hlast⟩ := List.append_inj' hall rfl
    obtain rfl := List.singleton_inj.1 hlast
    rw [hlen]
    exact Nat.le_sub_one_of_lt ((h.advance hthreads hlen hrun).2 h.waitOver_shutdown)

theorem Refines.fresh (settings : ConversationSettings) (version : UInt8) (servers : List ServerMapping)
    (running : Bool) :
    Refines { settings, version, servers, running } { settings, version, servers, running } [] := by
  let start : Conversation := { settings, version, servers, running }
  have hbare : Layout start start running none none none none [] :=
    ⟨rfl, rfl, rfl, rfl, rfl, rfl, rfl, rfl, rfl, fun i k hk => by cases hk⟩
  exact @Refines.idle start start [] [] _ rfl rfl (.done _) (.bare hbare)

/-- The shutdowns of a conversation at their points, and those that are over. -/
def Shuts (c : Conversation) (id : Nat) : Prop :=
  ∃ t, c.threads[id]? = some t ∧ ((∃ point, t.call = .shutdown point) ∨ ∃ outcome, t.call = .returned outcome)

theorem stepShutdown_sent (c : Conversation) (point : ShutdownPoint) : (stepShutdown c point).1.sent = c.sent := by
  have hclose : ∀ k ∈ c.connections, (Connection.close k).sent = k.sent := fun k _ => rfl
  have habandon : ∀ k ∈ c.connections, (Connection.abandon k).sent = k.sent := by
    intro k _
    cases hs : k.stream with
    | none => simp [Connection.sent, Connection.abandon, hs]
    | some s => simp [Connection.sent, Connection.abandon, Stream.release, hs]
  cases point with
  | entered =>
    simp only [stepShutdown]
    split <;> rfl
  | cancelling =>
    simp only [stepShutdown, cutLink]
    cases c.link with
    | none => rfl
    | some l => exact sent_modifyConnection hclose
  | stopping => rfl
  | releasing =>
    simp only [stepShutdown]
    split
    · exact sent_modifyConnection habandon
    · rfl

theorem stepShutdown_stays (c : Conversation) (point : ShutdownPoint) :
    (∃ point', (stepShutdown c point).2 = .shutdown point') ∨
      ∃ outcome, (stepShutdown c point).2 = .returned outcome := by
  cases point with
  | entered =>
    simp only [stepShutdown]
    split
    · exact .inl ⟨_, rfl⟩
    · exact .inr ⟨_, rfl⟩
  | cancelling =>
    simp only [stepShutdown]
    split <;> exact .inl ⟨_, rfl⟩
  | stopping => exact .inl ⟨_, rfl⟩
  | releasing =>
    simp only [stepShutdown]
    split <;> exact .inr ⟨_, rfl⟩

theorem Shuts.advance (h : Shuts c id) (w : Worker) : Shuts (c.advance w id) id ∧ (c.advance w id).sent = c.sent := by
  obtain ⟨⟨call, inside⟩, ht, hcall⟩ := h
  refine ⟨⟨_, getElem?_advance ht, ?_⟩, ?_⟩
  · rcases hcall with ⟨point, rfl⟩ | ⟨outcome, rfl⟩
    · exact stepShutdown_stays c point
    · exact .inr ⟨outcome, rfl⟩
  · rw [advance_eq ht]
    rcases hcall with ⟨point, rfl⟩ | ⟨outcome, rfl⟩
    · exact stepShutdown_sent c point
    · rfl

theorem Refines.repeat_shutdown (h : Refines start c (ops ++ [.shutdown])) (hs : Shuts c ops.length) (n : Nat) :
    let c' := Nat.repeat (·.advance {} ops.length) n c
    Refines start c' (ops ++ [.shutdown]) ∧ c'.points ≤ c.points - n ∧ Shuts c' ops.length ∧ c'.sent = c.sent := by
  induction n with
  | zero => exact ⟨h, Nat.le_refl _, hs, rfl⟩
  | succ n ih =>
    obtain ⟨hrefines, hpoints, hshuts, hsent⟩ := ih
    obtain ⟨hrefines', hpoints'⟩ := hrefines.advance_shutdown
    obtain ⟨hshuts', hsent'⟩ := hshuts.advance {}
    exact ⟨hrefines', Nat.le_trans hpoints' (Nat.sub_le_sub_right hpoints 1), hshuts', hsent'.trans hsent⟩

theorem Refines.shutdown (h : Refines start c ops) (hidle : c.Idle) :
    (c.shutdown {}).Idle ∧ Represents start (c.shutdown {}) { running := false } ∧ (c.shutdown {}).sent = c.sent := by
  obtain ⟨outcomes, m, hthreads, hlen, -, -⟩ := h.of_idle hidle
  have hid : c.threads.length = ops.length := by rw [hthreads, List.length_map, hlen]
  have hmade : Shuts (c.apply {} (.call .shutdown false)) ops.length := by
    rw [← hid]
    exact ⟨_, List.getElem?_concat_length, .inl ⟨.entered, rfl⟩⟩
  have hfour : (c.apply {} (.call .shutdown false)).points = 4 := by
    rw [points]
    show ((c.threads ++ [_]).getLast?.map _).getD 0 = 4
    rw [List.getLast?_concat]
    rfl
  obtain ⟨hrefines, hpoints, -, hsent⟩ := (h.call hidle .shutdown).repeat_shutdown hmade 4
  rw [← hid] at hrefines hpoints hsent
  have hended := hrefines.idle_of_points (by omega)
  obtain ⟨outcomes', m', -, hlen', hrun, hm⟩ := hrefines.of_idle hended
  have hzip : ∃ history outcome, (ops ++ [Operation.shutdown]).zip outcomes' = history ++ [(.shutdown, outcome)] := by
    rcases List.eq_nil_or_concat outcomes' with rfl | ⟨front, last, rfl⟩
    · simp at hlen'
    · rw [List.concat_eq_append, List.length_append, List.length_append] at hlen'
      rw [List.concat_eq_append, List.zip_append (Nat.add_right_cancel hlen')]
      exact ⟨_, last, rfl⟩
  obtain ⟨history, outcome, hzip⟩ := hzip
  rw [hzip] at hrun
  rw [hrun.shut] at hm
  exact ⟨hended, hm, hsent⟩

theorem Represents.severed (h : Represents start c { running := false }) : Severed c := by
  cases h with
  | bare h =>
    refine ⟨h.link, h.slot, fun k hk => ?_⟩
    obtain ⟨i, hi⟩ := List.mem_iff_getElem?.1 hk
    exact (h.others i k hi nofun).2

theorem dropAll_of_idle (hidle : c.Idle) (is : List Nat) : is.foldl dropTask c = c := by
  induction is with
  | nil => rfl
  | cons i is ih =>
    have hone : c.dropTask i = c := by
      unfold dropTask
      cases ht : c.threads[i]? with
      | none => rfl
      | some t =>
        obtain ⟨outcome, hcall⟩ := hidle t (List.mem_of_getElem? ht)
        simp only [hcall, droppedCall]
    rw [List.foldl_cons, hone, ih]

theorem Severed.dropTasks (h : Severed c) (hidle : c.Idle) :
    Severed c.dropTasks ∧ c.dropTasks.threads = c.threads ∧ c.dropTasks.sent = c.sent := by
  simp only [Conversation.dropTasks, dropAll_of_idle hidle]
  have hstopped := h.map (f := fun k => { k with stream := k.stream.map fun s => { s with receiving := false } })
    fun k hk => (OutsideStep.stopped k).persists.bare hk
  exact ⟨⟨hstopped.link, hstopped.slot, hstopped.streams⟩, trivial,
    sent_map fun k hk => sent_of_outside (.stopped k) (h.streams k hk)⟩

/-- A conversation without a call under way is shut down, and its worker ends. -/
theorem Refines.stop (h : Refines start c ops) (hidle : c.Idle) (w : Worker) :
    let c' := ((c.shutdown {}).apply w .shutDown).apply w .dropTasks
    Severed c' ∧ c'.Idle ∧ c'.sent = c.sent := by
  obtain ⟨hended, hshut, hsent⟩ := h.shutdown hidle
  have hclosed : Severed ((c.shutdown {}).apply w .shutDown) := hshut.severed.map fun k hk => hk
  obtain ⟨hs, hthreads, hsame⟩ := hclosed.dropTasks hended
  have hclosing : ((c.shutdown {}).apply w .shutDown).sent = (c.shutdown {}).sent :=
    sent_map (f := Connection.close) fun k _ => rfl
  exact ⟨hs, fun t ht => hended t (hthreads ▸ ht), hsame.trans (hclosing.trans hsent)⟩

end Conversation
end Doip
