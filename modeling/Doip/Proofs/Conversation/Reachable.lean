import Doip.Proofs.Timer
import Doip.Proofs.Conversation.Moves

/-! What holds of every conversation that events can bring about (`Reachable.sound`): the owner of each
connection attends to it, and the timer knows exactly the waits of the calls that wait. -/

namespace Doip

def Call.isWaiting : Call → Bool
  | .connect _ _ (.waiting _ _ _) => true
  | .request _ (.waiting _ _) => true
  | _ => false

namespace Conversation

/-- The conversations that events can bring about; the worker may be shut down at any time. -/
inductive Reachable : Conversation → Prop
  | fresh (settings : ConversationSettings) (version : UInt8) (servers : List ServerMapping) (running : Bool) :
      Reachable { settings, version, servers, running }
  | apply {c : Conversation} (h : Reachable c) (w : Worker) (e : Event) : Reachable (c.apply w e)

/-- Whether the call with the given number waits. -/
def waits (c : Conversation) (id : Nat) : Bool := c.threads[id]?.any (·.call.isWaiting)

def Kept (c : Conversation) : Prop := ∀ k ∈ c.connections, k.Kept

structure Sound (c : Conversation) : Prop where
  kept : c.Kept
  timed : ∀ id, (c.timer.wait? id).isSome = c.waits id

variable {w : Worker} {id conn : Nat} {target : Address} {host : Option IpAddress} {data : Bytes}
variable {c c' : Conversation} {r : Conversation × (Waiting ⊕ Settled)}

/-! What the moves of one call leave alone. -/

theorem Kept.modifyConnection (h : c.Kept) {j : Nat} {f : Connection → Connection}
    (hf : ∀ k, c.connections[j]? = some k → k.Kept → (f k).Kept) : (c.modifyConnection j f).Kept := by
  intro k hk
  obtain ⟨i, hi⟩ := List.mem_iff_getElem?.1 hk
  rw [Conversation.modifyConnection, List.getElem?_modify] at hi
  obtain ⟨k₀, hk₀, rfl⟩ := Option.map_eq_some_iff.1 hi
  have hkept := h k₀ (List.mem_of_getElem? hk₀)
  by_cases hij : j = i
  · rw [if_pos hij]
    exact hf k₀ (hij ▸ hk₀) hkept
  · rwa [if_neg hij]

/-- A call keeps the connections kept, and moves neither the calls nor the waits of the others. -/
structure Spares (id : Nat) (c c' : Conversation) : Prop where
  threads : c'.threads = c.threads
  kept : c.Kept → c'.Kept
  waits : ∀ j, j ≠ id → (c'.timer.wait? j).isSome = (c.timer.wait? j).isSome

theorem Spares.refl (c : Conversation) : Spares id c c := ⟨rfl, fun h => h, fun _ _ => rfl⟩

theorem Spares.trans {c'' : Conversation} (h : Spares id c c') (h' : Spares id c' c'') : Spares id c c'' :=
  ⟨h'.threads.trans h.threads, fun hk => h'.kept (h.kept hk), fun j hj => (h'.waits j hj).trans (h.waits j hj)⟩

theorem Move.spares (h : Move id c c') : Spares id c c' := by
  cases h with
  | switch => exact ⟨rfl, fun h => h, fun _ _ => rfl⟩
  | modify i f hf =>
    exact ⟨rfl, fun hk => hk.modifyConnection fun k hi => (hf k hi).kept, fun _ _ => rfl⟩
  | create settings server closed =>
    refine ⟨rfl, fun hk k hmem => ?_, fun _ _ => rfl⟩
    rcases List.mem_append.1 hmem with hold | hnew
    · exact hk k hold
    · rw [List.mem_singleton.1 hnew]
      exact Connection.Kept.fresh settings server closed
  | arm timeout => exact ⟨rfl, fun h => h, fun j hj => by rw [Timer.wait?_arm_of_ne hj]⟩
  | finish => exact ⟨rfl, fun h => h, fun j hj => by rw [Timer.wait?_finish_of_ne hj]⟩
  | stop => exact ⟨rfl, fun h => h, fun j _ => Timer.isSome_wait?_stop c.timer j⟩

theorem Moves.spares (h : Moves id c c') : Spares id c c' := by
  induction h with
  | refl => exact Spares.refl c
  | tail _ hm ih => exact ih.trans hm.spares

/-! A call waits after its step exactly when the timer knows its wait. -/

theorem resumeWait_timed (h : (c.timer.wait? id).isSome = true) (endpoint : String) (waiting : Waiting) :
    ((c.resumeWait w id endpoint conn waiting).1.timer.wait? id).isSome =
      (c.resumeWait w id endpoint conn waiting).2.isLeft := by
  unfold resumeWait
  split
  · split
    · exact h
    · exact congrArg Option.isSome (Timer.wait?_finish c.timer id)
  · exact h

theorem beginWait_timed (h : (c.timer.wait? id).isSome = false) (endpoint : String) (timeout : Nat)
    (waiting : Waiting) :
    ((c.beginWait w id endpoint conn timeout waiting).1.timer.wait? id).isSome =
      (c.beginWait w id endpoint conn timeout waiting).2.isLeft := by
  refine resumeWait_timed ?_ endpoint waiting
  rw [Timer.wait?_arm (by simpa using h)]
  rfl

/-- The timer knows the call's wait exactly when the call waits. -/
def Timed (id : Nat) (r : Conversation × Call) : Prop := (r.1.timer.wait? id).isSome = r.2.isWaiting

theorem Timed.idle {r : Conversation × Call} (h : (r.1.timer.wait? id).isSome = false)
    (hr : r.2.isWaiting = false) : Timed id r :=
  h.trans hr.symm

theorem afterConnectWait_timed (h : (r.1.timer.wait? id).isSome = r.2.isLeft) (endpoint : Endpoint) :
    Timed id (afterConnectWait target host endpoint conn r) := by
  unfold afterConnectWait
  split
  · exact h
  · exact h
  · exact h
  · exact h

theorem startConnect_timed (h : (c.timer.wait? id).isSome = false) (endpoint : Endpoint) :
    Timed id (startConnect w id target host c endpoint) :=
  afterConnectWait_timed (beginWait_timed (by exact h) _ _ _) endpoint

theorem tryLock_eq (h : c.tryLock id = some c') : c.holder = none ∧ c' = { c with holder := some id } := by
  unfold tryLock at h
  split at h
  · rename_i hfree
    cases h
    exact ⟨Option.isNone_iff_eq_none.1 hfree, rfl⟩
  · cases h

theorem tryLock_timer (h : c.tryLock id = some c') : c'.timer = c.timer := by
  rw [(tryLock_eq h).2]

theorem stepConnect_timed (inside : Bool) (point : ConnectPoint)
    (h : (c.timer.wait? id).isSome = (Call.connect target host point).isWaiting) :
    Timed id (stepConnect w id target host inside c point) := by
  cases point with
  | entered =>
    simp only [stepConnect]
    split <;> exact .idle h rfl
  | checked =>
    simp only [stepConnect]
    split
    · exact .idle h rfl
    · split <;> exact .idle h rfl
  | submitting endpoint =>
    simp only [stepConnect]
    split <;> exact .idle h rfl
  | queued endpoint =>
    simp only [stepConnect]
    split
    · exact .idle h rfl
    · rename_i c' hl
      rw [← tryLock_timer hl] at h
      split
      · exact startConnect_timed h endpoint
      · split <;> exact .idle h rfl
  | replacing endpoint stale => exact startConnect_timed (by exact h) endpoint
  | waiting endpoint conn waiting => exact afterConnectWait_timed (resumeWait_timed h _ waiting) endpoint
  | writing endpoint conn =>
    simp only [stepConnect]
    split
    · exact .idle h rfl
    · split
      · exact .idle h rfl
      · exact afterConnectWait_timed (beginWait_timed (by exact h) _ _ _) endpoint
  | failing conn => exact .idle h rfl
  | refused => exact .idle h rfl

theorem closeSlot_timed (h : (c.timer.wait? id).isSome = false) : Timed id c.closeSlot := by
  unfold closeSlot
  split <;> exact .idle h rfl

theorem cutLink_timer (h : c.cutLink = some c') : c'.timer = c.timer := by
  obtain ⟨l, -, rfl⟩ := Option.map_eq_some_iff.1 h
  rfl

theorem stepDisconnect_timed (inside : Bool) (point : DisconnectPoint) (h : (c.timer.wait? id).isSome = false) :
    Timed id (stepDisconnect w id inside c point) := by
  cases point with
  | entered =>
    simp only [stepDisconnect]
    split
    · exact .idle h rfl
    · rename_i hl
      rw [← cutLink_timer hl] at h
      exact .idle h rfl
  | stopping => exact .idle ((Timer.isSome_wait?_stop c.timer id).trans h) rfl
  | submitting =>
    simp only [stepDisconnect]
    split <;> exact .idle h rfl
  | queued =>
    simp only [stepDisconnect]
    split
    · exact closeSlot_timed h
    · split
      · exact .idle h rfl
      · split
        · rename_i hl
          rw [← tryLock_timer hl] at h
          exact closeSlot_timed h
        · exact .idle h rfl
  | closing conn => exact .idle h rfl

theorem settleRequest_timed (h : (c.timer.wait? id).isSome = false) (result : Except RequestError Response) :
    Timed id (settleRequest data c result) := by
  unfold settleRequest
  split
  · exact .idle h rfl
  · split <;> exact .idle h rfl

theorem afterResponseWait_timed (h : (r.1.timer.wait? id).isSome = r.2.isLeft) :
    Timed id (afterResponseWait data conn r) := by
  unfold afterResponseWait
  split
  · exact h
  · exact settleRequest_timed h _
  · exact settleRequest_timed h _
  · exact settleRequest_timed h _

theorem startResponse_timed (h : (c.timer.wait? id).isSome = false) :
    Timed id (startResponse w id data c conn) := by
  unfold startResponse
  split
  · exact settleRequest_timed h _
  · split
    · exact settleRequest_timed (by exact h) _
    · exact settleRequest_timed (by exact h) _
    · exact afterResponseWait_timed (beginWait_timed (by exact h) _ _ _)

theorem afterRequestWait_timed (h : (r.1.timer.wait? id).isSome = r.2.isLeft) :
    Timed id (afterRequestWait w id data conn r) := by
  unfold afterRequestWait
  split
  · exact startResponse_timed h
  · exact settleRequest_timed h _
  · exact settleRequest_timed h _
  · exact settleRequest_timed h _
  · exact afterResponseWait_timed h

theorem startExchange_timed (h : (c.timer.wait? id).isSome = false) : Timed id (startExchange data c) := by
  obtain hrefused | ⟨conn, k, -, -, -, ⟨e, hfails⟩ | ⟨frame, hwrites⟩⟩ := startExchange_cases data c
  · rw [hrefused]
    exact settleRequest_timed h _
  · rw [hfails]
    exact settleRequest_timed (by exact h) _
  · rw [hwrites]
    exact .idle h rfl

theorem stepRequest_timed (inside : Bool) (point : RequestPoint)
    (h : (c.timer.wait? id).isSome = (Call.request data point).isWaiting) :
    Timed id (stepRequest w id data inside c point) := by
  cases point with
  | entered =>
    simp only [stepRequest]
    split
    · exact .idle h rfl
    · split <;> exact .idle h rfl
  | submitting =>
    simp only [stepRequest]
    split <;> exact .idle h rfl
  | queued =>
    simp only [stepRequest]
    split
    · exact .idle h rfl
    · rename_i hl
      rw [← tryLock_timer hl] at h
      exact startExchange_timed h
  | writing conn frame =>
    simp only [stepRequest]
    split
    · exact .idle h rfl
    · split
      · exact settleRequest_timed (by exact h) _
      · exact afterRequestWait_timed (beginWait_timed (by exact h) _ _ _)
  | waiting conn waiting => exact afterRequestWait_timed (resumeWait_timed h _ waiting)
  | closing conn result => exact .idle h rfl

theorem stepShutdown_timed (point : ShutdownPoint) (h : (c.timer.wait? id).isSome = false) :
    Timed id (stepShutdown c point) := by
  cases point with
  | entered =>
    simp only [stepShutdown]
    split <;> exact .idle h rfl
  | cancelling =>
    simp only [stepShutdown]
    split
    · exact .idle h rfl
    · rename_i hl
      rw [← cutLink_timer hl] at h
      exact .idle h rfl
  | stopping => exact .idle ((Timer.isSome_wait?_stop c.timer id).trans h) rfl
  | releasing =>
    simp only [stepShutdown]
    split <;> exact .idle h rfl

theorem stepCall_timed (inside : Bool) (call : Call) (h : (c.timer.wait? id).isSome = call.isWaiting) :
    Timed id (stepCall w id inside c call) := by
  cases call with
  | connect target host point => exact stepConnect_timed inside point h
  | disconnect point => exact stepDisconnect_timed inside point h
  | request data point => exact stepRequest_timed inside point h
  | shutdown point => exact stepShutdown_timed point h
  | startup => exact .idle h rfl
  | returned outcome => exact .idle h rfl

/-! What is asked of the calls, when one of them goes on or a new one comes. -/

section Any

variable {threads : List Thread} {t : Thread} {p : Call → Bool}

theorem any_threads_set (ht : threads[id]? = some t) (call : Call) (j : Nat) :
    (threads.set id { t with call })[j]?.any (p ·.call) = if j = id then p call else threads[j]?.any (p ·.call) := by
  by_cases hj : j = id
  · obtain ⟨hlt, -⟩ := List.getElem?_eq_some_iff.1 ht
    rw [if_pos hj, hj, List.getElem?_set_self hlt, Option.any_some]
  · rw [if_neg hj, List.getElem?_set_ne (Ne.symm hj)]

theorem any_threads_append (ht : p t.call = false) (j : Nat) :
    (threads ++ [t])[j]?.any (p ·.call) = threads[j]?.any (p ·.call) := by
  rcases Nat.lt_trichotomy j threads.length with hlt | heq | hgt
  · rw [List.getElem?_append_left hlt]
  · simp [heq, ht]
  · rw [List.getElem?_eq_none (Nat.le_of_lt hgt), List.getElem?_eq_none (by rw [List.length_append]; exact hgt)]

end Any

/-! Tasks that the worker drops. -/

/-- A call after the worker has ended. -/
def dropped (t : Thread) : Thread := { t with call := ((droppedCall t.call).map (·.1)).getD t.call }

theorem dropped_dropped (t : Thread) : dropped (dropped t) = dropped t := by
  obtain ⟨call, inside⟩ := t
  cases call with
  | connect target host point => cases point <;> rfl
  | disconnect point => cases point <;> rfl
  | request data point => cases point <;> rfl
  | shutdown point => rfl
  | startup => rfl
  | returned outcome => rfl

/-- A call that is dropped does not wait any more, and one that goes on did not wait. -/
theorem dropped_idle (t : Thread) : (dropped t).call.isWaiting = false := by
  obtain ⟨call, inside⟩ := t
  cases call with
  | connect target host point => cases point <;> rfl
  | disconnect point => cases point <;> rfl
  | request data point => cases point <;> rfl
  | shutdown point => rfl
  | startup => rfl
  | returned outcome => rfl

theorem dropTask_threads (c : Conversation) (i j : Nat) :
    (c.dropTask i).threads[j]? = if j = i then c.threads[j]?.map dropped else c.threads[j]? := by
  unfold dropTask
  split
  · rename_i hnone
    by_cases hj : j = i
    · rw [if_pos hj, hj, hnone, Option.map_none]
    · rw [if_neg hj]
  · rename_i t ht
    obtain ⟨hlt, -⟩ := List.getElem?_eq_some_iff.1 ht
    split
    · rename_i hd
      by_cases hj : j = i
      · rw [if_pos hj, hj, ht, Option.map_some, dropped, hd]
        rfl
      · rw [if_neg hj]
    · rename_i call conn hd
      have hset : (c.threads.set i { t with call })[j]? =
          if j = i then c.threads[j]?.map dropped else c.threads[j]? := by
        by_cases hj : j = i
        · rw [if_pos hj, hj, ht, Option.map_some, dropped, hd, List.getElem?_set_self hlt]
          rfl
        · rw [if_neg hj, List.getElem?_set_ne (Ne.symm hj)]
      cases conn <;> exact hset

theorem dropAll_threads (is : List Nat) (c : Conversation) (j : Nat) :
    (is.foldl dropTask c).threads[j]? = if j ∈ is then c.threads[j]?.map dropped else c.threads[j]? := by
  induction is generalizing c with
  | nil => rfl
  | cons i is ih =>
    have htwice : ∀ o : Option Thread, (o.map dropped).map dropped = o.map dropped := by
      intro o
      cases o with
      | none => rfl
      | some t => exact congrArg some (dropped_dropped t)
    rw [List.foldl_cons, ih, dropTask_threads]
    by_cases hj : j = i
    · simp [hj, htwice]
    · simp [hj]

theorem dropTasks_threads (c : Conversation) (j : Nat) :
    c.dropTasks.threads[j]? = c.threads[j]?.map dropped := by
  refine (dropAll_threads (List.range c.threads.length) c j).trans ?_
  split
  · rfl
  · rename_i hj
    have hout : c.threads.length ≤ j := by simpa using hj
    rw [List.getElem?_eq_none hout]
    rfl

theorem dropTasks_waits (c : Conversation) (j : Nat) : c.dropTasks.waits j = false := by
  rw [waits, dropTasks_threads]
  cases c.threads[j]? with
  | none => rfl
  | some t => exact dropped_idle t

theorem dropTask_kept (h : c.Kept) (i : Nat) : (c.dropTask i).Kept := by
  unfold dropTask
  split
  · exact h
  · split
    · exact h
    · rename_i call conn _
      cases conn with
      | none => exact h
      | some conn => exact h.modifyConnection fun k _ hk => (Connection.OwnerStep.abandon k).kept hk

theorem dropAll_kept (h : c.Kept) (is : List Nat) : (is.foldl dropTask c).Kept := by
  induction is generalizing c with
  | nil => exact h
  | cons i is ih => exact ih (dropTask_kept h i)

/-! Every event. -/

theorem Sound.fresh (settings : ConversationSettings) (version : UInt8) (servers : List ServerMapping)
    (running : Bool) : Sound { settings, version, servers, running } := by
  refine ⟨fun k hk => ?_, fun id => ?_⟩
  · cases hk
  · simp [Timer.wait?, waits]

theorem Sound.outside (h : c.Sound) {i : Nat} {f : Connection → Connection}
    (hf : ∀ k, Connection.OutsideStep k (f k)) : (c.modifyConnection i f).Sound :=
  ⟨h.kept.modifyConnection fun k _ hk => (hf k).kept hk, h.timed⟩

theorem Sound.advance (h : c.Sound) (w : Worker) (id : Nat) : (c.advance w id).Sound := by
  unfold Conversation.advance
  split
  · exact h
  · rename_i t ht
    have hsp := (stepCall_moves w id t.inside c t.call).spares
    have htimed : Timed id (stepCall w id t.inside c t.call) := by
      refine stepCall_timed t.inside t.call ?_
      rw [h.timed, waits, ht]
      rfl
    refine ⟨hsp.kept h.kept, fun j => ?_⟩
    have hset := any_threads_set (p := Call.isWaiting) ht (stepCall w id t.inside c t.call).2 j
    rw [← hsp.threads] at hset
    refine Eq.trans ?_ hset.symm
    by_cases hj : j = id
    · rw [if_pos hj, hj]
      exact htimed
    · rw [if_neg hj, hsp.threads]
      exact (hsp.waits j hj).trans (h.timed j)

theorem Sound.dropTasks (h : c.Sound) : c.dropTasks.Sound := by
  refine ⟨fun k hk => ?_, fun j => ?_⟩
  · obtain ⟨k₀, hk₀, rfl⟩ := List.mem_map.1 hk
    exact (Connection.OutsideStep.stopped k₀).kept (dropAll_kept h.kept _ k₀ hk₀)
  · exact Eq.trans (b := false) rfl (dropTasks_waits c j).symm

theorem Sound.call (h : c.Sound) (t : Thread) (ht : t.call.isWaiting = false) :
    Sound { c with threads := c.threads ++ [t] } :=
  ⟨h.kept, fun j => (h.timed j).trans (any_threads_append ht j).symm⟩

theorem Sound.apply (h : c.Sound) (w : Worker) (e : Event) : (c.apply w e).Sound := by
  cases e with
  | call operation inside => exact h.call ⟨.of operation, inside⟩ (by cases operation <;> rfl)
  | advance id => exact h.advance w id
  | dialled conn dial => exact h.outside fun k => .dialled k dial
  | arrive conn a => exact h.outside fun k => .arrive k a
  | noticeClosed conn => exact h.outside .noticeClosed
  | sever conn => exact h.outside .sever
  | elapse ms =>
    refine ⟨h.kept, fun id => Eq.trans ?_ (h.timed id)⟩
    exact (congrArg Option.isSome (Timer.wait?_elapse c.timer ms id)).trans Option.isSome_map
  | shutDown =>
    refine ⟨fun k hk => ?_, h.timed⟩
    obtain ⟨k₀, hk₀, rfl⟩ := List.mem_map.1 hk
    exact (Connection.OwnerStep.close k₀).kept (h.kept k₀ hk₀)
  | dropTasks => exact h.dropTasks

theorem Reachable.applyAll (h : Reachable c) (w : Worker) (es : List Event) :
    Reachable (es.foldl (Conversation.apply w) c) := by
  induction es generalizing c with
  | nil => exact h
  | cons e es ih => exact ih (h.apply w e)

theorem Reachable.sound (h : Reachable c) : c.Sound := by
  induction h with
  | fresh settings version servers running => exact Sound.fresh settings version servers running
  | apply _ w e ih => exact ih.apply w e

/-- The timer has no wait of a call that does not wait. -/
theorem Reachable.wait?_eq_none (h : Reachable c) {t : Thread} (ht : c.threads[id]? = some t)
    (hidle : t.call.isWaiting = false) : c.timer.wait? id = none := by
  have htimed := h.sound.timed id
  rw [waits, ht, Option.any_some, hidle] at htimed
  exact Option.not_isSome_iff_eq_none.1 (by simp [htimed])

end Conversation
end Doip
