import Doip.Proofs.Conversation.Reachable

/-! The slot belongs to one call at a time (`Reachable.exclusive`). As long as it is taken, the steps of every
call but its holder leave the connections as they are, except that a disconnect or a shutdown may mark one as
closed (`stepCall_bystands`). -/

namespace Doip

/-- A call that has taken the slot and has not given it back. -/
def Call.holds : Call → Bool
  | .connect _ _ (.replacing _ _)
  | .connect _ _ (.waiting _ _ _)
  | .connect _ _ (.writing _ _)
  | .connect _ _ (.failing _) => true
  | .disconnect (.closing _) => true
  | .request _ (.writing _ _)
  | .request _ (.waiting _ _)
  | .request _ (.closing _ _) => true
  | _ => false

namespace Conversation

/-- Whether the call with the given number uses the slot. -/
def holds (c : Conversation) (id : Nat) : Bool := c.threads[id]?.any (·.call.holds)

/-- Every call that uses the slot has taken it. -/
def Exclusive (c : Conversation) : Prop := ∀ id, c.holds id = true → c.holder = some id

/-- A call uses the slot after its step only if it has it. -/
def Guarded (id : Nat) (r : Conversation × Call) : Prop := r.2.holds = true → r.1.holder = some id

variable {w : Worker} {id j conn : Nat} {target : Address} {host : Option IpAddress} {data : Bytes}
variable {c c' : Conversation} {r : Conversation × (Waiting ⊕ Settled)}

theorem Guarded.idle {call : Call} (h : call.holds = false) (c : Conversation) : Guarded id (c, call) := by
  intro hcall
  rw [h] at hcall
  cases hcall

theorem Guarded.held (h : c.holder = some id) (call : Call) : Guarded id (c, call) := fun _ => h

theorem tryLock_holder (h : c.tryLock id = some c') : c.holder = none ∧ c'.holder = some id := by
  obtain ⟨hfree, rfl⟩ := tryLock_eq h
  exact ⟨hfree, rfl⟩

theorem tryLock_taken (h : c.holder = some j) : c.tryLock id = none := by
  unfold tryLock
  rw [h]
  rfl

theorem resumeWait_holder (c : Conversation) (w : Worker) (id : Nat) (text : String) (conn : Nat)
    (waiting : Waiting) : (c.resumeWait w id text conn waiting).1.holder = c.holder := by
  unfold resumeWait
  split
  · split <;> rfl
  · rfl

theorem beginWait_held (h : c.holder = some id) (w : Worker) (text : String) (conn timeout : Nat)
    (waiting : Waiting) : (c.beginWait w id text conn timeout waiting).1.holder = some id :=
  (resumeWait_holder _ w id text conn waiting).trans h

/-! A call that has the slot keeps it until it is done. -/

theorem afterConnectWait_guarded (h : r.1.holder = some id) (endpoint : Endpoint) (conn : Nat) :
    Guarded id (afterConnectWait target host endpoint conn r) := by
  unfold afterConnectWait
  split
  · exact .held h _
  · exact .held h _
  · exact .idle rfl _
  · exact .held h _

theorem startConnect_guarded (h : c.holder = some id) (endpoint : Endpoint) :
    Guarded id (startConnect w id target host c endpoint) :=
  afterConnectWait_guarded (beginWait_held (by exact h) w _ _ _ _) endpoint _

theorem closeSlot_guarded (h : c.holder = some id) : Guarded id c.closeSlot := by
  unfold closeSlot
  split
  · exact .idle rfl _
  · exact .held h _

theorem settleRequest_guarded (h : c.holder = some id) (result : Except RequestError Response) :
    Guarded id (settleRequest data c result) := by
  unfold settleRequest
  split
  · exact .idle rfl _
  · split
    · exact .idle rfl _
    · exact .held h _

theorem afterResponseWait_guarded (h : r.1.holder = some id) (conn : Nat) :
    Guarded id (afterResponseWait data conn r) := by
  unfold afterResponseWait
  split
  · exact .held h _
  · exact settleRequest_guarded h _
  · exact settleRequest_guarded h _
  · exact settleRequest_guarded h _

theorem startResponse_guarded (h : c.holder = some id) (conn : Nat) :
    Guarded id (startResponse w id data c conn) := by
  unfold startResponse
  split
  · exact settleRequest_guarded h _
  · split
    · exact settleRequest_guarded (by exact h) _
    · exact settleRequest_guarded (by exact h) _
    · exact afterResponseWait_guarded (beginWait_held (by exact h) w _ _ _ _) conn

theorem afterRequestWait_guarded (h : r.1.holder = some id) (conn : Nat) :
    Guarded id (afterRequestWait w id data conn r) := by
  unfold afterRequestWait
  split
  · exact startResponse_guarded h conn
  · exact settleRequest_guarded h _
  · exact settleRequest_guarded h _
  · exact settleRequest_guarded h _
  · exact afterResponseWait_guarded h conn

theorem startExchange_guarded (h : c.holder = some id) : Guarded id (startExchange data c) := by
  obtain hrefused | ⟨conn, k, -, -, -, ⟨e, hfails⟩ | ⟨frame, hwrites⟩⟩ := startExchange_cases data c
  · rw [hrefused]
    exact settleRequest_guarded h _
  · rw [hfails]
    exact settleRequest_guarded (by exact h) _
  · rw [hwrites]
    exact .held h _

theorem stepConnect_guarded (inside : Bool) (point : ConnectPoint)
    (h : (Call.connect target host point).holds = true → c.holder = some id) :
    Guarded id (stepConnect w id target host inside c point) := by
  cases point with
  | entered =>
    simp only [stepConnect]
    split <;> exact .idle rfl _
  | checked =>
    simp only [stepConnect]
    split
    · exact .idle rfl _
    · split <;> exact .idle rfl _
  | submitting endpoint =>
    simp only [stepConnect]
    split <;> exact .idle rfl _
  | queued endpoint =>
    simp only [stepConnect]
    split
    · exact .idle rfl _
    · rename_i hl
      have hheld := (tryLock_holder hl).2
      split
      · exact startConnect_guarded hheld endpoint
      · split
        · exact .idle rfl _
        · exact .held hheld _
  | replacing endpoint stale => exact startConnect_guarded (by exact h rfl) endpoint
  | waiting endpoint conn waiting =>
    exact afterConnectWait_guarded ((resumeWait_holder c w id _ conn waiting).trans (h rfl)) endpoint conn
  | writing endpoint conn =>
    simp only [stepConnect]
    split
    · exact .held (h rfl) _
    · split
      · exact .held (h rfl) _
      · exact afterConnectWait_guarded (beginWait_held (by exact h rfl) w _ _ _ _) endpoint conn
  | failing conn => exact .idle rfl _
  | refused => exact .idle rfl _

theorem stepDisconnect_guarded (inside : Bool) (point : DisconnectPoint)
    (h : (Call.disconnect point).holds = true → c.holder = some id) :
    Guarded id (stepDisconnect w id inside c point) := by
  cases point with
  | entered =>
    simp only [stepDisconnect]
    split <;> exact .idle rfl _
  | stopping => exact .idle rfl _
  | submitting =>
    simp only [stepDisconnect]
    split <;> exact .idle rfl _
  | queued =>
    simp only [stepDisconnect]
    split
    · rename_i hheld
      exact closeSlot_guarded hheld
    · split
      · exact .idle rfl _
      · split
        · rename_i hl
          exact closeSlot_guarded (tryLock_holder hl).2
        · exact .idle rfl _
  | closing conn => exact .idle rfl _

theorem stepRequest_guarded (inside : Bool) (point : RequestPoint)
    (h : (Call.request data point).holds = true → c.holder = some id) :
    Guarded id (stepRequest w id data inside c point) := by
  cases point with
  | entered =>
    simp only [stepRequest]
    split
    · exact .idle rfl _
    · split <;> exact .idle rfl _
  | submitting =>
    simp only [stepRequest]
    split <;> exact .idle rfl _
  | queued =>
    simp only [stepRequest]
    split
    · exact .idle rfl _
    · rename_i hl
      exact startExchange_guarded (tryLock_holder hl).2
  | writing conn frame =>
    simp only [stepRequest]
    split
    · exact .held (h rfl) _
    · split
      · exact settleRequest_guarded (by exact h rfl) _
      · exact afterRequestWait_guarded (beginWait_held (by exact h rfl) w _ _ _ _) conn
  | waiting conn waiting =>
    exact afterRequestWait_guarded ((resumeWait_holder c w id _ conn waiting).trans (h rfl)) conn
  | closing conn result => exact .idle rfl _

theorem stepShutdown_guarded (point : ShutdownPoint) : Guarded id (stepShutdown c point) := by
  cases point with
  | entered =>
    simp only [stepShutdown]
    split <;> exact .idle rfl _
  | cancelling =>
    simp only [stepShutdown]
    split <;> exact .idle rfl _
  | stopping => exact .idle rfl _
  | releasing =>
    simp only [stepShutdown]
    split <;> exact .idle rfl _

theorem stepCall_guarded (inside : Bool) (call : Call) (h : call.holds = true → c.holder = some id) :
    Guarded id (stepCall w id inside c call) := by
  cases call with
  | connect target host point => exact stepConnect_guarded inside point h
  | disconnect point => exact stepDisconnect_guarded inside point h
  | request data point => exact stepRequest_guarded inside point h
  | shutdown point => exact stepShutdown_guarded point
  | startup => exact .idle rfl _
  | returned outcome => exact .idle rfl _

/-! A call that has not got the slot while another has it. -/

/-- A step that leaves the slot and what is in it alone; it may mark a connection as closed, or stop the timer. -/
structure Bystands (c c' : Conversation) : Prop where
  holder : c'.holder = c.holder
  slot : c'.slot = c.slot
  connections : c'.connections = c.connections ∨ ∃ i, c'.connections = c.connections.modify i Connection.close
  timer : c'.timer = c.timer ∨ c'.timer = c.timer.stop

theorem Bystands.same (hholder : c'.holder = c.holder) (hslot : c'.slot = c.slot)
    (hconns : c'.connections = c.connections) (htimer : c'.timer = c.timer) : Bystands c c' :=
  ⟨hholder, hslot, .inl hconns, .inl htimer⟩

theorem Bystands.refl (c : Conversation) : Bystands c c := .same rfl rfl rfl rfl

theorem cutLink_bystands (h : c.cutLink = some c') : Bystands c c' := by
  obtain ⟨l, -, rfl⟩ := Option.map_eq_some_iff.1 h
  exact ⟨rfl, rfl, .inr ⟨l.connection, rfl⟩, .inl rfl⟩

theorem stepConnect_bystands (hbusy : c.holder = some j) (inside : Bool) (point : ConnectPoint)
    (hfree : (Call.connect target host point).holds = false) :
    Bystands c (stepConnect w id target host inside c point).1 := by
  cases point with
  | entered =>
    simp only [stepConnect]
    split <;> exact .refl c
  | checked =>
    simp only [stepConnect]
    split
    · exact .refl c
    · split <;> exact .refl c
  | submitting endpoint =>
    simp only [stepConnect]
    split <;> exact .refl c
  | queued endpoint =>
    simp only [stepConnect, tryLock_taken hbusy]
    exact .refl c
  | refused => exact .same rfl rfl rfl rfl
  | _ => cases hfree

theorem stepDisconnect_bystands (hbusy : c.holder = some j) (hne : j ≠ id) (inside : Bool)
    (point : DisconnectPoint) (hfree : (Call.disconnect point).holds = false) :
    Bystands c (stepDisconnect w id inside c point).1 := by
  cases point with
  | entered =>
    simp only [stepDisconnect]
    split
    · exact .refl c
    · rename_i hl
      exact cutLink_bystands hl
  | stopping => exact ⟨rfl, rfl, .inl rfl, .inr rfl⟩
  | submitting =>
    simp only [stepDisconnect]
    split <;> exact .refl c
  | queued =>
    have hother : ¬ c.holder = some id := by
      rw [hbusy]
      exact fun h => hne (Option.some.inj h)
    simp only [stepDisconnect, if_neg hother, tryLock_taken hbusy]
    split
    · exact .refl c
    · exact .same rfl rfl rfl rfl
  | closing conn => cases hfree

theorem stepRequest_bystands (hbusy : c.holder = some j) (inside : Bool) (point : RequestPoint)
    (hfree : (Call.request data point).holds = false) :
    Bystands c (stepRequest w id data inside c point).1 := by
  cases point with
  | entered =>
    simp only [stepRequest]
    split
    · exact .refl c
    · split <;> exact .refl c
  | submitting =>
    simp only [stepRequest]
    split <;> exact .refl c
  | queued =>
    simp only [stepRequest, tryLock_taken hbusy]
    exact .refl c
  | _ => cases hfree

theorem stepShutdown_bystands (hbusy : c.holder = some j) (point : ShutdownPoint) :
    Bystands c (stepShutdown c point).1 := by
  cases point with
  | entered =>
    simp only [stepShutdown]
    split
    · exact .same rfl rfl rfl rfl
    · exact .refl c
  | cancelling =>
    simp only [stepShutdown]
    split
    · exact .refl c
    · rename_i hl
      exact cutLink_bystands hl
  | stopping => exact ⟨rfl, rfl, .inl rfl, .inr rfl⟩
  | releasing =>
    simp only [stepShutdown, hbusy]
    exact .refl c

theorem stepCall_bystands (hbusy : c.holder = some j) (hne : j ≠ id) (w : Worker) (inside : Bool) (call : Call)
    (hfree : call.holds = false) : Bystands c (stepCall w id inside c call).1 := by
  cases call with
  | connect target host point => exact stepConnect_bystands hbusy inside point hfree
  | disconnect point => exact stepDisconnect_bystands hbusy hne inside point hfree
  | request data point => exact stepRequest_bystands hbusy inside point hfree
  | shutdown point => exact stepShutdown_bystands hbusy point
  | startup => exact .same rfl rfl rfl rfl
  | returned outcome => exact .refl c

/-! Every event. -/

theorem holds_eq {t : Thread} (ht : c.threads[id]? = some t) : c.holds id = t.call.holds := by
  rw [holds, ht]
  rfl

theorem Exclusive.fresh (settings : ConversationSettings) (version : UInt8) (servers : List ServerMapping)
    (running : Bool) : Exclusive { settings, version, servers, running } := by
  intro id h
  cases h

theorem Exclusive.advance (h : c.Exclusive) (w : Worker) (id : Nat) : (c.advance w id).Exclusive := by
  unfold Conversation.advance
  split
  · exact h
  · rename_i t ht
    intro j hj
    have hsp := (stepCall_moves w id t.inside c t.call).spares
    have hset := any_threads_set (p := Call.holds) ht (stepCall w id t.inside c t.call).2 j
    have hmine : t.call.holds = true → c.holder = some id := fun hcall => h id (by rw [holds_eq ht, hcall])
    rw [← hsp.threads] at hset
    replace hj := hset.symm.trans hj
    by_cases hij : j = id
    · rw [if_pos hij] at hj
      rw [hij]
      exact stepCall_guarded t.inside t.call hmine hj
    · rw [if_neg hij, hsp.threads] at hj
      have hbusy : c.holder = some j := h j hj
      have hfree : t.call.holds = false := by
        by_contra hself
        have hheld := hmine (by simpa using hself)
        rw [hbusy] at hheld
        exact hij (Option.some.inj hheld)
      exact (stepCall_bystands hbusy hij w t.inside t.call hfree).holder.trans hbusy

/-- A call that is dropped does not use the slot any more, and one that goes on did not use it. -/
theorem dropped_holds (t : Thread) : (dropped t).call.holds = false := by
  obtain ⟨call, inside⟩ := t
  cases call with
  | connect target host point => cases point <;> rfl
  | disconnect point => cases point <;> rfl
  | request data point => cases point <;> rfl
  | shutdown point => rfl
  | startup => rfl
  | returned outcome => rfl

theorem dropTasks_holds (c : Conversation) (j : Nat) : c.dropTasks.holds j = false := by
  rw [holds, dropTasks_threads]
  cases c.threads[j]? with
  | none => rfl
  | some t => exact dropped_holds t

theorem Exclusive.call (h : c.Exclusive) (t : Thread) (ht : t.call.holds = false) :
    Exclusive { c with threads := c.threads ++ [t] } :=
  fun j hj => h j ((any_threads_append ht j).symm.trans hj)

theorem Exclusive.apply (h : c.Exclusive) (w : Worker) (e : Event) : (c.apply w e).Exclusive := by
  cases e with
  | call operation inside => exact h.call ⟨.of operation, inside⟩ (by cases operation <;> rfl)
  | advance id => exact h.advance w id
  | dropTasks =>
    intro j hj
    exact absurd ((dropTasks_holds c j).symm.trans hj) Bool.false_ne_true
  | _ => exact h

theorem Reachable.exclusive (h : Reachable c) : c.Exclusive := by
  induction h with
  | fresh settings version servers running => exact Exclusive.fresh settings version servers running
  | apply _ w e ih => exact ih.apply w e

/-- Two calls that use the slot are the same call. -/
theorem Reachable.holds_unique (h : Reachable c) (hid : c.holds id = true) (hj : c.holds j = true) : id = j :=
  Option.some.inj ((h.exclusive id hid).symm.trans (h.exclusive j hj))

end Conversation
end Doip
