import Doip.Proofs.Conversation.Aligned
import Doip.Proofs.Conversation.Conduct

/-! A usable connection in the slot stays there and stays usable, whatever any number of calls do, until it comes to
harm (`Ready.apply`, `Ready.play`). -/

namespace Doip.Conversation

open Connection (OutsideStep)

variable {w : Worker} {e : Event} {es : List (Worker × Event)} {id conn : Nat} {target : Address}
variable {host : Option IpAddress} {data : Bytes} {inside : Bool} {c c' : Conversation} {call : Call} {t : Thread}
variable {k : Connection} {point : RequestPoint}

/-! Where requests stand. -/

/-- A call that uses a connection is a request at one of its points. -/
def Asks (call : Call) : Prop :=
  ∀ conn, engaged? call = some conn → ∃ data point, call = .request data point ∧ Under conn point

theorem Asks.idle (h : engaged? call = none) : Asks call := by
  intro conn hconn
  rw [h] at hconn
  cases hconn

theorem settleRequest_asks (c : Conversation) (result : Except RequestError Response) :
    Asks (settleRequest data c result).2 := by
  rcases settleRequest_call data c result with h | ⟨conn, h⟩ <;> rw [h] <;> exact .idle rfl

theorem Asks.of_under (hunder : Under conn point) : Asks (.request data point) := by
  intro conn' hconn
  cases hunder <;> cases hconn
  · exact ⟨_, _, rfl, .writing _⟩
  · exact ⟨_, _, rfl, .acknowledging _⟩
  · exact ⟨_, _, rfl, .responding⟩

theorem Course.asks {fit : Prop} {slot : Option Nat} {r : Conversation × Call} (h : Course fit conn data slot r) :
    Asks r.2 := by
  cases h with
  | goes hunder => exact .of_under hunder
  | settles => exact settleRequest_asks _ _

theorem startExchange_asks (c : Conversation) : Asks (startExchange data c).2 := by
  rcases startExchange_writes data c with ⟨conn, k, frame, -, hstart⟩ | ⟨c', e, hstart, -⟩
  · rw [hstart]
    exact .of_under (.writing frame)
  · rw [hstart]
    exact settleRequest_asks c' _

/-- A call goes on to use only a connection that it used before, or that it begins an exchange on. -/
theorem stepCall_asks (h : Asks call) (hmade : ∀ conn, engaged? call = some conn → conn < c.connections.length)
    (w : Worker) (id : Nat) (inside : Bool) : Asks (stepCall w id inside c call).2 := by
  cases hengaged : engaged? call with
  | some conn =>
    obtain ⟨data, point, rfl, hunder⟩ := h conn hengaged
    have hk := List.getElem?_eq_getElem (hmade conn hengaged)
    exact (stepRequest_course hunder hk False.elim (fun _ _ => False.elim) w id inside).asks
  | none =>
    cases call with
    | connect target host point => exact .idle (stepConnect_silent inside point).engaged
    | disconnect point => exact .idle (stepDisconnect_silent inside point).engaged
    | shutdown point => exact .idle (stepShutdown_silent point).engaged
    | startup => exact .idle rfl
    | returned outcome => exact .idle rfl
    | request data point =>
      cases point with
      | entered =>
        simp only [stepCall, stepRequest]
        split
        · exact .idle rfl
        · split <;> exact .idle rfl
      | submitting =>
        simp only [stepCall, stepRequest]
        split <;> exact .idle rfl
      | queued =>
        simp only [stepCall, stepRequest]
        split
        · exact .idle rfl
        · exact startExchange_asks _
      | writing conn frame => cases hengaged
      | waiting conn waiting => cases hengaged
      | closing conn result => exact .idle rfl

theorem role_of_engaged (h : engaged? call = some conn) : call.role = .borrowing conn := by
  cases call with
  | request data point => cases point <;> cases h <;> rfl
  | _ => cases h

theorem dropped_asks (t : Thread) : Asks (dropped t).call := by
  have hholds := dropped_holds t
  refine .idle ?_
  cases hengaged : engaged? (dropped t).call with
  | none => rfl
  | some conn =>
    rw [← Call.role_holds, role_of_engaged hengaged] at hholds
    cases hholds

theorem Reachable.asks (h : Reachable c) : ∀ (id : Nat) (t : Thread), c.threads[id]? = some t → Asks t.call := by
  induction h with
  | fresh settings version servers running => nofun
  | @apply c h w e ih =>
    intro id t ht
    cases e with
    | call op inside =>
      have ht : (c.threads ++ [⟨.of op, inside⟩])[id]? = some t := ht
      rcases Nat.lt_or_ge id c.threads.length with hlt | hge
      · rw [List.getElem?_append_left hlt] at ht
        exact ih id t ht
      · rw [List.getElem?_append_right hge] at ht
        rw [List.mem_singleton.1 (List.mem_of_getElem? ht)]
        exact .idle (by cases op <;> rfl)
    | advance j =>
      have ht : (c.advance w j).threads[id]? = some t := ht
      by_cases hj : j = id
      · subst hj
        cases hold : c.threads[j]? with
        | none =>
          rw [advance_ended (by rw [hold]; nofun)] at ht
          exact ih j t ht
        | some t₀ =>
          cases (getElem?_advance (w := w) hold).symm.trans ht
          refine stepCall_asks (ih j t₀ hold) (fun conn hengaged => ?_) w j t₀.inside
          have hrole : c.cells.roles j = .borrowing conn := (roleOf_eq hold).trans (role_of_engaged hengaged)
          exact h.fitting.made.slot conn (h.fitting.placed.borrowed j conn hrole)
      · rw [getElem?_advance_of_ne hj] at ht
        exact ih id t ht
    | dropTasks =>
      obtain ⟨t₀, -, rfl⟩ := Option.map_eq_some_iff.1 ((dropTasks_threads c id).symm.trans ht)
      exact dropped_asks t₀
    | _ => exact ih id t ht

theorem Reachable.under (h : Reachable c) (ht : c.threads[id]? = some ⟨.request data point, inside⟩)
    (hengaged : engaged? (.request data point) = some conn) : Under conn point := by
  obtain ⟨data', point', heq, hunder⟩ := h.asks id _ ht conn hengaged
  cases heq
  exact hunder

/-! Harm. -/

/-- How a connection comes to harm: its receiver takes what arrives for the loss (the end of the stream, an error or
a broken header), a request cannot be written to it, somebody closes it, or the worker ends. -/
inductive Harm (conn : Nat) (w : Worker) (c : Conversation) : Event → Prop
  | lost {a : Arrival} {k : Connection} {s : Stream} (hk : c.connections[conn]? = some k) (hs : k.stream = some s)
      (h : (s.arrive k.settings.codec k.settings.client a).2 = true) : Harm conn w c (.arrive conn a)
  | unwritten {id : Nat} {data frame : Bytes} {inside : Bool} {k : Connection}
      (ht : c.threads[id]? = some ⟨.request data (.writing conn frame), inside⟩)
      (hk : c.connections[conn]? = some k) (h : k.write? frame = none) : Harm conn w c (.advance id)
  | closed {e : Event} (h : (c.apply w e).ClosedAt conn) : Harm conn w c e
  | ended : Harm conn w c .dropTasks

/-- A run in which a connection comes to no harm. -/
def Unharmed (conn : Nat) (c : Conversation) : List (Worker × Event) → Prop
  | [] => True
  | (w, e) :: es => ¬ Harm conn w c e ∧ (c.apply w e).Unharmed conn es

/-- The connection in the slot, which is usable. -/
structure Ready (conn : Nat) (k : Connection) (c : Conversation) : Prop where
  slot : c.slot = some conn
  connection : c.connections[conn]? = some k
  usable : k.Usable

/-- A usable connection is in the slot, or it has been closed. -/
def Keeps (conn : Nat) (c : Conversation) : Prop := (∃ k, c.Ready conn k) ∨ c.ClosedAt conn

theorem Ready.lt (h : c.Ready conn k) : conn < c.connections.length :=
  (List.getElem?_eq_some_iff.1 h.connection).1

theorem Ready.same (h : c.Ready conn k) (hslot : c'.slot = c.slot) (hconns : c'.connections = c.connections) :
    Keeps conn c' := .inl ⟨k, hslot.trans h.slot, by rw [hconns]; exact h.connection, h.usable⟩

theorem Ready.modify (h : c.Ready conn k) {i : Nat} {f : Connection → Connection}
    (hf : i = conn → (f k).Usable) : Keeps conn (c.modifyConnection i f) := by
  by_cases hi : i = conn
  · subst hi
    exact .inl ⟨f k, h.slot, getElem?_modifyConnection h.connection f, hf rfl⟩
  · exact .inl ⟨k, h.slot, (getElem?_modifyConnection_of_ne hi f).trans h.connection, h.usable⟩

theorem cutLink_keeps (h : c.Ready conn k) (hcut : c.cutLink = some c') : Keeps conn c' := by
  obtain ⟨l, -, rfl⟩ := Option.map_eq_some_iff.1 hcut
  by_cases hl : l.connection = conn
  · subst hl
    exact .inr (closedAt_modify h.lt fun _ => rfl)
  · exact .inl ⟨k, h.slot, (getElem?_modifyConnection_of_ne hl _).trans h.connection, h.usable⟩

/-! Steps of calls. -/

theorem stepConnect_keeps (h : c.Ready conn k) (inside : Bool) (point : ConnectPoint)
    (hfree : (Call.connect target host point).role.owns = none) :
    Keeps conn (stepConnect w id target host inside c point).1 := by
  cases point with
  | entered =>
    simp only [stepConnect]
    split <;> exact h.same rfl rfl
  | checked =>
    simp only [stepConnect]
    split
    · exact h.same rfl rfl
    · split <;> exact h.same rfl rfl
  | submitting endpoint =>
    simp only [stepConnect]
    split <;> exact h.same rfl rfl
  | queued endpoint =>
    have hstate : (c.connections[conn]?.map (·.state)) = some .activated := by
      rw [h.connection]
      exact congrArg some h.usable.activated
    simp only [stepConnect]
    split
    · exact h.same rfl rfl
    · rename_i hl
      obtain ⟨-, rfl⟩ := tryLock_eq hl
      simp only [h.slot, hstate, if_true]
      exact h.same h.slot.symm rfl
  | refused => exact h.same rfl rfl
  | _ => cases hfree

theorem closeSlot_keeps (hslot : c.slot = some conn) (hlt : conn < c.connections.length) :
    Keeps conn c.closeSlot.1 := by
  simp only [closeSlot, hslot]
  exact .inr (closedAt_modify hlt fun _ => rfl)

theorem stepDisconnect_keeps (h : c.Ready conn k) (inside : Bool) (point : DisconnectPoint)
    (hfree : (Call.disconnect point).role.owns = none) : Keeps conn (stepDisconnect w id inside c point).1 := by
  cases point with
  | entered =>
    simp only [stepDisconnect]
    split
    · exact h.same rfl rfl
    · rename_i hcut
      exact cutLink_keeps h hcut
  | stopping => exact h.same rfl rfl
  | submitting =>
    simp only [stepDisconnect]
    split <;> exact h.same rfl rfl
  | queued =>
    simp only [stepDisconnect]
    split
    · exact closeSlot_keeps h.slot h.lt
    · split
      · exact h.same rfl rfl
      · split
        · rename_i hl
          obtain ⟨-, rfl⟩ := tryLock_eq hl
          exact closeSlot_keeps h.slot h.lt
        · exact h.same rfl rfl
  | closing conn' => cases hfree

theorem stepShutdown_keeps (h : c.Ready conn k) (point : ShutdownPoint) : Keeps conn (stepShutdown c point).1 := by
  cases point with
  | entered =>
    simp only [stepShutdown]
    split <;> exact h.same rfl rfl
  | cancelling =>
    simp only [stepShutdown]
    split
    · exact h.same rfl rfl
    · rename_i hcut
      exact cutLink_keeps h hcut
  | stopping => exact h.same rfl rfl
  | releasing =>
    cases hheld : c.holder with
    | some j =>
      simp only [stepShutdown, hheld]
      exact h.same rfl rfl
    | none =>
      simp only [stepShutdown, hheld, h.slot]
      exact .inr (closedAt_modify h.lt fun _ => rfl)

/-- A request that settles leaves its connection in the slot, or closes it when the conversation is shut down. -/
theorem Ready.settle (h : c.Ready conn k) (result : Except RequestError Response) :
    Keeps conn (settleRequest data c result).1 := by
  unfold settleRequest
  split
  · exact h.same rfl rfl
  · simp only [h.slot]
    exact .inr (closedAt_modify h.lt fun _ => rfl)

theorem Course.keeps {fit : Prop} {r : Conversation × Call} (h : Course fit conn data (some conn) r) (hfit : fit) :
    Keeps conn r.1 := by
  cases h with
  | goes hunder hslot hk husable => exact .inl ⟨_, hslot, hk, husable hfit⟩
  | settles hslot hk hends => exact Ready.settle ⟨hslot, hk, hends.usable hfit⟩ _

theorem startExchange_keeps (h : c.Ready conn k) : Keeps conn (startExchange data c).1 := by
  have hready : Ready conn k.discardPending.1 (c.modifyConnection conn fun _ => k.discardPending.1) :=
    ⟨h.slot, getElem?_modifyConnection h.connection _, h.usable.discardPending⟩
  rw [startExchange_eq h.slot h.connection h.usable.activated]
  split
  · exact hready.settle _
  · exact .inl ⟨_, hready⟩

theorem stepRequest_keeps (h : c.Ready conn k) (inside : Bool) (point : RequestPoint)
    (hfree : (Call.request data point).role.owns = none)
    (hunder : engaged? (.request data point) = some conn → Under conn point)
    (hborrows : ∀ conn', engaged? (.request data point) = some conn' → conn' = conn)
    (hwrites : ∀ frame, point = .writing conn frame → k.write? frame ≠ none) :
    Keeps conn (stepRequest w id data inside c point).1 := by
  have hcourse : Under conn point → Keeps conn (stepRequest w id data inside c point).1 := by
    intro hunder
    have hstep : Course True conn data c.slot (stepRequest w id data inside c point) :=
      stepRequest_course hunder h.connection (fun _ => h.usable) (fun frame hpoint _ => hwrites frame hpoint)
        w id inside
    rw [h.slot] at hstep
    exact hstep.keeps trivial
  cases point with
  | entered =>
    simp only [stepRequest]
    split
    · exact h.same rfl rfl
    · split <;> exact h.same rfl rfl
  | submitting =>
    simp only [stepRequest]
    split <;> exact h.same rfl rfl
  | queued =>
    simp only [stepRequest]
    split
    · exact h.same rfl rfl
    · rename_i hl
      obtain ⟨-, rfl⟩ := tryLock_eq hl
      exact startExchange_keeps ⟨h.slot, h.connection, h.usable⟩
  | writing conn' frame =>
    obtain rfl := hborrows conn' rfl
    exact hcourse (hunder rfl)
  | waiting conn' waiting =>
    obtain rfl := hborrows conn' rfl
    exact hcourse (hunder rfl)
  | closing conn' result => cases hfree

theorem stepCall_keeps (hreach : Reachable c) (h : c.Ready conn k) (ht : c.threads[id]? = some t)
    (hwrites : ∀ data frame, t.call = .request data (.writing conn frame) → k.write? frame ≠ none) (w : Worker) :
    Keeps conn (stepCall w id t.inside c t.call).1 := by
  obtain ⟨call, inside⟩ := t
  have hrole : c.cells.roles id = call.role := roleOf_eq ht
  have hfree : call.role.owns = none := by
    cases hown : call.role.owns with
    | none => rfl
    | some conn' => cases (hreach.fitting.placed.owned id conn' (hrole ▸ hown)).symm.trans h.slot
  cases call with
  | connect target host point => exact stepConnect_keeps h inside point hfree
  | disconnect point => exact stepDisconnect_keeps h inside point hfree
  | request data point =>
    have hborrows : ∀ conn', engaged? (.request data point) = some conn' → conn' = conn := by
      intro conn' hengaged
      have hborrowed := hreach.fitting.placed.borrowed id conn' (hrole.trans (role_of_engaged hengaged))
      exact Option.some.inj (hborrowed.symm.trans h.slot)
    exact stepRequest_keeps h inside point hfree (fun hengaged => hreach.under ht hengaged) hborrows
      fun frame hpoint => hwrites data frame (by rw [hpoint])
  | shutdown point => exact stepShutdown_keeps h point
  | startup => exact h.same rfl rfl
  | returned outcome => exact h.same rfl rfl

/-! Every event. -/

/-- Whatever happens, a usable connection in the slot stays there and stays usable, unless it comes to harm. -/
theorem Ready.apply (h : c.Ready conn k) (hreach : Reachable c) (hsafe : ¬ Harm conn w c e) :
    ∃ k', (c.apply w e).Ready conn k' := by
  have hkeeps : Keeps conn (c.apply w e) → ∃ k', (c.apply w e).Ready conn k' := by
    rintro (hready | hclosed)
    · exact hready
    · exact absurd (.closed hclosed) hsafe
  cases e with
  | call operation inside => exact hkeeps (h.same rfl rfl)
  | advance id =>
    cases ht : c.threads[id]? with
    | none =>
      have hsame : c.apply w (.advance id) = c := advance_ended (by rw [ht]; nofun) w
      rw [hsame]
      exact ⟨k, h⟩
    | some t =>
      refine hkeeps ?_
      have hstep := stepCall_keeps hreach h ht (fun data frame hcall hnone => ?_) w
      · show Keeps conn (c.advance w id)
        rw [advance_eq ht]
        exact hstep.imp_left fun ⟨k', hk'⟩ => ⟨k', hk'.slot, hk'.connection, hk'.usable⟩
      · obtain ⟨call, inside⟩ := t
        cases hcall
        exact hsafe (.unwritten ht h.connection hnone)
  | dialled i dial => exact hkeeps (h.modify fun _ => ⟨h.usable.activated, h.usable.opened, h.usable.receiving⟩)
  | arrive i a =>
    refine hkeeps (h.modify fun hi => h.usable.arrive ?_ fun s hs => ?_)
    · exact hreach.sound.kept k (List.mem_of_getElem? h.connection)
    · subst hi
      exact Bool.eq_false_iff.2 fun hlost => hsafe (.lost h.connection hs hlost)
  | noticeClosed i => exact hkeeps (h.modify fun _ => h.usable.noticeClosed)
  | sever i =>
    exact hkeeps (h.modify fun _ => h.usable.map_stream rfl rfl (fun s => { s with broken := true }) rfl fun _ => rfl)
  | elapse ms => exact hkeeps (h.same rfl rfl)
  | shutDown => exact absurd (.closed ⟨k.close, List.getElem?_map.trans (by rw [h.connection]; rfl), rfl⟩) hsafe
  | dropTasks => exact absurd .ended hsafe

theorem Ready.play (h : c.Ready conn k) (hreach : Reachable c) (hsafe : c.Unharmed conn es) :
    ∃ k', (c.play es).Ready conn k' := by
  induction es generalizing c k with
  | nil => exact ⟨k, h⟩
  | cons p es ih =>
    obtain ⟨k', h'⟩ := h.apply hreach hsafe.1
    exact ih h' (hreach.apply p.1 p.2) hsafe.2

theorem play_addresses (es : List (Worker × Event)) (hk : c.connections[conn]? = some k) :
    ∃ k', (c.play es).connections[conn]? = some k' ∧ k'.server = k.server ∧ k'.settings = k.settings := by
  induction es generalizing c k with
  | nil => exact ⟨k, hk, rfl, rfl⟩
  | cons p es ih =>
    obtain ⟨k₁, hk₁, hserver, hset⟩ := apply_addresses p.1 p.2 hk
    obtain ⟨k', hk', hserver', hset'⟩ := ih hk₁
    exact ⟨k', hk', hserver'.trans hserver, hset'.trans hset⟩

end Doip.Conversation
