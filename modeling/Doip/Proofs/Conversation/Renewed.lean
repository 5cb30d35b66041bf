import Doip.Proofs.Conversation.Armed
import Doip.Proofs.Conversation.Stopped

/-! A conversation with the calls and connections of earlier days in front of its own (`behind`). Whatever happens to
it is what happens to the conversation without them, under other numbers (`behind_run`). A conversation at rest that
has let go of its connection is a new one behind what was before (`Served.renewed`). -/

namespace Doip

def Wait.after (n : Nat) (wait : Wait) : Wait := { wait with key := n + wait.key }

namespace Timer

/-- The waits of later calls. -/
def after (n : Nat) (t : Timer) : Timer := { t with waits := t.waits.map (Wait.after n) }

variable (n : Nat) (t : Timer) (key : Nat)

theorem after_arm (timeout : Nat) : (t.after n).arm (n + key) timeout = (t.arm key timeout).after n := by
  simp [after, arm, Wait.after]

theorem after_finish : (t.after n).finish (n + key) = (t.finish key).after n := by
  simp [after, finish, List.filter_map, Function.comp_def, Wait.after]

theorem after_stop : (t.after n).stop = t.stop.after n := by
  unfold stop after
  split <;> simp [Wait.after]

theorem after_elapse (ms : Nat) : (t.after n).elapse ms = (t.elapse ms).after n := by
  simp only [after, elapse, List.map_map]
  rfl

theorem after_wait? : (t.after n).wait? (n + key) = (t.wait? key).map (Wait.after n) := by
  have hkeys : (fun w : Wait => decide (w.key = n + key)) ∘ Wait.after n = fun w => decide (w.key = key) := by
    funext w
    simp [Wait.after]
  simp only [after, wait?, List.find?_map, hkeys]

end Timer

/-- How a wait ends does not depend on whose it is. -/
theorem Connection.resume_after (k : Connection) (text : String) (wait : Wait) (n : Nat) (shutDown : Bool)
    (waiting : Waiting) :
    k.resume text (wait.after n) shutDown waiting = k.resume text wait shutDown waiting := by
  cases waiting <;> rfl

/-! The same point of a call whose connections have later numbers. -/

def ConnectPoint.after (m : Nat) : ConnectPoint → ConnectPoint
  | .replacing endpoint stale => .replacing endpoint (m + stale)
  | .waiting endpoint conn op => .waiting endpoint (m + conn) op
  | .writing endpoint conn => .writing endpoint (m + conn)
  | .failing conn => .failing (m + conn)
  | point => point

def DisconnectPoint.after (m : Nat) : DisconnectPoint → DisconnectPoint
  | .closing conn => .closing (m + conn)
  | point => point

def RequestPoint.after (m : Nat) : RequestPoint → RequestPoint
  | .writing conn frame => .writing (m + conn) frame
  | .waiting conn op => .waiting (m + conn) op
  | .closing conn result => .closing (m + conn) result
  | point => point

def Call.after (m : Nat) : Call → Call
  | .connect target host point => .connect target host (point.after m)
  | .disconnect point => .disconnect (point.after m)
  | .request data point => .request data (point.after m)
  | call => call

namespace Conversation

/-- A conversation behind other calls and connections. -/
def behind (old : List Thread) (dead : List Connection) (c : Conversation) : Conversation :=
  { c with
    link := c.link.map fun l => { l with connection := dead.length + l.connection }
    slot := c.slot.map (dead.length + ·)
    holder := c.holder.map (old.length + ·)
    line := c.line.map (old.length + ·)
    timer := c.timer.after old.length
    connections := dead ++ c.connections
    threads := old ++ c.threads.map fun t => { t with call := t.call.after dead.length } }

/-- The same event for later calls and connections. -/
def Event.after (n m : Nat) : Event → Event
  | .call operation inside => .call operation inside
  | .advance id => .advance (n + id)
  | .dialled conn dial => .dialled (m + conn) dial
  | .arrive conn a => .arrive (m + conn) a
  | .noticeClosed conn => .noticeClosed (m + conn)
  | .sever conn => .sever (m + conn)
  | .elapse ms => .elapse ms
  | .shutDown => .shutDown
  | .dropTasks => .dropTasks

section Behind

variable (old : List Thread) (dead : List Connection) (c : Conversation) (w : Worker) (id conn : Nat)
variable {target : Address} {host : Option IpAddress} {data : Bytes}

@[simp] theorem behind_running : (c.behind old dead).running = c.running := rfl

@[simp] theorem behind_settings : (c.behind old dead).settings = c.settings := rfl

@[simp] theorem behind_slot : (c.behind old dead).slot = c.slot.map (dead.length + ·) := rfl

@[simp] theorem behind_holder : (c.behind old dead).holder = c.holder.map (old.length + ·) := rfl

@[simp] theorem behind_timer : (c.behind old dead).timer = c.timer.after old.length := rfl

theorem behind_emptied : { c.behind old dead with slot := none } = { c with slot := none }.behind old dead := rfl

@[simp] theorem behind_resolve : (c.behind old dead).resolve target host = c.resolve target host := rfl

@[simp] theorem behind_connection : (c.behind old dead).connections[dead.length + conn]? = c.connections[conn]? := by
  rw [behind, List.getElem?_append_right (Nat.le_add_right _ _), Nat.add_sub_cancel_left]

theorem modify_append_right {α : Type} (as bs : List α) (i : Nat) (f : α → α) :
    (as ++ bs).modify (as.length + i) f = as ++ bs.modify i f := by
  induction as with
  | nil => simp
  | cons a as ih => simp [Nat.succ_add, ih]

@[simp] theorem behind_modifyConnection (f : Connection → Connection) :
    (c.behind old dead).modifyConnection (dead.length + conn) f = (c.modifyConnection conn f).behind old dead := by
  simp only [modifyConnection, behind, modify_append_right]

@[simp] theorem behind_state : (c.behind old dead).state = c.state := by
  cases hlink : c.link with
  | none => simp only [state, behind, hlink, Option.map_none, Option.bind_none]
  | some l =>
    have hlink' : (c.behind old dead).link = some ⟨dead.length + l.connection, l.server⟩ := by rw [behind, hlink]; rfl
    rw [state, state, hlink, hlink', Option.bind_some, Option.bind_some, behind_connection]

@[simp] theorem behind_unlock : (c.behind old dead).unlock = c.unlock.behind old dead := by
  simp [unlock, behind, List.head?_map, List.map_tail]

@[simp] theorem behind_tryLock :
    (c.behind old dead).tryLock (old.length + id) = (c.tryLock id).map (behind old dead) := by
  cases hholder : c.holder <;> simp [tryLock, behind, hholder]

@[simp] theorem behind_cutLink : (c.behind old dead).cutLink = c.cutLink.map (behind old dead) := by
  cases hlink : c.link with
  | none => simp [cutLink, behind, hlink]
  | some l =>
    have hcut := behind_modifyConnection old dead { c with link := none } l.connection Connection.close
    simpa [cutLink, behind, hlink] using hcut

@[simp] theorem behind_resumeWait (text : String) (waiting : Waiting) :
    (c.behind old dead).resumeWait w (old.length + id) text (dead.length + conn) waiting =
      Prod.map (behind old dead) (fun r => r) (c.resumeWait w id text conn waiting) := by
  have hwait : (c.behind old dead).timer.wait? (old.length + id) = (c.timer.wait? id).map (Wait.after old.length) :=
    Timer.after_wait? _ _ _
  unfold resumeWait
  rw [hwait, behind_connection]
  cases c.timer.wait? id with
  | none => rfl
  | some wait =>
    cases c.connections[conn]? with
    | none => rfl
    | some k =>
      simp only [Option.map_some, Connection.resume_after, behind_modifyConnection]
      split
      · rfl
      · rw [behind_timer, Timer.after_finish]
        rfl

@[simp] theorem behind_arm (timeout : Nat) :
    { c.behind old dead with timer := (c.behind old dead).timer.arm (old.length + id) timeout } =
      { c with timer := c.timer.arm id timeout }.behind old dead := by
  rw [behind_timer, Timer.after_arm]
  rfl

@[simp] theorem behind_beginWait (text : String) (timeout : Nat) (waiting : Waiting) :
    (c.behind old dead).beginWait w (old.length + id) text (dead.length + conn) timeout waiting =
      Prod.map (behind old dead) (fun r => r) (c.beginWait w id text conn timeout waiting) := by
  rw [beginWait, behind_arm, behind_resumeWait]
  rfl

/-! Connecting. -/

/-- What a step of a call comes to behind other calls and connections. -/
def behindStep (r : Conversation × Call) : Conversation × Call := (r.1.behind old dead, r.2.after dead.length)

@[simp] theorem behind_finishCall (outcome : Outcome) :
    finishCall (c.behind old dead) outcome = behindStep old dead (finishCall c outcome) := rfl

theorem behind_failConnect :
    failConnect target host (c.behind old dead) (dead.length + conn) =
      behindStep old dead (failConnect target host c conn) := by
  simp only [failConnect, behind_modifyConnection]
  rfl

theorem behind_afterConnectWait (endpoint : Endpoint) (r : Conversation × (Waiting ⊕ Settled)) :
    afterConnectWait target host endpoint (dead.length + conn) (Prod.map (behind old dead) (fun r => r) r) =
      behindStep old dead (afterConnectWait target host endpoint conn r) := by
  obtain ⟨c, waiting | settled⟩ := r
  · rfl
  · cases settled with
    | connect result =>
      cases result with
      | error e => exact behind_failConnect old dead c conn
      | ok _ => simp [afterConnectWait, behindStep, Call.after, ConnectPoint.after]
    | activation result =>
      cases result with
      | error e => exact behind_failConnect old dead c conn
      | ok _ =>
        simp only [afterConnectWait, Prod.map]
        rw [← behind_finishCall, ← behind_unlock]
        rfl
    | acknowledgement result => exact behind_failConnect old dead c conn
    | response result => exact behind_failConnect old dead c conn

theorem behind_linkNew :
    (c.behind old dead).linkNew w target = (c.linkNew w target).behind old dead := by
  simp [linkNew, behind]

theorem behind_startConnect (endpoint : Endpoint) :
    startConnect w (old.length + id) target host (c.behind old dead) endpoint =
      behindStep old dead (startConnect w id target host c endpoint) := by
  have hlen : (c.behind old dead).connections.length = dead.length + c.connections.length := List.length_append
  rw [startConnect_eq, startConnect_eq, behind_linkNew, hlen, behind_beginWait, behind_afterConnectWait]
  rfl

theorem behind_stepConnect (inside : Bool) (point : ConnectPoint) :
    stepConnect w (old.length + id) target host inside (c.behind old dead) (point.after dead.length) =
      behindStep old dead (stepConnect w id target host inside c point) := by
  cases point with
  | entered => cases hrun : c.running <;> simp [ConnectPoint.after, stepConnect, hrun, behindStep, Call.after]
  | checked =>
    simp only [ConnectPoint.after, stepConnect, behind_state, behind_resolve]
    split
    · rfl
    · split <;> rfl
  | submitting endpoint =>
    simp only [ConnectPoint.after, stepConnect]
    split <;> rfl
  | queued endpoint =>
    simp only [ConnectPoint.after, stepConnect, behind_tryLock]
    cases c.tryLock id with
    | none => rfl
    | some c₁ =>
      simp only [Option.map_some, behind_slot]
      cases hslot : c₁.slot with
      | none => exact behind_startConnect old dead c₁ w id endpoint
      | some conn =>
        simp only [Option.map_some, behind_connection]
        split
        · rw [behind_unlock]
          rfl
        · rw [behind_emptied, behind_modifyConnection]
          rfl
  | replacing endpoint stale =>
    simp only [ConnectPoint.after, stepConnect, behind_modifyConnection, behind_startConnect]
  | waiting endpoint conn waiting =>
    simp only [ConnectPoint.after, stepConnect, behind_resumeWait, behind_afterConnectWait]
  | writing endpoint conn =>
    simp only [ConnectPoint.after, stepConnect, behind_connection]
    split
    · rfl
    · split
      · rw [behind_modifyConnection, behind_failConnect]
      · rw [behind_modifyConnection, behind_beginWait, behind_afterConnectWait]
  | failing conn =>
    simp only [ConnectPoint.after, stepConnect, behind_modifyConnection]
    have hcut : { (c.modifyConnection conn Connection.finishDisconnect).behind old dead with link := none } =
        { c.modifyConnection conn Connection.finishDisconnect with link := none }.behind old dead := rfl
    rw [hcut, behind_unlock]
    rfl
  | refused => rfl

/-! Disconnecting. -/

theorem behind_closeSlot : (c.behind old dead).closeSlot = behindStep old dead c.closeSlot := by
  unfold closeSlot
  cases hslot : c.slot with
  | none =>
    simp only [behind_slot, hslot, Option.map_none, behind_unlock]
    rfl
  | some conn =>
    simp only [behind_slot, hslot, Option.map_some, behind_emptied, behind_modifyConnection]
    rfl

theorem behind_stepDisconnect (inside : Bool) (point : DisconnectPoint) :
    stepDisconnect w (old.length + id) inside (c.behind old dead) (point.after dead.length) =
      behindStep old dead (stepDisconnect w id inside c point) := by
  cases point with
  | entered =>
    simp only [DisconnectPoint.after, stepDisconnect, behind_cutLink]
    cases c.cutLink <;> rfl
  | stopping =>
    simp only [DisconnectPoint.after, stepDisconnect]
    rw [behind_timer, Timer.after_stop]
    rfl
  | submitting =>
    simp only [DisconnectPoint.after, stepDisconnect]
    split <;> rfl
  | queued =>
    have hmine : (c.behind old dead).holder = some (old.length + id) ↔ c.holder = some id := by
      cases hholder : c.holder <;> simp [behind, hholder]
    have hlined : old.length + id ∈ (c.behind old dead).line ↔ id ∈ c.line := by simp [behind]
    simp only [DisconnectPoint.after, stepDisconnect, hmine, hlined, behind_tryLock]
    split
    · exact behind_closeSlot old dead c
    · split
      · rfl
      · cases c.tryLock id with
        | none => simp [behindStep, behind, Call.after, DisconnectPoint.after]
        | some c₁ => exact behind_closeSlot old dead c₁
  | closing conn =>
    simp only [DisconnectPoint.after, stepDisconnect, behind_modifyConnection, behind_unlock]
    rfl

/-! Requests. -/

theorem behind_settleRequest (result : Except RequestError Response) :
    settleRequest data (c.behind old dead) result = behindStep old dead (settleRequest data c result) := by
  unfold settleRequest
  rw [behind_unlock]
  by_cases hrun : c.running = true
  · rw [if_pos hrun, if_pos (show (c.behind old dead).running = true from hrun)]
    rfl
  · rw [if_neg hrun, if_neg (show ¬(c.behind old dead).running = true from hrun), behind_slot]
    cases c.slot with
    | none => rfl
    | some conn =>
      simp only [Option.map_some, behind_emptied, behind_modifyConnection]
      rfl

theorem behind_responseOf (bs : Bytes) :
    (c.behind old dead).responseOf (dead.length + conn) bs = c.responseOf conn bs := by
  simp only [responseOf, behind_connection, behind_settings]

theorem behind_afterResponseWait (r : Conversation × (Waiting ⊕ Settled)) :
    afterResponseWait data (dead.length + conn) (Prod.map (behind old dead) (fun r => r) r) =
      behindStep old dead (afterResponseWait data conn r) := by
  obtain ⟨c, waiting | settled⟩ := r
  · rfl
  · cases settled with
    | response result =>
      cases result with
      | ok bs =>
        simp only [afterResponseWait, Prod.map, behind_responseOf]
        exact behind_settleRequest old dead c _
      | error e => exact behind_settleRequest old dead c _
    | _ => exact behind_settleRequest old dead c _

theorem behind_startResponse :
    startResponse w (old.length + id) data (c.behind old dead) (dead.length + conn) =
      behindStep old dead (startResponse w id data c conn) := by
  simp only [startResponse, behind_connection]
  split
  · exact behind_settleRequest old dead c _
  · split
    · rw [behind_modifyConnection, behind_responseOf, behind_settleRequest]
    · rw [behind_modifyConnection, behind_settleRequest]
    · rw [behind_modifyConnection, behind_settings, behind_beginWait, behind_afterResponseWait]

theorem behind_afterRequestWait (r : Conversation × (Waiting ⊕ Settled)) :
    afterRequestWait w (old.length + id) data (dead.length + conn) (Prod.map (behind old dead) (fun r => r) r) =
      behindStep old dead (afterRequestWait w id data conn r) := by
  obtain ⟨c, waiting | settled⟩ := r
  · rfl
  · cases settled with
    | acknowledgement result =>
      cases result with
      | ok outcome =>
        cases outcome with
        | positive => exact behind_startResponse old dead c w id conn
        | negative code => exact behind_settleRequest old dead c _
      | error e => cases e <;> exact behind_settleRequest old dead c _
    | connect result => exact behind_afterResponseWait old dead conn (c, .inr (.connect result))
    | activation result => exact behind_afterResponseWait old dead conn (c, .inr (.activation result))
    | response result => exact behind_afterResponseWait old dead conn (c, .inr (.response result))

theorem behind_startExchange :
    startExchange data (c.behind old dead) = behindStep old dead (startExchange data c) := by
  unfold startExchange
  cases hslot : c.slot with
  | none =>
    simp only [behind_slot, hslot, Option.map_none, Option.bind_none]
    exact behind_settleRequest old dead c _
  | some conn =>
    cases hk : c.connections[conn]? with
    | none =>
      simp only [behind_slot, hslot, Option.map_some, Option.bind_some, behind_connection, hk, Option.map_none]
      exact behind_settleRequest old dead c _
    | some k =>
      simp only [behind_slot, hslot, Option.map_some, Option.bind_some, behind_connection, hk]
      split
      · exact behind_settleRequest old dead c _
      · rw [behind_modifyConnection]
        split
        · exact behind_settleRequest old dead _ _
        · rfl

theorem behind_stepRequest (inside : Bool) (point : RequestPoint) :
    stepRequest w (old.length + id) data inside (c.behind old dead) (point.after dead.length) =
      behindStep old dead (stepRequest w id data inside c point) := by
  cases point with
  | entered =>
    simp only [RequestPoint.after, stepRequest]
    split
    · rfl
    · cases hrun : c.running <;> simp [hrun, behindStep, Call.after, RequestPoint.after]
  | submitting =>
    simp only [RequestPoint.after, stepRequest]
    split <;> rfl
  | queued =>
    simp only [RequestPoint.after, stepRequest, behind_tryLock]
    cases c.tryLock id with
    | none => rfl
    | some c₁ => exact behind_startExchange old dead c₁
  | writing conn frame =>
    simp only [RequestPoint.after, stepRequest, behind_connection]
    split
    · rfl
    · split
      · rw [behind_modifyConnection, behind_settleRequest]
      · rw [behind_modifyConnection, behind_settings, behind_beginWait, behind_afterRequestWait]
  | waiting conn waiting =>
    simp only [RequestPoint.after, stepRequest, behind_resumeWait, behind_afterRequestWait]
  | closing conn result =>
    simp only [RequestPoint.after, stepRequest, behind_modifyConnection, behind_unlock]
    rfl

/-! All calls. -/

theorem releasing_of_free {c : Conversation} {conn : Nat} (hfree : c.holder = none) (hslot : c.slot = some conn) :
    stepShutdown c .releasing =
      finishCall ({ c with slot := none }.modifyConnection conn Connection.abandon) .done := by
  simp only [stepShutdown, hfree, hslot]

theorem behind_stepShutdown (point : ShutdownPoint) :
    stepShutdown (c.behind old dead) point = behindStep old dead (stepShutdown c point) := by
  cases point with
  | entered =>
    cases hrun : c.running with
    | false => simp [stepShutdown, hrun]
    | true =>
      simp only [stepShutdown, behind_running, hrun, if_true]
      rfl
  | cancelling =>
    simp only [stepShutdown, behind_cutLink]
    cases c.cutLink <;> rfl
  | stopping =>
    simp only [stepShutdown]
    rw [behind_timer, Timer.after_stop]
    rfl
  | releasing =>
    rcases Option.eq_none_or_eq_some c.holder with hfree | ⟨j, hj⟩
    · rcases Option.eq_none_or_eq_some c.slot with hempty | ⟨conn, hslot⟩
      · simp only [stepShutdown, behind_holder, hfree, behind_slot, hempty, Option.map_none]
        rfl
      · rw [releasing_of_free hfree hslot, releasing_of_free (by rw [behind_holder, hfree]; rfl)
          (by rw [behind_slot, hslot]; rfl), behind_emptied, behind_modifyConnection]
        rfl
    · simp only [stepShutdown, behind_holder, hj, Option.map_some]
      rfl

theorem behind_stepCall (inside : Bool) (call : Call) :
    stepCall w (old.length + id) inside (c.behind old dead) (call.after dead.length) =
      behindStep old dead (stepCall w id inside c call) := by
  cases call with
  | connect target host point => exact behind_stepConnect old dead c w id inside point
  | disconnect point => exact behind_stepDisconnect old dead c w id inside point
  | request data point => exact behind_stepRequest old dead c w id inside point
  | shutdown point => exact behind_stepShutdown old dead c point
  | startup => rfl
  | returned outcome => rfl

/-! Every event. -/

theorem behind_thread : (c.behind old dead).threads[old.length + id]? =
    c.threads[id]?.map fun t => { t with call := t.call.after dead.length } := by
  rw [behind, List.getElem?_append_right (Nat.le_add_right _ _), Nat.add_sub_cancel_left, List.getElem?_map]

theorem behind_set (t : Thread) :
    { c.behind old dead with threads :=
        (c.behind old dead).threads.set (old.length + id) { t with call := t.call.after dead.length } } =
      { c with threads := c.threads.set id t }.behind old dead := by
  simp only [behind]
  rw [List.set_append_right _ _ (Nat.le_add_right _ _), Nat.add_sub_cancel_left, List.map_set]

theorem behind_advance : (c.behind old dead).advance w (old.length + id) = (c.advance w id).behind old dead := by
  unfold advance
  rw [behind_thread]
  cases c.threads[id]? with
  | none => rfl
  | some t =>
    simp only [Option.map_some, behind_stepCall]
    exact behind_set old dead (stepCall w id t.inside c t.call).1 id
      { t with call := (stepCall w id t.inside c t.call).2 }

theorem behind_apply {e : Event} (he : e.served = true) :
    (c.behind old dead).apply w (e.after old.length dead.length) = (c.apply w e).behind old dead := by
  cases e with
  | call operation inside =>
    have hnew : (Call.of operation).after dead.length = Call.of operation := by cases operation <;> rfl
    simp [Event.after, apply, behind, hnew]
  | advance id => exact behind_advance old dead c w id
  | elapse ms =>
    simp only [Event.after, apply]
    rw [behind_timer, Timer.after_elapse]
    rfl
  | shutDown => cases he
  | dropTasks => cases he
  | _ => exact behind_modifyConnection old dead c _ _

theorem behind_run {es : List Event} (hes : ∀ e ∈ es, e.served = true) :
    (es.map (Event.after old.length dead.length)).foldl (apply w) (c.behind old dead) =
      (es.foldl (apply w) c).behind old dead := by
  induction es generalizing c with
  | nil => rfl
  | cons e es ih =>
    obtain ⟨he, hes⟩ := List.forall_mem_cons.1 hes
    rw [List.map_cons, List.foldl_cons, List.foldl_cons, behind_apply old dead c w he, ih _ hes]

theorem behind_outcome? : (c.behind old dead).outcome? (old.length + id) = c.outcome? id := by
  unfold outcome?
  rw [behind_thread]
  cases c.threads[id]? with
  | none => rfl
  | some t =>
    obtain ⟨call, inside⟩ := t
    cases call <;> rfl

theorem behind_serverAddress : (c.behind old dead).serverAddress = c.serverAddress := by
  cases hlink : c.link <;> simp [serverAddress, behind, hlink]

end Behind

/-! A conversation at rest. -/

/-- A conversation looks like another one whose calls and connections have earlier numbers. -/
structure Resembles (n m : Nat) (c c' : Conversation) : Prop where
  running : c.running = c'.running
  state : c.state = c'.state
  serverAddress : c.serverAddress = c'.serverAddress
  outcome : ∀ id, c.outcome? (n + id) = c'.outcome? id
  connection : ∀ conn, c.connections[m + conn]? = c'.connections[conn]?

/-- Whatever happens from now on, the conversation looks like a new one to which the same has happened. -/
def Renewed (c : Conversation) : Prop := ∀ es : List Event, (∀ e ∈ es, e.served = true) →
  Resembles c.threads.length c.connections.length
    ((es.map (Event.after c.threads.length c.connections.length)).foldl (apply {}) c)
    (es.foldl (apply {}) { settings := c.settings, version := c.version, servers := c.servers, running := c.running })

variable {c : Conversation}

theorem behind_resembles (old : List Thread) (dead : List Connection) (c : Conversation) :
    Resembles old.length dead.length (c.behind old dead) c :=
  ⟨rfl, behind_state old dead c, behind_serverAddress old dead c, behind_outcome? old dead c,
    behind_connection old dead c⟩

theorem Idle.waits (h : c.Idle) (id : Nat) : c.waits id = false := by
  rw [Conversation.waits]
  cases ht : c.threads[id]? with
  | none => rfl
  | some t =>
    obtain ⟨outcome, hcall⟩ := h t (List.mem_of_getElem? ht)
    simp [hcall, Call.isWaiting]

theorem Idle.holder (h : c.Idle) (hp : c.cells.Placed) : c.holder = none := by
  refine Option.eq_none_iff_forall_ne_some.2 fun i hi => ?_
  rcases hp.holder i hi with hholds | hlining
  · rcases h.roleOf i with hr | hr | hr <;> · rw [show c.cells.roles i = _ from hr] at hholds; cases hholds
  · exact h.not_role hlining (by simp)

/-- A conversation at rest that has no connection is a new one behind what was before. -/
theorem Served.eq_behind (h : Served c) (hidle : c.Idle) (hslot : c.slot = none) (hlink : c.link = none) :
    c = behind c.threads c.connections
      { settings := c.settings, version := c.version, servers := c.servers, running := c.running } := by
  have hplaced := h.tidy.placed
  have hholder : c.holder = none := hidle.holder hplaced
  have hline : c.line = [] := hplaced.free hholder
  have htimer : c.timer = {} := h.timer_eq hidle.waits
  obtain ⟨settings, version, servers, running, link, slot, holder, line, timer, connections, threads⟩ := c
  simp only at hslot hlink hholder hline htimer
  subst hslot hlink hholder hline htimer
  simp [behind, Timer.after]

theorem Served.renewed (h : Served c) (hidle : c.Idle) (hslot : c.slot = none) (hlink : c.link = none) :
    c.Renewed := by
  intro es hes
  have hrun := behind_run c.threads c.connections
    { settings := c.settings, version := c.version, servers := c.servers, running := c.running } {} hes
  rw [← h.eq_behind hidle hslot hlink] at hrun
  rw [hrun]
  exact behind_resembles _ _ _

end Conversation
end Doip
