import Doip.Proofs.Conversation.Activation
import Doip.Proofs.Conversation.Cells
import Doip.Proofs.Conversation.Transact

/-! The steps of one connect that nothing delays. It finds the slot empty or takes out of it what is of no use any more,
and links to a new connection (`advance_start`, `advance_restart`). On that it asks, looks until it has heard a verdict
or has nothing to wait for (`Working`), and keeps it (`Working.welcome`) or lets go of it (`Working.giveUp`,
`Working.leave`). -/

namespace Doip

namespace Connection

variable {k : Connection} {s : Stream} {wait : Wait}

/-- A connection that waits for its activation in vain: it has heard something else, or nothing, and there is nobody to
hear from or no time. -/
def Hopeless (k : Connection) (s : Stream) (wait : Wait) : Prop :=
  match k.heard s.queue with
  | some code => code ≠ .routingSuccessful
  | none => s.receiving = false ∨ wait.expired = true

/-- A connection that has looked at its stream for nothing. -/
def disappointed (k : Connection) (s : Stream) : Connection :=
  { k.searched s k.selectActivation with state := .faulted }

theorem heard_eq (k : Connection) (ms : List Message) :
    k.heard ms = ((Stream.search k.selectActivation ms).1).map (·.code) := by
  rw [heard, search_activation]

theorem resume_hopeless (text : String) (hs : k.stream = some s) (hstop : wait.stopped = false)
    (hvain : k.Hopeless s wait) :
    ∃ e, k.resume text wait false .activation = (k.disappointed s, .inr (.activation (.error e))) := by
  have hpoll := poll_eq hs hstop k.selectActivation
  rw [Hopeless, heard_eq] at hvain
  cases hfound : (Stream.search k.selectActivation s.queue).1 with
  | some r =>
    rw [hfound] at hpoll hvain
    refine ⟨.rejected r.code, ?_⟩
    simp only [resume, hpoll, finishActivation, if_neg (show ¬r.code = .routingSuccessful from hvain)]
    rfl
  | none =>
    rw [hfound] at hpoll hvain
    cases hr : s.receiving with
    | false =>
      refine ⟨.connectionLost, ?_⟩
      simp only [resume, hpoll, hr, if_true]
      rfl
    | true =>
      have hexpired : wait.expired = true := hvain.resolve_left (by simp [hr])
      refine ⟨.timeout, ?_⟩
      simp only [resume, hpoll, hr, hexpired, Bool.true_eq_false, if_true, if_false]
      rfl

theorem resume_undecided (text : String) (hs : k.stream = some s) (hstop : wait.stopped = false)
    (hheard : k.heard s.queue = none) (hr : s.receiving = true) (hexp : wait.expired = false) :
    k.resume text wait false .activation = ({ k with stream := some { s with queue := [] } }, .inl .activation) := by
  have hpoll := poll_eq hs hstop k.selectActivation
  rw [heard_eq, Option.map_eq_none_iff] at hheard
  simp only [hheard, hr, hexp, Bool.true_eq_false, Bool.false_eq_true, if_false] at hpoll
  simp only [resume, hpoll, searched, Stream.search_rest hheard]

def farewell (k : Connection) : Connection := k.beginDisconnect.noticeClosed.finishDisconnect

theorem noticeClosed_farewell (k : Connection) : k.farewell.noticeClosed = k.farewell := by
  obtain ⟨settings, server, state, closed, dial, stream, former, early⟩ := k
  cases stream <;>
    simp [farewell, beginDisconnect, close, noticeClosed, finishDisconnect, Stream.release, Function.comp_def]

theorem stream?_farewell (hs : s ∈ k.farewell.stream? 0) : ∃ s₀ ∈ k.stream? 0, s.written = s₀.written := by
  obtain ⟨settings, server, state, closed, dial, stream, former, early⟩ := k
  cases former with
  | nil =>
    cases stream with
    | none => cases hs
    | some s₀ =>
      obtain rfl := Option.some.inj hs
      exact ⟨s₀, rfl, rfl⟩
  | cons s₀ former =>
    obtain rfl := Option.some.inj hs
    exact ⟨s₀, rfl, rfl⟩

end Connection

namespace Conversation

variable {w : Worker} {conn id : Nat} {c₀ c : Conversation} {k k' : Connection} {s : Stream} {waits : List Wait}
variable {wait : Wait} {call : Call} {target : Address} {host : Option IpAddress} {endpoint : Endpoint}

theorem modifyConnection_same (hk : c.connections[conn]? = some k) {f : Connection → Connection} (hf : f k = k) :
    c.modifyConnection conn f = c := by
  rw [modifyConnection_eq hk, hf, modifyConnection_self hk]

/-! Up to the new connection. -/

def calling (c : Conversation) (call : Call) : Conversation := { c with threads := c.threads ++ [{ call := call }] }

theorem advance_calling {call' : Call} (c' : Conversation)
    (hstep : stepCall w c.threads.length false (c.calling call) call = (c', call')) :
    (c.calling call).advance w c.threads.length = { c' with threads := c.threads ++ [{ call := call' }] } := by
  have hlast : (c.calling call).threads = c.threads ++ [{ call := call }] := rfl
  rw [advance_last hlast, hstep]

theorem advance_entered (hrunning : c.running = true) (w : Worker) :
    (c.calling (.connect target host .entered)).advance w c.threads.length =
      c.calling (.connect target host .checked) :=
  advance_calling (c.calling _) (if_pos hrunning)

theorem advance_checked (hst : c.state ≠ .activated) (hto : c.resolve target host = some endpoint) (w : Worker) :
    (c.calling (.connect target host .checked)).advance w c.threads.length =
      c.calling (.connect target host (.submitting endpoint)) := by
  refine advance_calling (c.calling (.connect target host .checked)) ?_
  have hst' : ¬(c.calling (.connect target host .checked)).state = .activated := hst
  have hto' : (c.calling (.connect target host .checked)).resolve target host = some endpoint := hto
  simp only [stepCall, stepConnect, if_neg hst', hto']

theorem advance_submitting (hw : w.cancelled = false) :
    (c.calling (.connect target host (.submitting endpoint))).advance w c.threads.length =
      c.calling (.connect target host (.queued endpoint)) := by
  refine advance_calling (c.calling (.connect target host (.submitting endpoint))) ?_
  have htaken : w.submit false = .ok () := by simp [Worker.submit, hw]
  simp only [stepCall, stepConnect, htaken]

/-- A conversation that has begun to connect, with a new connection behind those that it has had. -/
def dialling (c : Conversation) (w : Worker) (id : Nat) (target : Address) : Conversation :=
  { c.linkNew w target with
    timer := c.timer.arm id (ConnectionSettings.of c.settings c.version).connectTimeout }

theorem startConnect_dialling (hw : w.cancelled = false) (hwait : c.timer.wait? id = none) (target : Address)
    (host : Option IpAddress) (endpoint : Endpoint) :
    startConnect w id target host c endpoint =
      (c.dialling w id target, .connect target host (.waiting endpoint c.connections.length .connect)) := by
  let k : Connection :=
    Connection.beginConnect { settings := .of c.settings c.version, server := target, closed := w.cancelled }
  have hk : (c.dialling w id target).connections[c.connections.length]? = some k := List.getElem?_concat_length
  have harmed : (c.dialling w id target).timer.wait? id = some _ := Timer.wait?_arm hwait _
  have hlook : k.resume (endpointText endpoint)
      { key := id, remaining := (ConnectionSettings.of c.settings c.version).connectTimeout } w.cancelled .connect =
      (k, .inl .connect) := by
    rw [hw]
    rfl
  have hresume := resumeWait_inl harmed hk hlook
  rw [modifyConnection_self hk] at hresume
  rw [startConnect_eq]
  show afterConnectWait target host endpoint c.connections.length ((c.dialling w id target).resumeWait w id _ _ _) = _
  rw [hresume]
  rfl

/-- A connect that finds the slot free and empty has nothing to dismiss. -/
theorem advance_start (hw : w.cancelled = false) (hfree : c.holder = none) (hwaits : c.timer.waits = [])
    (hslot : c.slot = none) :
    (c.calling (.connect target host (.queued endpoint))).advance w c.threads.length =
      ({ c with holder := some c.threads.length }.dialling w c.threads.length target).calling
        (.connect target host (.waiting endpoint c.connections.length .connect)) := by
  let locked : Conversation :=
    { c.calling (.connect target host (.queued endpoint)) with holder := some c.threads.length }
  have hlock : (c.calling (.connect target host (.queued endpoint))).tryLock c.threads.length = some locked :=
    if_pos (by rw [calling, hfree]; rfl)
  have hwait : locked.timer.wait? c.threads.length = none := by
    show c.timer.wait? c.threads.length = none
    rw [Timer.wait?, hwaits]
    rfl
  refine advance_calling (locked.dialling w c.threads.length target) ?_
  have hempty : locked.slot = none := hslot
  simp only [stepCall, stepConnect, hlock, hempty]
  exact startConnect_dialling hw hwait target host endpoint

/-- What a connect takes out of the slot says goodbye first. -/
def dismissing (c : Conversation) (id stale : Nat) : Conversation :=
  { c with holder := some id, slot := none }.modifyConnection stale Connection.beginDisconnect

theorem advance_part {stale : Nat} (hfree : c.holder = none) (hslot : c.slot = some stale)
    (hst : ∀ k, c.connections[stale]? = some k → k.state ≠ .activated) (w : Worker) :
    (c.calling (.connect target host (.queued endpoint))).advance w c.threads.length =
      (c.dismissing c.threads.length stale).calling (.connect target host (.replacing endpoint stale)) := by
  let locked : Conversation :=
    { c.calling (.connect target host (.queued endpoint)) with holder := some c.threads.length }
  have hlock : (c.calling (.connect target host (.queued endpoint))).tryLock c.threads.length = some locked :=
    if_pos (by rw [calling, hfree]; rfl)
  have hheld : locked.slot = some stale := hslot
  have hout : ¬(locked.connections[stale]?.map (·.state)) = some .activated := by
    intro hact
    obtain ⟨k, hk, hstate⟩ := Option.map_eq_some_iff.1 hact
    exact hst k hk hstate
  refine advance_calling ({ locked with slot := none }.modifyConnection stale Connection.beginDisconnect) ?_
  simp only [stepCall, stepConnect, hlock, hheld, if_neg hout]

theorem advance_restart {stale : Nat} (hw : w.cancelled = false) (hwaits : c.timer.waits = []) :
    (c.calling (.connect target host (.replacing endpoint stale))).advance w c.threads.length =
      ((c.modifyConnection stale Connection.finishDisconnect).dialling w c.threads.length target).calling
        (.connect target host (.waiting endpoint c.connections.length .connect)) := by
  let gone : Conversation := (c.calling (.connect target host (.replacing endpoint stale))).modifyConnection stale
    Connection.finishDisconnect
  have hwait : gone.timer.wait? c.threads.length = none := by
    show c.timer.wait? c.threads.length = none
    rw [Timer.wait?, hwaits]
    rfl
  have hlength : gone.connections.length = c.connections.length := List.length_modify _ _ _
  refine advance_calling (gone.dialling w c.threads.length target) ?_
  rw [← hlength]
  exact startConnect_dialling hw hwait target host endpoint

/-- A conversation whose slot a connect has taken, and what was in it has said goodbye. -/
def cleared (c : Conversation) (id : Nat) : Conversation :=
  { c with
    holder := some id
    slot := none
    connections := c.slot.elim c.connections fun stale => c.connections.modify stale Connection.farewell }

theorem length_cleared (c : Conversation) (id : Nat) : (c.cleared id).connections.length = c.connections.length := by
  unfold cleared
  cases c.slot with
  | none => rfl
  | some stale => exact List.length_modify _ _ _

theorem getElem?_cleared {j : Nat} (hj : c.slot ≠ some j) (id : Nat) :
    (c.cleared id).connections[j]? = c.connections[j]? := by
  unfold cleared
  cases hslot : c.slot with
  | none => rfl
  | some stale =>
    have hne : stale ≠ j := fun heq => hj (hslot.trans (congrArg some heq))
    exact getElem?_modifyConnection_of_ne hne Connection.farewell

theorem getElem?_cleared_slot {stale : Nat} (hslot : c.slot = some stale) (id : Nat) :
    (c.cleared id).connections[stale]? = (c.connections[stale]?).map Connection.farewell := by
  simp only [cleared, hslot, Option.elim_some, List.getElem?_modify, if_true]
  rfl

theorem noticeClosed_cleared (h : ∀ k ∈ c.connections, k.noticeClosed = k) {id : Nat}
    (hk : k ∈ (c.cleared id).connections) : k.noticeClosed = k := by
  obtain ⟨j, hj⟩ := List.mem_iff_getElem?.1 hk
  by_cases hslot : c.slot = some j
  · rw [getElem?_cleared_slot hslot] at hj
    obtain ⟨k₀, -, rfl⟩ := Option.map_eq_some_iff.1 hj
    exact k₀.noticeClosed_farewell
  · rw [getElem?_cleared hslot] at hj
    exact h k (List.mem_of_getElem? hj)

/-! On the new connection. -/

/-- The last call works on one connection; all others are those of the earlier conversation. -/
structure Working (c₀ c : Conversation) (conn : Nat) (k : Connection) (waits : List Wait) (call : Call) : Prop where
  works : Works c₀ c conn k waits
  threads : c.threads = c₀.threads ++ [{ call := call }]

namespace Working

theorem beside (h : Working c₀ c conn k waits call) : Beside c₀ c conn k call :=
  ⟨h.threads, h.works.connection, h.works.others⟩

theorem put (h : Working c₀ c conn k waits call) {f : Connection → Connection} (hf : f k = k') :
    Working c₀ (c.modifyConnection conn f) conn k' waits call := ⟨h.works.put hf, h.threads⟩

theorem elapse (h : Working c₀ c conn k waits call) (w : Worker) (ms : Nat) :
    Working c₀ (c.apply w (.elapse ms)) conn k (waits.map (Wait.elapse ms)) call :=
  ⟨{ h.works with waits := congrArg (List.map (Wait.elapse ms)) h.works.waits }, h.threads⟩

theorem step (h : Working c₀ c conn k waits call) {c' : Conversation} {call' : Call} {waits' : List Wait}
    (hstep : stepCall w c₀.threads.length false c call = (c', call')) (h' : Works c₀ c' conn k' waits') :
    Working c₀ (c.advance w c₀.threads.length) conn k' waits' call' := by
  rw [advance_last h.threads, hstep]
  exact ⟨{ h' with }, rfl⟩

theorem adopt (h : Working c₀ c conn k [wait] (.connect target host (.waiting endpoint conn .connect)))
    (hkey : wait.key = c₀.threads.length) (hstop : wait.stopped = false) (hdial : k.dial = .established)
    (hw : w.cancelled = false) :
    Working c₀ (c.advance w c₀.threads.length) conn k.adopt.beginActivation []
      (.connect target host (.writing endpoint conn)) := by
  have hlook : k.resume (endpointText endpoint) wait w.cancelled .connect = (k.adopt, .inr (.connect (.ok ()))) := by
    have hdialled : k.dialled? = some (.ok ()) := by rw [Connection.dialled?, hdial]
    simp only [Connection.resume, Wait.poll, hw, hstop, hdialled, Bool.or_false, Bool.false_eq_true, if_false]
    rfl
  have hresume := resumeWait_inr (h.works.wait? hkey) h.works.connection hlook
  have hfinished := (h.works.put (f := fun _ => k.adopt) rfl).finish hkey
  refine h.step ?_ (hfinished.put (f := Connection.beginActivation) rfl)
  simp only [stepCall, stepConnect, hresume]
  rfl

theorem ask (hid : id = c₀.threads.length)
    (h : Working c₀ c conn k [] (.connect target host (.writing endpoint conn))) (hs : k.stream = some s)
    (hb : s.broken = false) (hq : s.queue = []) (hr : s.receiving = true) (hw : w.cancelled = false) :
    Working c₀ (c.advance w id) conn { k with stream := some { s with written := s.written ++ k.activationRequest } }
      [{ key := id, remaining := k.settings.activationTimeout }]
      (.connect target host (.waiting endpoint conn .activation)) := by
  subst hid
  let s' : Stream := { s with written := s.written ++ k.activationRequest }
  have hwritten : s.write k.activationRequest = s' := if_neg (by simp [hb])
  have hasked : Works c₀ (c.asked c₀.threads.length conn k s) conn { k with stream := some s' }
      [{ key := c₀.threads.length, remaining := k.settings.activationTimeout }] := by
    rw [asked, hwritten]
    exact (h.works.put (f := fun _ => { k with stream := some s' }) rfl).arm _ _
  have hnothing : Connection.heard { k with stream := some s' } s'.queue = none := by
    show Connection.heard _ s.queue = none
    rw [hq]
    rfl
  have hsame : ({ k with stream := some { s' with queue := [] } } : Connection) = { k with stream := some s' } := by
    rw [← hq]
  have hlook : Connection.resume { k with stream := some s' } (endpointText endpoint)
      { key := c₀.threads.length, remaining := k.settings.activationTimeout } w.cancelled .activation =
      ({ k with stream := some s' }, .inl .activation) := by
    rw [hw, Connection.resume_undecided _ (s := s') rfl rfl hnothing hr rfl, hsame]
  refine h.step ?_ (hasked.put (f := fun _ => { k with stream := some s' }) rfl)
  show stepConnect w _ target host false c (.writing endpoint conn) = _
  rw [stepConnect_writing h.works.connection hs hb, resumeWait_inl (hasked.wait? rfl) hasked.connection hlook]
  rfl

section Looking

variable (hid : id = c₀.threads.length)
    (h : Working c₀ c conn k [wait] (.connect target host (.waiting endpoint conn .activation)))
    (hkey : wait.key = id) (hstop : wait.stopped = false) (hs : k.stream = some s) (hw : w.cancelled = false)

include hid h hkey hstop hs hw

/-- A positive response is in the queue: the connection goes into the slot. -/
theorem welcome (hheard : k.heard s.queue = some .routingSuccessful) :
    Engaged c₀ (c.advance w id) conn { k.searched s k.selectActivation with state := .activated } none []
      (.returned (.connect .success)) := by
  subst hid
  let k' : Connection := { k.searched s k.selectActivation with state := .activated }
  have hfree : (w.cancelled || wait.stopped) = false := by rw [hw, hstop]; rfl
  have hlook : k.resume (endpointText endpoint) wait w.cancelled .activation = _ :=
    Connection.resume_activation hs hfree hheard
  have hresume := resumeWait_inr (h.works.wait? hkey) h.works.connection hlook
  have hfinished := (h.works.put (f := fun _ => k') rfl).finish hkey
  have hstep : stepCall w c₀.threads.length false c (.connect target host (.waiting endpoint conn .activation)) =
      (unlock { c.modifyConnection conn fun _ => k' with
          timer := c.timer.finish c₀.threads.length, slot := some conn }, .returned (.connect .success)) := by
    simp only [stepCall, stepConnect, hresume]
    rfl
  have hslot : Holds c₀ { c.modifyConnection conn fun _ => k' with
      timer := c.timer.finish c₀.threads.length, slot := some conn } conn k' c.holder [] :=
    ⟨{ hfinished with }, rfl, rfl⟩
  rw [advance_last h.threads, hstep]
  exact ⟨{ hslot.unlock with }, rfl⟩

theorem giveUp (hvain : k.Hopeless s wait) :
    Working c₀ (c.advance w id) conn (k.disappointed s).close [] (.connect target host (.failing conn)) := by
  subst hid
  obtain ⟨e, hlook⟩ := Connection.resume_hopeless (endpointText endpoint) hs hstop hvain
  rw [← hw] at hlook
  have hresume := resumeWait_inr (h.works.wait? hkey) h.works.connection hlook
  have hfinished := (h.works.put (f := fun _ => k.disappointed s) rfl).finish hkey
  refine h.step ?_ (hfinished.put (f := Connection.beginDisconnect) rfl)
  simp only [stepCall, stepConnect, hresume]
  rfl

theorem await (hheard : k.heard s.queue = none) (hr : s.receiving = true) (hexp : wait.expired = false) :
    Working c₀ (c.advance w id) conn { k with stream := some { s with queue := [] } } [wait]
      (.connect target host (.waiting endpoint conn .activation)) := by
  subst hid
  have hlook := Connection.resume_undecided (endpointText endpoint) hs hstop hheard hr hexp
  rw [← hw] at hlook
  refine h.step ?_ (h.works.put (f := fun _ => { k with stream := some { s with queue := [] } }) rfl)
  simp only [stepCall, stepConnect, resumeWait_inl (h.works.wait? hkey) h.works.connection hlook]
  rfl

theorem idle (hq : s.queue = []) (hr : s.receiving = true) (hexp : wait.expired = false) : c.advance w id = c := by
  subst hid
  have hheard : k.heard s.queue = none := by
    rw [hq]
    rfl
  have hlook := Connection.resume_undecided (endpointText endpoint) hs hstop hheard hr hexp
  have hsame : ({ k with stream := some { s with queue := [] } } : Connection) = k := by rw [← hq, ← hs]
  rw [hsame, ← hw] at hlook
  have hstep : stepCall w c₀.threads.length false c (.connect target host (.waiting endpoint conn .activation)) =
      (c, .connect target host (.waiting endpoint conn .activation)) := by
    simp only [stepCall, stepConnect, resumeWait_inl (h.works.wait? hkey) h.works.connection hlook,
      modifyConnection_self h.works.connection]
    rfl
  rw [advance_last h.threads, hstep, ← h.threads]

end Looking

/-- The call returns with the connection let go of and no link to it. -/
theorem leave (h : Working c₀ c conn k [] (.connect target host (.failing conn))) (w : Worker) :
    Beside c₀ (c.advance w c₀.threads.length) conn k.finishDisconnect (.returned (.connect .failed)) ∧
      (c.advance w c₀.threads.length).link = none ∧ (c.advance w c₀.threads.length).timer.waits = [] := by
  have hstep : stepCall w c₀.threads.length false c (.connect target host (.failing conn)) =
      (unlock { c.modifyConnection conn Connection.finishDisconnect with link := none },
        .returned (.connect .failed)) := rfl
  have hgone := h.works.put (f := Connection.finishDisconnect) rfl
  rw [advance_last h.threads, hstep]
  exact ⟨⟨rfl, hgone.connection, hgone.others⟩, rfl, hgone.waits⟩

end Working
end Conversation
end Doip
