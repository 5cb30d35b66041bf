import Doip.Proofs.Connection.Wait
import Doip.Proofs.Conversation.Agreement
import Doip.Proofs.Conversation.Armed
import Doip.Proofs.Conversation.Stands

/-! A call that waits, and a disconnect or a shutdown that comes upon it. A wait that has been stopped ends at the next
look, whatever there is to see (`Connection.resume_stopped`). Up to the stop of the timer the canceller is on its way
and the call goes on as it would (`Coming`), so that the loss of its connection may break it off before; from then on
it cannot but end (`Doomed.step`), and the canceller finds the slot behind it (`Broken`). -/

namespace Doip

/-! A wait that has been stopped. -/

def Settled.BrokenOff : Settled → Prop
  | .connect result => result = .error .cancelled
  | .activation result => ∃ e, result = .error e
  | .acknowledgement result => result = .error .cancelled ∨ result = .error .connectionLost
  | .response result => result = .error .cancelled ∨ result = .error .connectionLost

namespace Connection

theorem resume_fails {k : Connection} {wait : Wait} {shutDown : Bool} {e : ReceiveError}
    (he : e = .cancelled ∨ e = .connectionLost)
    (hpoll : ∀ {α : Type} (select : Message → Stream.Selection α),
      k.poll wait shutDown select = (k, [], some (.error e)))
    (text : String) {waiting : Waiting} (hframe : waiting ≠ .connect) :
    ∃ k' settled, k.resume text wait shutDown waiting = (k', .inr settled) ∧ settled.BrokenOff := by
  cases waiting with
  | connect => exact absurd rfl hframe
  | activation =>
    simp only [resume, hpoll, finishActivation]
    exact ⟨_, _, rfl, _, rfl⟩
  | acknowledgement aside =>
    simp only [resume, hpoll]
    exact ⟨_, _, rfl, he.imp (congrArg _) (congrArg _)⟩
  | response =>
    simp only [resume, hpoll]
    exact ⟨_, _, rfl, he.imp (congrArg _) (congrArg _)⟩

/-- A stopped wait ends at the next look, whatever there is to see. -/
theorem resume_stopped (k : Connection) (text : String) {wait : Wait} (hstop : wait.stopped = true) (shutDown : Bool)
    (waiting : Waiting) :
    ∃ k' settled, k.resume text wait shutDown waiting = (k', .inr settled) ∧ settled.BrokenOff := by
  have hover : (shutDown || wait.stopped) = true := by rw [hstop, Bool.or_true]
  by_cases hframe : waiting = .connect
  · rw [hframe]
    simp only [resume, Wait.poll, hover, if_true, finishConnect]
    exact ⟨_, _, rfl, rfl⟩
  · cases hs : k.stream with
    | none => exact resume_fails (.inr rfl) (fun _ => poll_without_stream hs) text hframe
    | some s => exact resume_fails (.inl rfl) (fun _ => poll_cancelled hs hover) text hframe

def Bereft (k : Connection) : Prop := ∃ s, k.stream = some s ∧ s.receiving = false ∧ s.queue = []

theorem Bereft.resume {k : Connection} (h : k.Bereft) (text : String) (wait : Wait) (shutDown : Bool)
    {waiting : Waiting} (hframe : waiting ≠ .connect) :
    ∃ k' settled, k.resume text wait shutDown waiting = (k', .inr settled) ∧ settled.BrokenOff := by
  obtain ⟨s, hs, hend, hempty⟩ := h
  by_cases hover : (shutDown || wait.stopped) = true
  · exact resume_fails (.inl rfl) (fun _ => poll_cancelled hs hover) text hframe
  · obtain ⟨rfl, hgoing⟩ : shutDown = false ∧ wait.stopped = false := by simpa using hover
    refine resume_fails (.inr rfl) (fun select => ?_) text hframe
    have hsame : k.searched s select = k := by
      obtain ⟨⟩ := k
      obtain ⟨⟩ := s
      cases hempty
      cases hs
      rfl
    rw [poll_eq hs hgoing, hsame, hempty]
    simp only [Stream.search, hend, if_true]

end Connection

def RequestError.BreaksOff (e : RequestError) : Prop := e = .cancelled ∨ e = .connectionLost

def Call.waitsFor? : Call → Option (Nat × Waiting)
  | .connect _ _ (.waiting _ conn waiting) => some (conn, waiting)
  | .request _ (.waiting conn waiting) => some (conn, waiting)
  | _ => none

def Call.approaching : Call → Bool
  | .disconnect .entered => true
  | .disconnect .stopping => true
  | .shutdown .entered => true
  | .shutdown .cancelling => true
  | .shutdown .stopping => true
  | _ => false

theorem Call.isWaiting_of_waitsFor {call : Call} {conn : Nat} {waiting : Waiting}
    (h : call.waitsFor? = some (conn, waiting)) : call.isWaiting = true := by
  cases call with
  | connect target host point => cases point <;> first | rfl | cases h
  | request data point => cases point <;> first | rfl | cases h
  | _ => cases h

def Call.stopping : Call → Bool
  | .disconnect .stopping => true
  | .shutdown .stopping => true
  | _ => false

def Role.past : Role → Bool
  | .failing _ => true
  | .closing _ => true
  | .succeeded => true
  | .ended => true
  | _ => false

/-- A call that makes no connection any more and does not turn the switch. -/
def Role.winds : Role → Bool
  | .away => false
  | .starting => false
  | .replacing _ => false
  | _ => true

theorem Role.winds_of_past {r : Role} (h : r.past = true) : r.winds = true := by
  cases r <;> first | rfl | cases h

theorem Role.winds_of_works {r : Role} (h : r.works.isSome = true) : r.winds = true := by
  cases r <;> first | rfl | cases h

theorem Role.past_of_works {r : Role} (h : r.works.isSome = true) : r.past = false := by
  cases r <;> first | rfl | cases h

namespace Cells

variable {v v' : Cells} {id sid : Nat} {r : Role}

theorem Turn.winds (ht : Turn id v v') (h : (v.roles id).winds = true) :
    v'.running = v.running ∧ (v.link = none → v'.link = none) := by
  cases ht with
  | create hrole => rw [hrole] at h; cases h
  | recreate hrole => rw [hrole] at h; cases h
  | shut hrole => rw [hrole] at h; cases h
  | start hrole => rw [hrole] at h; cases h
  | cut => exact ⟨rfl, fun _ => rfl⟩
  | cancel => exact ⟨rfl, fun _ => rfl⟩
  | forget => exact ⟨rfl, fun _ => rfl⟩
  | failed => exact ⟨rfl, fun _ => rfl⟩
  | _ => exact ⟨rfl, fun hlink => hlink⟩

theorem Turn.past (ht : Turn id v v') (h : (v.roles id).past = true) : (v'.roles id).past = true := by
  cases ht with
  | stay => exact h
  | queue => exact h
  | _ =>
    simp only [put, unlock] at *
    grind -linarith [Role.past]

theorem Turn.works (ht : Turn id v v') (h : v.roles id = r) (hr : r.works.isSome = true) :
    v'.roles id = r ∧ v'.running = v.running ∧ v'.link = v.link ∨ (v'.roles id).past = true := by
  cases ht with
  | stay => exact .inl ⟨h, rfl, rfl⟩
  | queue => exact .inl ⟨h, rfl, rfl⟩
  | _ =>
    simp only [put, unlock] at *
    grind -linarith [Role.past, Role.works]

/-- What is in the slot is still to be taken out, by a canceller on its way or by the call that uses it. -/
def Leaving (id sid : Nat) (v : Cells) : Prop :=
  v.slot ≠ none → (v.roles sid).cuts = true ∨ v.running = false ∧ ∃ conn, v.roles id = .borrowing conn

theorem Leaving.call (h : Leaving id sid v) (ht : Turn id v v') (hne : id ≠ sid) (hwinds : (v.roles id).winds = true)
    (hsucceed : v'.roles id ≠ .succeeded) (hrole : (v.roles id).cuts = false) : Leaving id sid v' := by
  cases ht with
  | stay => exact h
  | queue => exact h
  | _ =>
    unfold Leaving at *
    simp only [put, unlock] at *
    grind -linarith [Role.cuts, Role.winds]

theorem Leaving.canceller (h : Leaving id sid v) (ht : Turn sid v v') (hp : v.Placed) (hne : id ≠ sid)
    (hpast : (v.roles sid).past = true ∨ (v.roles sid).cuts = true)
    (hoff : v.roles sid = .releasing → v.running = false)
    (hwhole : v.roles sid = .cutting → v'.roles sid ≠ .ended)
    (hothers : ∀ i, i ≠ sid → v.roles i ≠ .lining ∧ (i ≠ id → (v.roles i).holds = false)) : Leaving id sid v' := by
  cases ht with
  | stay => exact h
  | queue => exact h
  | miss hrole hbusy =>
    intro hslot
    obtain ⟨conn, hconn⟩ := Option.ne_none_iff_exists'.1 hslot
    obtain ⟨i, hmine, -, huser⟩ := hp.other_user (by rw [hrole]; rfl) hbusy hconn
    have hborrows : v.roles i = .borrowing conn := huser.resolve_right (hothers i hmine).1
    have hid : i = id := by
      by_contra hother
      have hfree := (hothers i hmine).2 hother
      rw [hborrows] at hfree
      cases hfree
    exact .inr ⟨hoff hrole, conn, by rw [put_roles, if_neg hne, ← hid, hborrows]⟩
  | _ =>
    unfold Leaving at *
    simp only [put, unlock] at *
    grind -linarith [Role.cuts, Role.past]

end Cells

namespace Conversation

variable {c c' : Conversation} {id sid conn : Nat} {call : Call} {r : Role} {op : Operation} {off : Bool}

/-! The call that is broken off. -/

/-- How a call ends that is broken off while it waits. -/
inductive BrokenOff : Call → Outcome → Prop
  | connect {target : Address} {host : Option IpAddress} {point : ConnectPoint} :
      BrokenOff (.connect target host point) (.connect .failed)
  | request {data : Bytes} {point : RequestPoint} {e : RequestError} (he : e.BreaksOff) :
      BrokenOff (.request data point) (.request (.error e))

/-- A call that waits in a role, or has been broken off there, at any point from there on. -/
inductive Doomed : Role → Call → Prop
  | connecting {target : Address} {host : Option IpAddress} {endpoint : Endpoint} {conn : Nat} {waiting : Waiting} :
      Doomed (.building conn) (.connect target host (.waiting endpoint conn waiting))
  | failing {target : Address} {host : Option IpAddress} {conn : Nat} :
      Doomed (.building conn) (.connect target host (.failing conn))
  | failed {conn : Nat} : Doomed (.building conn) (.returned (.connect .failed))
  | asking {data : Bytes} {conn : Nat} {waiting : Waiting} :
      Doomed (.borrowing conn) (.request data (.waiting conn waiting))
  | closing {data : Bytes} {conn conn' : Nat} {e : RequestError} (he : e.BreaksOff) :
      Doomed (.borrowing conn) (.request data (.closing conn' (.error e)))
  | refused {conn : Nat} {e : RequestError} (he : e.BreaksOff) :
      Doomed (.borrowing conn) (.returned (.request (.error e)))

theorem Doomed.of_waiting {call : Call} (h : call.isWaiting = true) : Doomed call.role call := by
  cases call with
  | connect target host point =>
    cases point with
    | waiting endpoint conn waiting => exact .connecting
    | _ => cases h
  | request data point =>
    cases point with
    | waiting conn waiting => exact .asking
    | _ => cases h
  | _ => cases h

theorem Doomed.role (h : Doomed r call) :
    call.role.winds = true ∧ call.role ≠ .succeeded ∧ call.role ≠ .lining ∧ call.role.cuts = false := by
  cases h <;> exact ⟨rfl, nofun, nofun, rfl⟩

theorem Doomed.ended (h : Doomed r call) (hrank : call.rank = 0) : ∃ outcome, call = .returned outcome := by
  cases h with
  | failed => exact ⟨_, rfl⟩
  | refused => exact ⟨_, rfl⟩
  | @connecting _ _ _ _ waiting => cases waiting <;> cases hrank
  | @asking _ _ waiting => cases waiting <;> cases hrank
  | _ => cases hrank

theorem Doomed.works (h : Doomed r call) (hwaiting : call.isWaiting = true) :
    call.role.works.isSome = true ∧ call.role.past = false := by
  cases h with
  | connecting => exact ⟨rfl, rfl⟩
  | asking => exact ⟨rfl, rfl⟩
  | _ => cases hwaiting

theorem settleRequest_doomed {data : Bytes} (c : Conversation) {e : RequestError} (he : e.BreaksOff) :
    let r := settleRequest data c (.error e)
    Doomed (.borrowing conn) r.2 ∧ r.2.rank ≤ 1 ∧ r.1.timer = c.timer := by
  unfold settleRequest
  split
  · exact ⟨.refused he, Nat.zero_le 1, rfl⟩
  · split
    · exact ⟨.refused he, Nat.zero_le 1, rfl⟩
    · exact ⟨.closing he, Nat.le_refl 1, rfl⟩

theorem afterConnectWait_doomed {settled : Settled} (h : settled.BrokenOff) (c : Conversation) (target : Address)
    (host : Option IpAddress) (endpoint : Endpoint) (conn : Nat) :
    let r := afterConnectWait target host endpoint conn (c, .inr settled)
    Doomed (.building conn) r.2 ∧ r.2.rank ≤ 1 ∧ r.1.timer = c.timer := by
  cases settled with
  | connect result =>
    obtain rfl : result = .error .cancelled := h
    exact ⟨.failing, Nat.le_refl 1, rfl⟩
  | activation result =>
    obtain ⟨e, rfl⟩ := h
    exact ⟨.failing, Nat.le_refl 1, rfl⟩
  | acknowledgement result => exact ⟨.failing, Nat.le_refl 1, rfl⟩
  | response result => exact ⟨.failing, Nat.le_refl 1, rfl⟩

theorem afterRequestWait_doomed {settled : Settled} (h : settled.BrokenOff) (c : Conversation) (id : Nat)
    (data : Bytes) (conn : Nat) :
    let r := afterRequestWait {} id data conn (c, .inr settled)
    Doomed (.borrowing conn) r.2 ∧ r.2.rank ≤ 1 ∧ r.1.timer = c.timer := by
  cases settled with
  | connect result => exact settleRequest_doomed c (.inr rfl)
  | activation result => exact settleRequest_doomed c (.inr rfl)
  | acknowledgement result =>
    rcases h with rfl | rfl
    · exact settleRequest_doomed c (.inl rfl)
    · exact settleRequest_doomed c (.inr rfl)
  | response result =>
    rcases h with rfl | rfl
    · exact settleRequest_doomed c (.inl rfl)
    · exact settleRequest_doomed c (.inr rfl)

def Stilled (c : Conversation) : Prop := ∀ wait ∈ c.timer.waits, wait.stopped = true

theorem Stilled.same (h : c.Stilled) (htimer : c'.timer = c.timer) : c'.Stilled := by rwa [Stilled, htimer]

theorem Stilled.finish (h : c.Stilled) (id : Nat) : Stilled { c with timer := c.timer.finish id } :=
  fun wait hwait => h wait (List.mem_filter.1 hwait).1

theorem resumeWait_stilled (h : c.Stilled) (hwait : (c.timer.wait? id).isSome = true)
    (hlt : conn < c.connections.length) (text : String) (waiting : Waiting) :
    ∃ c' settled, c.resumeWait {} id text conn waiting = (c', .inr settled) ∧ settled.BrokenOff ∧
      c'.timer = c.timer.finish id := by
  obtain ⟨wait, hwait⟩ := Option.isSome_iff_exists.1 hwait
  obtain ⟨k', settled, hres, hbroken⟩ := c.connections[conn].resume_stopped text
    (h wait (Timer.mem_of_wait? hwait)) false waiting
  exact ⟨_, settled, resumeWait_inr hwait (List.getElem?_eq_getElem hlt) hres, hbroken, rfl⟩

theorem Doomed.look {waiting : Waiting} (hwaits : call.waitsFor? = some (conn, waiting))
    (hends : ∀ text, ∃ c' settled, c.resumeWait {} id text conn waiting = (c', .inr settled) ∧ settled.BrokenOff ∧
      c'.timer = c.timer.finish id) (inside : Bool) :
    let next := stepCall {} id inside c call
    Doomed call.role next.2 ∧ next.1.timer = c.timer.finish id ∧ min 2 next.2.rank < min 2 call.rank := by
  have hnear : ∀ {rank rank' : Nat}, rank' ≤ 1 → 2 ≤ rank → min 2 rank' < min 2 rank := by omega
  cases call with
  | connect target host point =>
    cases point with
    | waiting endpoint conn waiting =>
      cases hwaits
      obtain ⟨c', settled, hres, hbroken, hfinish⟩ := hends (endpointText endpoint)
      obtain ⟨hdoomed, hrank, htimer⟩ := afterConnectWait_doomed hbroken c' target host endpoint conn
      simp only [stepCall, stepConnect, hres]
      refine ⟨hdoomed, htimer.trans hfinish, hnear hrank ?_⟩
      cases waiting <;> simp [Call.rank]
    | _ => cases hwaits
  | request data point =>
    cases point with
    | waiting conn waiting =>
      cases hwaits
      obtain ⟨c', settled, hres, hbroken, hfinish⟩ := hends ""
      obtain ⟨hdoomed, hrank, htimer⟩ := afterRequestWait_doomed hbroken c' id data conn
      simp only [stepCall, stepRequest, hres]
      refine ⟨hdoomed, htimer.trans hfinish, hnear hrank ?_⟩
      cases waiting <;> simp [Call.rank]
    | _ => cases hwaits
  | _ => cases hwaits

/-- A stopped call comes nearer to its end with every step, and ends broken off. -/
theorem Doomed.step (h : Doomed r call) (hstill : c.Stilled)
    (hwait : call.isWaiting = true → (c.timer.wait? id).isSome = true)
    (hmade : ∀ conn, call.role.works = some conn → conn < c.connections.length) (inside : Bool) :
    let next := stepCall {} id inside c call
    Doomed r next.2 ∧ next.1.Stilled ∧ (min 2 next.2.rank < min 2 call.rank ∨ next.2 = call ∧ call.rank = 0) := by
  have hstopped : ∀ {conn : Nat} {waiting : Waiting}, call.waitsFor? = some (conn, waiting) →
      call.role.works = some conn →
      let next := stepCall {} id inside c call
      Doomed call.role next.2 ∧ next.1.Stilled ∧
        (min 2 next.2.rank < min 2 call.rank ∨ next.2 = call ∧ call.rank = 0) := by
    intro conn waiting hwaits hworks
    have hthere := hwait (Call.isWaiting_of_waitsFor hwaits)
    obtain ⟨hdoomed, htimer, hrank⟩ := Doomed.look hwaits
      (fun text => resumeWait_stilled hstill hthere (hmade conn hworks) text waiting) inside
    exact ⟨hdoomed, (hstill.finish id).same htimer, .inl hrank⟩
  cases h with
  | connecting => exact hstopped rfl rfl
  | failing => exact ⟨.failed, hstill, .inl (by simp [stepCall, stepConnect, finishCall, Call.rank])⟩
  | failed => exact ⟨.failed, hstill, .inr ⟨rfl, rfl⟩⟩
  | asking => exact hstopped rfl rfl
  | closing he => exact ⟨.refused he, hstill, .inl (by simp [stepCall, stepRequest, finishCall, Call.rank])⟩
  | refused he => exact ⟨.refused he, hstill, .inr ⟨rfl, rfl⟩⟩

/-! The canceller. -/

/-- The canceller has yet to stop the timer, and the switch is as it needs it; so is the link, once it has taken it.
`off` is the switch behind it. -/
inductive Rises (v : Cells) : Operation → Bool → Call → Prop
  | disconnect {off : Bool} (hrun : v.running = off) : Rises v .disconnect off (.disconnect .entered)
  | disconnecting {off : Bool} (hrun : v.running = off) (hlink : v.link = none) :
      Rises v .disconnect off (.disconnect .stopping)
  | shutdown (hrun : v.running = true) : Rises v .shutdown false (.shutdown .entered)
  | cancelling (hrun : v.running = false) : Rises v .shutdown false (.shutdown .cancelling)
  | stopping (hrun : v.running = false) (hlink : v.link = none) : Rises v .shutdown false (.shutdown .stopping)

/-- The canceller has stopped the timer. -/
inductive Falls : Operation → Bool → Call → Prop
  | submitting {off : Bool} : Falls .disconnect off (.disconnect .submitting)
  | queued {off : Bool} : Falls .disconnect off (.disconnect .queued)
  | closing {off : Bool} {conn : Nat} : Falls .disconnect off (.disconnect (.closing conn))
  | disconnected {off : Bool} : Falls .disconnect off (.returned (.disconnect .success))
  | releasing : Falls .shutdown false (.shutdown .releasing)
  | done : Falls .shutdown false (.returned .done)

theorem Rises.approaching {v : Cells} (h : Rises v op off call) : call.approaching = true := by
  cases h <;> rfl

theorem Falls.not_approaching (h : Falls op off call) : call.approaching = false := by
  cases h <;> rfl

theorem Rises.same {v v' : Cells} (h : Rises v op off call) (hrun : v'.running = v.running)
    (hlink : v.link = none → v'.link = none) : Rises v' op off call := by
  cases h with
  | disconnect h => exact .disconnect (hrun.trans h)
  | disconnecting h hl => exact .disconnecting (hrun.trans h) (hlink hl)
  | shutdown h => exact .shutdown (hrun.trans h)
  | cancelling h => exact .cancelling (hrun.trans h)
  | stopping h hl => exact .stopping (hrun.trans h) (hlink hl)

theorem Falls.role (h : Falls op off call) :
    call.role.winds = true ∧ (call.role.past = true ∨ call.role.cuts = true) ∧
      (call.role = .releasing → off = false) := by
  cases h with
  | submitting => exact ⟨rfl, .inr rfl, nofun⟩
  | queued => exact ⟨rfl, .inr rfl, nofun⟩
  | closing => exact ⟨rfl, .inl rfl, nofun⟩
  | disconnected => exact ⟨rfl, .inl rfl, nofun⟩
  | releasing => exact ⟨rfl, .inr rfl, fun _ => rfl⟩
  | done => exact ⟨rfl, .inl rfl, nofun⟩

/-- The canceller has stopped the timer and comes to the slot behind a link that is gone. -/
structure Stops (c : Conversation) (op : Operation) (off : Bool) (call : Call) (c' : Conversation) : Prop where
  falls : Falls op off call
  cuts : call.role.cuts = true
  running : c'.running = off
  link : c'.link = none
  timer : c'.timer = c.timer.stop

/-- A step of a canceller on its way to the timer, which finds the link there if it is to take it. -/
theorem Rises.step (h : Rises c.cells op off call) (hlinked : call.stopping = false → c.link ≠ none) (sid : Nat) :
    let next := stepCall {} sid false c call
    next.2.rank < call.rank ∧
      (Rises next.1.cells op off next.2 ∧ (next.2.stopping = false → next.1.link ≠ none) ∨
        Stops c op off next.2 next.1) := by
  have hcut : c.link ≠ none →
      ∃ c', c.cutLink = some c' ∧ c'.cells.running = c.cells.running ∧ c'.cells.link = none := by
    intro hlink
    obtain ⟨l, hl⟩ := Option.ne_none_iff_exists'.1 hlink
    have hsome : c.cutLink = some ({ c with link := none }.modifyConnection l.connection Connection.close) := by
      rw [cutLink, hl]
      rfl
    obtain ⟨-, -, hcells⟩ := cutLink_eq hsome
    exact ⟨_, hsome, by rw [hcells], by rw [hcells]⟩
  have hnone : c.cells.link = none → c.link = none := Option.map_eq_none_iff.1
  cases h with
  | disconnect hrun =>
    obtain ⟨c', hcut, hsame, hgone⟩ := hcut (hlinked rfl)
    simp only [stepCall, stepDisconnect, hcut]
    exact ⟨by decide, .inl ⟨.disconnecting (hsame.trans hrun) hgone, fun hstops => by cases hstops⟩⟩
  | disconnecting hrun hlink => exact ⟨Nat.lt_succ_self 3, .inr ⟨.submitting, rfl, hrun, hnone hlink, rfl⟩⟩
  | shutdown hrun =>
    simp only [stepCall, stepShutdown, show c.running = true from hrun, if_true]
    exact ⟨by decide, .inl ⟨.cancelling rfl, fun _ => hlinked rfl⟩⟩
  | cancelling hrun =>
    obtain ⟨c', hcut, hsame, hgone⟩ := hcut (hlinked rfl)
    simp only [stepCall, stepShutdown, hcut]
    exact ⟨by decide, .inl ⟨.stopping (hsame.trans hrun) hgone, fun hstops => by cases hstops⟩⟩
  | stopping hrun hlink => exact ⟨Nat.lt_succ_self 1, .inr ⟨.releasing, rfl, hrun, hnone hlink, rfl⟩⟩

theorem closeSlot_falls (c : Conversation) (off : Bool) :
    Falls .disconnect off c.closeSlot.2 ∧ c.closeSlot.2.rank ≤ 1 ∧ c.closeSlot.1.timer = c.timer ∧
      c.closeSlot.1.running = c.running := by
  unfold closeSlot
  split
  · exact ⟨.disconnected, Nat.zero_le 1, rfl, rfl⟩
  · exact ⟨.closing, Nat.le_refl 1, rfl, rfl⟩

/-- A step of a canceller behind the timer. It comes nearer to its end unless another call has the slot, and it is not
left half-way between the link and the slot. -/
theorem Falls.step (h : Falls op off call) (c : Conversation) (sid : Nat) :
    let next := stepCall {} sid false c call
    Falls op off next.2 ∧ next.1.timer = c.timer ∧ next.1.running = c.running ∧
      (call.role = .cutting → next.2.role ≠ .ended) ∧
      (next.2.rank < call.rank ∨
        next.2 = call ∧ (c.holder = some sid ∨ c.holder = none ∧ c.line = [] → call.rank = 0)) := by
  cases h with
  | submitting => exact ⟨.queued, rfl, rfl, (fun _ hended => by cases hended), .inl (Nat.lt_succ_self 2)⟩
  | queued =>
    have hclose : ∀ c₁ : Conversation, c₁.closeSlot.2.rank < 2 := fun c₁ =>
      Nat.lt_succ_of_le (closeSlot_falls c₁ off).2.1
    simp only [stepCall, stepDisconnect]
    split
    · obtain ⟨hfalls, -, htimer, hrun⟩ := closeSlot_falls c off
      exact ⟨hfalls, htimer, hrun, (fun hcut => by cases hcut), .inl (hclose c)⟩
    · rename_i hother
      split
      · rename_i hlined
        refine ⟨.queued, rfl, rfl, (fun hcut => by cases hcut), .inr ⟨rfl, ?_⟩⟩
        rintro (hmine | ⟨-, hline⟩)
        · exact absurd hmine hother
        · rw [hline] at hlined
          cases hlined
      · split
        · rename_i c₁ hl
          obtain ⟨-, rfl⟩ := tryLock_eq hl
          obtain ⟨hfalls, -, htimer, hrun⟩ := closeSlot_falls { c with holder := some sid } off
          exact ⟨hfalls, htimer, hrun, (fun hcut => by cases hcut), .inl (hclose _)⟩
        · rename_i hl
          refine ⟨.queued, rfl, rfl, (fun hcut => by cases hcut), .inr ⟨rfl, ?_⟩⟩
          rintro (hmine | ⟨hfree, -⟩)
          · exact absurd hmine hother
          · rw [tryLock, hfree] at hl
            cases hl
  | closing => exact ⟨.disconnected, rfl, rfl, (fun hcut => by cases hcut), .inl (Nat.zero_lt_one)⟩
  | disconnected => exact ⟨.disconnected, rfl, rfl, (fun hcut => by cases hcut), .inr ⟨rfl, fun _ => rfl⟩⟩
  | releasing =>
    simp only [stepCall, stepShutdown]
    split
    · exact ⟨.done, rfl, rfl, (fun hcut => by cases hcut), .inl Nat.zero_lt_one⟩
    · exact ⟨.done, rfl, rfl, (fun hcut => by cases hcut), .inl Nat.zero_lt_one⟩
  | done => exact ⟨.done, rfl, rfl, (fun hcut => by cases hcut), .inr ⟨rfl, fun _ => rfl⟩⟩

/-! The two together. -/

/-- The canceller is on its way to the timer, and the call still works on its connection or has waited for the last
time. -/
structure Coming (r : Role) (op : Operation) (off : Bool) (id sid : Nat) (c : Conversation) : Prop where
  canceller : ∃ call, c.threads[sid]? = some ⟨call, false⟩ ∧ Rises c.cells op off call ∧
    (call.stopping = false → c.roleOf id = r → c.link ≠ none)
  call : c.roleOf id = r ∨ (c.roleOf id).past = true

/-- The timer has been stopped while the call waited, or behind the end of its wait. -/
structure Broken (r : Role) (op : Operation) (off : Bool) (id sid : Nat) (c : Conversation) : Prop where
  call : ∃ t, c.threads[id]? = some t ∧ Doomed r t.call
  canceller : ∃ call, c.threads[sid]? = some ⟨call, false⟩ ∧ Falls op off call
  stilled : c.Stilled
  running : c.running = off
  link : c.link = none
  leaving : c.cells.Leaving id sid

/-- A call and its canceller are under way, and nothing else. -/
structure Ending (r : Role) (op : Operation) (off : Bool) (id sid : Nat) (c : Conversation) : Prop where
  served : Served c
  works : r.works.isSome = true
  two : id ≠ sid
  others : ∀ j t, j ≠ id → j ≠ sid → c.threads[j]? = some t → ∃ outcome, t.call = .returned outcome
  stage : Coming r op off id sid c ∨ Broken r op off id sid c

theorem Ending.other (h : Ending r op off id sid c) {j : Nat} (hid : j ≠ id) (hsid : j ≠ sid) :
    (c.roleOf j).holds = false ∧ c.roleOf j ≠ .lining := by
  cases ht : c.threads[j]? with
  | none =>
    rw [roleOf, ht]
    exact ⟨rfl, fun hlining => by cases hlining⟩
  | some t =>
    obtain ⟨outcome, hcall⟩ := h.others j t hid hsid ht
    rw [roleOf_eq ht, hcall]
    cases outcome with
    | connect result => cases result <;> exact ⟨rfl, fun hlining => by cases hlining⟩
    | _ => exact ⟨rfl, fun hlining => by cases hlining⟩

/-! What the network does. -/

theorem Stilled.network (h : c.Stilled) {e : Event} (he : e.isNetwork = true) : (c.apply {} e).Stilled := by
  cases e with
  | call op inside => cases he
  | advance id => cases he
  | shutDown => cases he
  | dropTasks => cases he
  | elapse ms =>
    intro wait hwait
    obtain ⟨wait', hwait', rfl⟩ := List.mem_map.1 hwait
    exact h wait' hwait'
  | _ => exact h

theorem served_of_network {e : Event} (he : e.isNetwork = true) : e.served = true := by
  cases e <;> first | rfl | cases he

theorem Ending.network (h : Ending r op off id sid c) {e : Event} (he : e.isNetwork = true) :
    Ending r op off id sid (c.apply {} e) := by
  have hcells := network_cells he {} c
  have hthreads := apply_network_threads he {} c
  have hroles : (c.apply {} e).roleOf = c.roleOf := congrArg Cells.roles hcells
  refine ⟨h.served.apply (served_of_network he), h.works, h.two, by rw [hthreads]; exact h.others, ?_⟩
  rcases h.stage with hcoming | hbroken
  · obtain ⟨call, hsid, hrises, hlinked⟩ := hcoming.canceller
    refine .inl ⟨⟨call, by rw [hthreads, hsid], hcells ▸ hrises, fun hstopping hrole hnone => ?_⟩,
      hroles ▸ hcoming.call⟩
    have hlink : c.cells.link = none := hcells ▸ congrArg (Option.map _) hnone
    exact hlinked hstopping (hroles ▸ hrole) (Option.map_eq_none_iff.1 hlink)
  · refine .inr ⟨by rw [hthreads]; exact hbroken.call, by rw [hthreads]; exact hbroken.canceller,
      hbroken.stilled.network he, (congrArg Cells.running hcells).trans hbroken.running, ?_, hcells ▸ hbroken.leaving⟩
    have hlink : (c.apply {} e).cells.link = none := by
      rw [hcells]
      exact congrArg (Option.map _) hbroken.link
    exact Option.map_eq_none_iff.1 hlink

/-! What the call does. -/

theorem Coming.advance_call (h : Coming r op off id sid c) (hc : Served c) (hr : r.works.isSome = true)
    (hne : id ≠ sid) :
    Coming r op off id sid (c.advance {} id) := by
  obtain ⟨⟨call, ht, hrises, hlinked⟩, hcall⟩ := h
  have hturn := advance_turn hc.reachable.exclusive {} id
  have hsid := (getElem?_advance_of_ne (w := {}) hne).trans ht
  have hwinds : (c.cells.roles id).winds = true := by
    rcases hcall with hrole | hover
    · exact (show c.cells.roles id = r from hrole) ▸ Role.winds_of_works hr
    · exact Role.winds_of_past hover
  obtain ⟨hrun, hlink⟩ := hturn.winds hwinds
  have hrises' := hrises.same hrun hlink
  -- The link is promised only while the call works on its connection, for a connect that fails takes its link away.
  have hover : ∀ {c' : Conversation}, (c'.roleOf id).past = true → c'.roleOf id ≠ r := fun hpast hrole =>
    Bool.false_ne_true ((Role.past_of_works hr).symm.trans (hrole ▸ hpast))
  rcases hcall with hrole | hpast
  · rcases hturn.works hrole hr with ⟨hrole', -, hsame⟩ | hpast'
    · refine ⟨⟨call, hsid, hrises', fun hstopping _ hnone => hlinked hstopping hrole ?_⟩, .inl hrole'⟩
      exact Option.map_eq_none_iff.1 (hsame.symm.trans (congrArg (Option.map _) hnone))
    · exact ⟨⟨call, hsid, hrises', fun _ hrole' => absurd hrole' (hover hpast')⟩, .inr hpast'⟩
  · have hpast' := hturn.past hpast
    exact ⟨⟨call, hsid, hrises', fun _ hrole' => absurd hrole' (hover hpast')⟩, .inr hpast'⟩

theorem works_made (h : Served c) (hworks : (c.roleOf id).works = some conn) : conn < c.connections.length := by
  have htidy := h.tidy
  cases hrole : c.roleOf id <;> rw [hrole] at hworks <;> cases hworks
  · exact htidy.made.owned id conn (by rw [show c.cells.roles id = _ from hrole]; rfl)
  · exact htidy.made.slot conn (htidy.placed.borrowed id conn hrole)

theorem Broken.advance_call (h : Broken r op off id sid c) (hc : Served c) (hne : id ≠ sid) :
    Broken r op off id sid (c.advance {} id) ∧
      ∃ t t', c.threads[id]? = some t ∧ (c.advance {} id).threads[id]? = some t' ∧
        (min 2 t'.call.rank < min 2 t.call.rank ∨ t' = t ∧ t.call.rank = 0) := by
  obtain ⟨⟨t, ht, hdoomed⟩, ⟨call, hsid, hfalls⟩, hstill, hrun, hlink, hleaving⟩ := h
  have hturn := advance_turn hc.reachable.exclusive {} id
  obtain ⟨hwinds, -, -, hcuts⟩ := hdoomed.role
  have hnow : c.cells.roles id = t.call.role := roleOf_eq ht
  obtain ⟨hdoomed', hstill', hrank⟩ := hdoomed.step hstill
    (fun hwaiting => by rw [hc.reachable.sound.timed, waits, ht, Option.any_some, hwaiting])
    (fun conn hworks => works_made hc ((congrArg Role.works (roleOf_eq ht)).trans hworks)) t.inside
  have ht' := getElem?_advance (w := {}) ht
  obtain ⟨hrun', hlink'⟩ := hturn.winds (hnow ▸ hwinds)
  have hleaving' : (c.advance {} id).cells.Leaving id sid := by
    refine hleaving.call hturn hne (hnow ▸ hwinds) ?_ (hnow ▸ hcuts)
    rw [show (c.advance {} id).cells.roles id = _ from roleOf_eq ht']
    exact hdoomed'.role.2.1
  refine ⟨⟨⟨_, ht', hdoomed'⟩, ⟨call, (getElem?_advance_of_ne hne).trans hsid, hfalls⟩, ?_, hrun'.trans hrun,
    Option.map_eq_none_iff.1 (hlink' (congrArg (Option.map _) hlink)), hleaving'⟩, t, _, ht, ht',
    hrank.imp_right fun hsame => ⟨by rw [hsame.1], hsame.2⟩⟩
  rw [advance_eq ht]
  exact hstill'

/-! What the canceller does. -/

/-- Whether the call with a number stops the timer with its next step. -/
def stops (c : Conversation) (id : Nat) : Bool := c.threads[id]?.any (·.call.stopping)

/-- The canceller comes upon the call in a wait, or already broken off; in that case the link is there as long as the
canceller has not taken it. -/
def Meets (r : Role) (id sid : Nat) (c : Conversation) : Prop :=
  c.waits id = true ∨
    (∃ t, c.threads[id]? = some t ∧ Doomed r t.call) ∧ (c.stops sid = false → c.link ≠ none)

theorem Coming.meets (h : Coming r op off id sid c) (hmeets : Meets r id sid c) :
    (∃ t, c.threads[id]? = some t ∧ Doomed r t.call) ∧ (c.stops sid = false → c.link ≠ none) := by
  rcases hmeets with hwaits | hmeets
  · obtain ⟨⟨call, hsid, -, hlinked⟩, hcall⟩ := h
    obtain ⟨t, ht, hwaiting⟩ := (Option.any_eq_true _ _).1 hwaits
    have hdoomed := Doomed.of_waiting hwaiting
    have hrole : c.roleOf id = r := by
      refine hcall.resolve_right fun hpast => ?_
      rw [roleOf_eq ht, (hdoomed.works hwaiting).2] at hpast
      cases hpast
    refine ⟨⟨t, ht, hrole ▸ roleOf_eq ht ▸ hdoomed⟩, fun hstops => hlinked ?_ hrole⟩
    rwa [stops, hsid, Option.any_some] at hstops
  · exact hmeets

theorem Coming.advance_canceller (h : Coming r op off id sid c) (hc : Served c) (hne : id ≠ sid)
    (hmeets : Meets r id sid c) :
    (Coming r op off id sid (c.advance {} sid) ∨ Broken r op off id sid (c.advance {} sid)) ∧
      ∃ t t', c.threads[sid]? = some t ∧ (c.advance {} sid).threads[sid]? = some t' ∧ t'.call.rank < t.call.rank := by
  obtain ⟨⟨t, ht, hdoomed⟩, hlink⟩ := h.meets hmeets
  obtain ⟨⟨call, hsid, hrises, -⟩, hcall⟩ := h
  obtain ⟨hrank, hnext⟩ := hrises.step (fun hstopping => hlink (by rw [stops, hsid, Option.any_some, hstopping])) sid
  have hsid' := getElem?_advance (w := {}) hsid
  have ht' : (c.advance {} sid).threads[id]? = some t := (getElem?_advance_of_ne hne.symm).trans ht
  refine ⟨?_, _, _, hsid, hsid', hrank⟩
  rcases hnext with ⟨hrises', hlinked'⟩ | hstops
  · have hcells : (c.advance {} sid).running = (stepCall {} sid false c call).1.running ∧
        (c.advance {} sid).link = (stepCall {} sid false c call).1.link := by
      rw [advance_eq hsid]
      exact ⟨rfl, rfl⟩
    refine .inl ⟨⟨_, hsid', hrises'.same hcells.1 fun hnone => ?_, fun hstopping _ => ?_⟩, ?_⟩
    · exact (congrArg (Option.map _) hcells.2).trans hnone
    · rw [hcells.2]
      exact hlinked' hstopping
    · rwa [roleOf_advance_of_ne {} hne]
  · obtain ⟨hfalls, hcuts, hrun, hlink, htimer⟩ := hstops
    refine .inr ⟨⟨t, ht', hdoomed⟩, ⟨_, hsid', hfalls⟩, ?_, ?_, ?_, fun _ => .inl ?_⟩
    · rw [advance_eq hsid]
      intro wait hwait
      rw [htimer] at hwait
      exact hc.armed.stopped wait hwait
    · rw [advance_eq hsid]
      exact hrun
    · rw [advance_eq hsid]
      exact hlink
    · rw [show (c.advance {} sid).cells.roles sid = _ from roleOf_eq hsid']
      exact hcuts

theorem Broken.advance_canceller (h : Broken r op off id sid c) (hc : Served c) (hne : id ≠ sid)
    (hothers : ∀ j, j ≠ id → j ≠ sid → (c.roleOf j).holds = false ∧ c.roleOf j ≠ .lining) :
    Broken r op off id sid (c.advance {} sid) ∧
      ∃ t t', c.threads[sid]? = some t ∧ (c.advance {} sid).threads[sid]? = some t' ∧ (t'.call.rank < t.call.rank ∨
        t' = t ∧ ((c.threads[id]?.map (·.call.rank)) = some 0 → t.call.rank = 0)) := by
  obtain ⟨⟨t, ht, hdoomed⟩, ⟨call, hsid, hfalls⟩, hstill, hrun, hlink, hleaving⟩ := h
  have hturn := advance_turn hc.reachable.exclusive {} sid
  have hplaced := hc.tidy.placed
  obtain ⟨hwinds, hpast, hoff⟩ := hfalls.role
  have hnow : c.cells.roles sid = call.role := roleOf_eq hsid
  obtain ⟨hfalls', htimer, -, hwhole, hrank⟩ := hfalls.step c sid
  have hsid' := getElem?_advance (w := {}) hsid
  obtain ⟨hrun', hlink'⟩ := hturn.winds (hnow ▸ hwinds)
  have hleaving' : (c.advance {} sid).cells.Leaving id sid := by
    refine hleaving.canceller hturn hplaced hne (hnow ▸ hpast) (fun hr => hrun.trans (hoff (hnow ▸ hr))) (fun hr => ?_)
      fun j hj => ?_
    · rw [show (c.advance {} sid).cells.roles sid = _ from roleOf_eq hsid']
      exact hwhole (hnow ▸ hr)
    · by_cases hid : j = id
      · rw [hid, show c.cells.roles id = _ from roleOf_eq ht]
        exact ⟨hdoomed.role.2.2.1, fun hother => absurd rfl hother⟩
      · exact ⟨(hothers j hid hj).2, fun _ => (hothers j hid hj).1⟩
  refine ⟨⟨⟨t, (getElem?_advance_of_ne hne.symm).trans ht, hdoomed⟩, ⟨_, hsid', hfalls'⟩, ?_, hrun'.trans hrun,
    Option.map_eq_none_iff.1 (hlink' (congrArg (Option.map _) hlink)), hleaving'⟩, _, _, hsid, hsid',
    hrank.imp_right fun ⟨hsame, hzero⟩ => ⟨by rw [hsame], fun hover => hzero ?_⟩⟩
  · rw [advance_eq hsid]
    exact hstill.same htimer
  · -- Nobody else is left to have the slot.
    have hfree : ∀ i, c.holder = some i → i = sid := by
      intro i hi
      by_contra hother
      have huser := hplaced.holder i hi
      by_cases hid : i = id
      · obtain ⟨outcome, hcall⟩ := hdoomed.ended (Option.some.inj ((congrArg _ ht).symm.trans hover))
        rw [hid, show c.cells.roles id = _ from roleOf_eq ht] at huser
        have hholds := (Call.role_holds t.call).symm.trans (huser.resolve_right hdoomed.role.2.2.1)
        rw [hcall] at hholds
        cases hholds
      · have hnot := hothers i hid hother
        rcases huser with hholds | hlining
        · exact Bool.false_ne_true (hnot.1.symm.trans hholds)
        · exact hnot.2 hlining
    cases hholder : c.holder with
    | none => exact .inr ⟨rfl, hplaced.free hholder⟩
    | some i => exact .inl (by rw [hfree i hholder])

end Conversation
end Doip
