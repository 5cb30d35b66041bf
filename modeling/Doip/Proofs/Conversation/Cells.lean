import Doip.Proofs.Connection.Persists
import Doip.Proofs.Conversation.Exclusive
import Doip.Proofs.Conversation.Run

/-! The cells that the calls on a conversation share, and what each call has to do with them. A call's role says
whether it uses the slot and for which connection, or whether it is about to clear the slot. What one step of a
call does to the cells and to the roles is a turn (`stepCall_turn`), whatever the connections are like. -/

namespace Doip

/-- What a call has to do with the slot and the link. -/
inductive Role
  /-- It has not come to them. -/
  | away
  | starting
  /-- It sets up a connection that is not in the slot yet. -/
  | building (conn : Nat)
  /-- It lets go of a connection that could not be set up. -/
  | failing (conn : Nat)
  /-- It lets go of the connection that was in the slot, and makes a new one behind that. -/
  | replacing (conn : Nat)
  /-- It uses the connection in the slot. -/
  | borrowing (conn : Nat)
  /-- It lets go of a connection that it has taken out of the slot. -/
  | closing (conn : Nat)
  /-- It has taken the link and goes for the slot. -/
  | cutting
  /-- It waits for the slot. -/
  | lining
  | cancelling
  | stopping
  | releasing
  | succeeded
  | ended
deriving DecidableEq

namespace Role

/-- The connection that a call has for itself. -/
def owns : Role → Option Nat
  | building conn => some conn
  | failing conn => some conn
  | replacing conn => some conn
  | closing conn => some conn
  | _ => none

/-- The call has taken the slot and has not given it back. -/
def holds : Role → Bool
  | building _ => true
  | failing _ => true
  | replacing _ => true
  | borrowing _ => true
  | closing _ => true
  | _ => false

end Role

def Call.role : Call → Role
  | .connect _ _ (.replacing _ conn) => .replacing conn
  | .connect _ _ (.waiting _ conn _) => .building conn
  | .connect _ _ (.writing _ conn) => .building conn
  | .connect _ _ (.failing conn) => .failing conn
  | .connect _ _ _ => .away
  | .disconnect .entered => .away
  | .disconnect .queued => .lining
  | .disconnect (.closing conn) => .closing conn
  | .disconnect _ => .cutting
  | .request _ (.writing conn _) => .borrowing conn
  | .request _ (.waiting conn _) => .borrowing conn
  | .request _ (.closing conn _) => .closing conn
  | .request _ _ => .away
  | .shutdown .entered => .away
  | .shutdown .cancelling => .cancelling
  | .shutdown .stopping => .stopping
  | .shutdown .releasing => .releasing
  | .startup => .starting
  | .returned (.connect .success) => .succeeded
  | .returned _ => .ended

theorem Call.role_holds (call : Call) : call.role.holds = call.holds := by
  cases call with
  | connect target host point => cases point <;> rfl
  | disconnect point => cases point <;> rfl
  | request data point => cases point <;> rfl
  | shutdown point => cases point <;> rfl
  | startup => rfl
  | returned outcome =>
    cases outcome with
    | connect result => cases result <;> rfl
    | _ => rfl

/-- The switch, the link, the slot with its holder and its line, the number of connections made, and the role of
every call. -/
structure Cells where
  running : Bool
  link : Option Nat
  slot : Option Nat
  holder : Option Nat
  line : List Nat
  count : Nat
  roles : Nat → Role

namespace Cells

/-- The slot goes to the next in line. -/
def unlock (v : Cells) : Cells := { v with holder := v.line.head?, line := v.line.tail }

def put (v : Cells) (id : Nat) (role : Role) : Cells :=
  { v with roles := fun i => if i = id then role else v.roles i }

theorem put_same {v : Cells} {id : Nat} {role : Role} (h : v.roles id = role) : v.put id role = v := by
  have hroles : (fun i => if i = id then role else v.roles i) = v.roles := by
    funext i
    by_cases hi : i = id
    · rw [if_pos hi, hi, h]
    · rw [if_neg hi]
  rw [put, hroles]

/-- What one step of a call does. -/
inductive Turn (id : Nat) (v : Cells) : Cells → Prop
  | stay : Turn id v v
  /-- It ends without having touched anything, or leaves the rest undone. -/
  | leave (h : v.roles id = .away ∨ v.roles id = .cutting) : Turn id v (v.put id .ended)
  /-- The worker does not take it. -/
  | forget (h : v.roles id = .away) : Turn id v ({ v with link := none }.put id .ended)
  /-- It finds the slot free and leaves it as it is. -/
  | glance (h : v.roles id = .away) (hfree : v.holder = none) : Turn id v (v.unlock.put id .ended)
  | create {r : Role} (h : v.roles id = .away) (hfree : v.holder = none) (hslot : v.slot = none)
      (hr : r = .building v.count ∨ r = .failing v.count) :
      Turn id v ({ v with link := some v.count, holder := some id, count := v.count + 1 }.put id r)
  | replace {stale : Nat} (h : v.roles id = .away) (hfree : v.holder = none) (hslot : v.slot = some stale) :
      Turn id v ({ v with slot := none, holder := some id }.put id (.replacing stale))
  | recreate {stale : Nat} {r : Role} (h : v.roles id = .replacing stale)
      (hr : r = .building v.count ∨ r = .failing v.count) :
      Turn id v ({ v with link := some v.count, count := v.count + 1 }.put id r)
  | fail {conn : Nat} (h : v.roles id = .building conn) : Turn id v (v.put id (.failing conn))
  | succeed {conn : Nat} (h : v.roles id = .building conn) :
      Turn id v ({ v with slot := some conn }.unlock.put id .succeeded)
  | failed {conn : Nat} (h : v.roles id = .failing conn) :
      Turn id v ({ v with link := none }.unlock.put id .ended)
  | cut {conn : Nat} (h : v.roles id = .away) (hlink : v.link = some conn) :
      Turn id v ({ v with link := none }.put id .cutting)
  | submit (h : v.roles id = .cutting) : Turn id v (v.put id .lining)
  | queue (h : v.roles id = .lining) (hbusy : v.holder ≠ none) (hother : v.holder ≠ some id) (hnew : id ∉ v.line) :
      Turn id v { v with line := v.line ++ [id] }
  | pass (h : v.roles id = .lining) (hmine : v.holder = some id ∨ v.holder = none ∧ id ∉ v.line)
      (hslot : v.slot = none) : Turn id v (v.unlock.put id .ended)
  | take {conn : Nat} (h : v.roles id = .lining) (hmine : v.holder = some id ∨ v.holder = none ∧ id ∉ v.line)
      (hslot : v.slot = some conn) :
      Turn id v ({ v with slot := none, holder := some id }.put id (.closing conn))
  | closed {conn : Nat} (h : v.roles id = .closing conn) : Turn id v (v.unlock.put id .ended)
  | borrow {conn : Nat} (h : v.roles id = .away) (hfree : v.holder = none) (hslot : v.slot = some conn) :
      Turn id v ({ v with holder := some id }.put id (.borrowing conn))
  | settle {conn : Nat} (h : v.roles id = .borrowing conn) (hrun : v.running = true ∨ v.slot = none) :
      Turn id v (v.unlock.put id .ended)
  /-- A request finds the conversation shut down and takes its connection along. -/
  | clear {conn : Nat} (h : v.roles id = .away ∧ v.holder = none ∨ ∃ conn', v.roles id = .borrowing conn')
      (hrun : v.running = false) (hslot : v.slot = some conn) :
      Turn id v ({ v with slot := none, holder := some id }.put id (.closing conn))
  | shut (h : v.roles id = .away) (hrun : v.running = true) :
      Turn id v ({ v with running := false }.put id .cancelling)
  | cancel {conn : Nat} (h : v.roles id = .cancelling) (hlink : v.link = some conn) :
      Turn id v ({ v with link := none }.put id .stopping)
  | skip (h : v.roles id = .cancelling) (hlink : v.link = none) : Turn id v (v.put id .releasing)
  | stop (h : v.roles id = .stopping) : Turn id v (v.put id .releasing)
  | release (h : v.roles id = .releasing) (hfree : v.holder = none) :
      Turn id v ({ v with slot := none }.put id .ended)
  | miss (h : v.roles id = .releasing) (hbusy : v.holder ≠ none) : Turn id v (v.put id .ended)
  | start (h : v.roles id = .starting) : Turn id v ({ v with running := true }.put id .ended)

end Cells

namespace Conversation

open Cells (Turn)

variable {w : Worker} {id conn : Nat} {target : Address} {host : Option IpAddress} {data : Bytes}
variable {c c' : Conversation} {v : Cells} {r : Conversation × (Waiting ⊕ Settled)}

def roleOf (c : Conversation) (id : Nat) : Role := (c.threads[id]?.map (·.call.role)).getD .away

def cells (c : Conversation) : Cells where
  running := c.running
  link := c.link.map (·.connection)
  slot := c.slot
  holder := c.holder
  line := c.line
  count := c.connections.length
  roles := c.roleOf

@[simp] theorem cells_modifyConnection (c : Conversation) (i : Nat) (f : Connection → Connection) :
    (c.modifyConnection i f).cells = c.cells := by
  rw [cells, cells, modifyConnection, List.length_modify]
  rfl

@[simp] theorem cells_link (c : Conversation) (link : Option Link) :
    { c with link }.cells = { c.cells with link := link.map (·.connection) } := rfl

@[simp] theorem cells_slot (c : Conversation) (slot : Option Nat) :
    { c with slot }.cells = { c.cells with slot } := rfl

@[simp] theorem cells_unlock (c : Conversation) : c.unlock.cells = c.cells.unlock := rfl

@[simp] theorem cells_timer (c : Conversation) (timer : Timer) : { c with timer }.cells = c.cells := rfl

@[simp] theorem cells_resumeWait (c : Conversation) (w : Worker) (id : Nat) (text : String) (conn : Nat)
    (waiting : Waiting) : (c.resumeWait w id text conn waiting).1.cells = c.cells := by
  unfold resumeWait
  split
  · split
    · exact cells_modifyConnection c conn _
    · exact (cells_timer _ _).trans (cells_modifyConnection c conn _)
  · rfl

@[simp] theorem cells_beginWait (c : Conversation) (w : Worker) (id : Nat) (text : String) (conn timeout : Nat)
    (waiting : Waiting) : (c.beginWait w id text conn timeout waiting).1.cells = c.cells :=
  (cells_resumeWait _ w id text conn waiting).trans (cells_timer c _)

/-- The cells and the role after a step of a call. -/
def landed (id : Nat) (r : Conversation × Call) : Cells := r.1.cells.put id r.2.role

theorem landed_stays {call : Call} (h : c.roleOf id = call.role) : landed id (c, call) = c.cells :=
  Cells.put_same h

theorem stays {call : Call} (h : c.roleOf id = call.role) : Turn id c.cells (landed id (c, call)) := by
  rw [landed_stays h]
  exact .stay

theorem landed_of_same {c₁ : Conversation} {call : Call} (hcells : c₁.cells = v) :
    landed id (c₁, call) = v.put id call.role := by
  rw [landed, hcells]

/-! Connecting. -/

theorem failConnect_landed (hcells : c.cells = v) : landed id (failConnect target host c conn) =
    v.put id (.failing conn) :=
  landed_of_same ((cells_modifyConnection c conn _).trans hcells)

theorem afterConnectWait_turn (hcells : r.1.cells = v) (hrole : v.roles id = .building conn)
    (endpoint : Endpoint) : Turn id v (landed id (afterConnectWait target host endpoint conn r)) := by
  unfold afterConnectWait
  split
  · rw [← hcells] at hrole ⊢
    exact stays hrole
  · rw [← (cells_modifyConnection _ conn _).trans hcells] at hrole ⊢
    exact stays hrole
  · rw [← hcells] at hrole ⊢
    exact .succeed hrole
  · rw [failConnect_landed hcells]
    exact .fail hrole

/-- The first wait of a connect does not end in success. -/
theorem afterConnectWait_first (hcells : r.1.cells = v)
    (hfirst : ∀ settled, r.2 = .inr settled → ∃ result, settled = .connect result) (endpoint : Endpoint) :
    ∃ role, (role = .building conn ∨ role = .failing conn) ∧
      landed id (afterConnectWait target host endpoint conn r) = v.put id role := by
  obtain ⟨c₁, waiting | settled⟩ := r
  · exact ⟨_, .inl rfl, landed_of_same hcells⟩
  · obtain ⟨result, rfl⟩ := hfirst settled rfl
    cases result with
    | error e => exact ⟨_, .inr rfl, failConnect_landed hcells⟩
    | ok _ => exact ⟨_, .inl rfl, landed_of_same ((cells_modifyConnection _ conn _).trans hcells)⟩

theorem resumeWait_connect (c : Conversation) (w : Worker) (id : Nat) (text : String) (conn : Nat) :
    ∀ settled, (c.resumeWait w id text conn .connect).2 = .inr settled → ∃ result, settled = .connect result := by
  intro settled h
  unfold resumeWait at h
  split at h
  · rename_i wait k _ _
    obtain ⟨k', -, ⟨hres, -⟩ | ⟨result, hres⟩⟩ := k.resume_connect_belongs text wait w.cancelled
    · rw [hres] at h
      cases h
    · rw [hres] at h
      cases h
      exact ⟨result, rfl⟩
  · cases h

/-- A conversation with a new connection that the link reaches. -/
def linkNew (c : Conversation) (w : Worker) (target : Address) : Conversation :=
  { c with
    connections := c.connections ++
      [Connection.beginConnect { settings := .of c.settings c.version, server := target, closed := w.cancelled }]
    link := some ⟨c.connections.length, target⟩ }

theorem startConnect_eq (w : Worker) (id : Nat) (target : Address) (host : Option IpAddress) (c : Conversation)
    (endpoint : Endpoint) :
    startConnect w id target host c endpoint =
      afterConnectWait target host endpoint c.connections.length
        ((c.linkNew w target).beginWait w id (endpointText endpoint) c.connections.length
          (ConnectionSettings.of c.settings c.version).connectTimeout .connect) := rfl

theorem cells_linkNew (c : Conversation) (w : Worker) (target : Address) :
    (c.linkNew w target).cells =
      { c.cells with link := some c.connections.length, count := c.connections.length + 1 } := by
  rw [cells, linkNew, List.length_append]
  rfl

theorem startConnect_landed (w : Worker) (id : Nat) (target : Address) (host : Option IpAddress) (c : Conversation)
    (endpoint : Endpoint) :
    ∃ role, (role = .building c.connections.length ∨ role = .failing c.connections.length) ∧
      landed id (startConnect w id target host c endpoint) =
        { c.cells with link := some c.connections.length, count := c.connections.length + 1 }.put id role := by
  rw [startConnect_eq]
  exact afterConnectWait_first ((cells_beginWait _ w id _ _ _ _).trans (cells_linkNew c w target))
    (resumeWait_connect _ w id _ _) endpoint

theorem stepConnect_turn (inside : Bool) (point : ConnectPoint)
    (hrole : c.roleOf id = (Call.connect target host point).role) :
    Turn id c.cells (landed id (stepConnect w id target host inside c point)) := by
  cases point with
  | entered =>
    simp only [stepConnect]
    split
    · exact stays hrole
    · exact .leave (.inl hrole)
  | checked =>
    simp only [stepConnect]
    split
    · exact .leave (.inl hrole)
    · split
      · exact .leave (.inl hrole)
      · exact stays hrole
  | submitting endpoint =>
    simp only [stepConnect]
    split
    · exact stays hrole
    · exact stays hrole
  | queued endpoint =>
    simp only [stepConnect]
    split
    · exact .leave (.inl hrole)
    · rename_i c₁ hl
      obtain ⟨hfree, rfl⟩ := tryLock_eq hl
      split
      · rename_i hslot
        obtain ⟨role, hr, hland⟩ := startConnect_landed w id target host { c with holder := some id } endpoint
        rw [hland]
        exact .create hrole hfree hslot hr
      · rename_i stale hslot
        split
        · exact .glance hrole hfree
        · rw [landed, cells_modifyConnection]
          exact .replace hrole hfree hslot
  | replacing endpoint stale =>
    obtain ⟨role, hr, hland⟩ := startConnect_landed w id target host
      (c.modifyConnection stale Connection.finishDisconnect) endpoint
    have hlen : (c.modifyConnection stale Connection.finishDisconnect).connections.length = c.connections.length :=
      List.length_modify _ _ _
    rw [hlen] at hr hland
    rw [stepConnect, hland, cells_modifyConnection]
    exact .recreate hrole hr
  | waiting endpoint conn waiting => exact afterConnectWait_turn (cells_resumeWait c w id _ conn waiting) hrole endpoint
  | writing endpoint conn =>
    simp only [stepConnect]
    split
    · exact stays hrole
    · split
      · rw [failConnect_landed (cells_modifyConnection c conn _)]
        exact .fail hrole
      · exact afterConnectWait_turn ((cells_beginWait _ w id _ conn _ _).trans (cells_modifyConnection c conn _))
          hrole endpoint
  | failing conn =>
    simp only [stepConnect, finishCall, landed, cells_unlock, cells_link, cells_modifyConnection]
    exact .failed hrole
  | refused => exact .forget hrole

/-! Disconnecting. -/

theorem cutLink_eq (h : c.cutLink = some c') :
    ∃ l, c.link = some l ∧ c'.cells = { c.cells with link := none } := by
  obtain ⟨l, hl, rfl⟩ := Option.map_eq_some_iff.1 h
  exact ⟨l, hl, cells_modifyConnection _ _ _⟩

theorem closeSlot_turn (hrole : c.roleOf id = .lining) (hmine : v.holder = some id ∨ v.holder = none ∧ id ∉ v.line)
    (hv : c.cells = { v with holder := some id }) : Turn id v (landed id c.closeSlot) := by
  have hroles : v.roles = c.roleOf := (congrArg Cells.roles hv).symm
  have hslot : v.slot = c.slot := (congrArg Cells.slot hv).symm
  unfold closeSlot
  split
  · rename_i hnone
    simp only [finishCall, landed, cells_unlock, hv]
    exact .pass (hroles ▸ hrole) hmine (hslot.trans hnone)
  · rename_i conn hsome
    simp only [landed, cells_modifyConnection, cells_slot, hv]
    exact .take (hroles ▸ hrole) hmine (hslot.trans hsome)

theorem stepDisconnect_turn (inside : Bool) (point : DisconnectPoint)
    (hrole : c.roleOf id = (Call.disconnect point).role) :
    Turn id c.cells (landed id (stepDisconnect w id inside c point)) := by
  cases point with
  | entered =>
    simp only [stepDisconnect]
    split
    · exact .leave (.inl hrole)
    · rename_i hcut
      obtain ⟨l, hl, hcells⟩ := cutLink_eq hcut
      rw [landed, hcells]
      exact .cut hrole (congrArg (Option.map _) hl)
  | stopping => exact stays hrole
  | submitting =>
    simp only [stepDisconnect]
    split
    · exact .submit hrole
    · exact .leave (.inr hrole)
  | queued =>
    simp only [stepDisconnect]
    split
    · rename_i hheld
      exact closeSlot_turn hrole (.inl hheld) (by rw [← hheld]; rfl)
    · rename_i hother
      split
      · exact stays hrole
      · rename_i hnew
        split
        · rename_i hl
          obtain ⟨hfree, rfl⟩ := tryLock_eq hl
          exact closeSlot_turn hrole (.inr ⟨hfree, hnew⟩) rfl
        · rename_i hl
          have hbusy : c.holder ≠ none := by
            intro hfree
            simp [tryLock, hfree] at hl
          rw [landed_stays (c := { c with line := c.line ++ [id] }) hrole]
          exact .queue hrole hbusy hother hnew
  | closing conn =>
    simp only [stepDisconnect, finishCall, landed, cells_unlock, cells_modifyConnection]
    exact .closed hrole

/-! Requests. -/

/-- The request has the slot: it has just found it free, or it uses the connection in it. -/
def HasSlot (id : Nat) (v : Cells) : Prop :=
  v.roles id = .away ∧ v.holder = none ∨ v.holder = some id ∧ ∃ conn, v.roles id = .borrowing conn

theorem settleRequest_turn (h : HasSlot id v) (hv : c.cells = { v with holder := some id })
    (result : Except RequestError Response) : Turn id v (landed id (settleRequest data c result)) := by
  have hslot : v.slot = c.slot := (congrArg Cells.slot hv).symm
  have hrunning : v.running = c.running := (congrArg Cells.running hv).symm
  have hdone : v.running = true ∨ v.slot = none → Turn id v ({ v with holder := some id }.unlock.put id .ended) := by
    intro hgo
    rcases h with ⟨haway, hfree⟩ | ⟨-, conn, hborrow⟩
    · exact .glance haway hfree
    · exact .settle hborrow hgo
  unfold settleRequest
  split
  · rename_i hrun
    simp only [finishCall, landed, cells_unlock, hv]
    exact hdone (.inl (hrunning.trans hrun))
  · rename_i hrun
    split
    · rename_i hnone
      simp only [finishCall, landed, cells_unlock, hv]
      exact hdone (.inr (hslot.trans hnone))
    · rename_i conn hsome
      simp only [landed, cells_modifyConnection, cells_slot, hv]
      refine .clear (h.imp_right fun hb => hb.2) ?_ (hslot.trans hsome)
      rw [hrunning]
      simpa using hrun

section Borrowing

variable (hrole : v.roles id = .borrowing conn) (hheld : v.holder = some id)
include hrole hheld

theorem settleBorrowed_turn (hcells : c.cells = v) (result : Except RequestError Response) :
    Turn id v (landed id (settleRequest data c result)) :=
  settleRequest_turn (.inr ⟨hheld, conn, hrole⟩) (by rw [hcells, ← hheld]) result

theorem afterResponseWait_turn (hcells : r.1.cells = v) :
    Turn id v (landed id (afterResponseWait data conn r)) := by
  unfold afterResponseWait
  split
  · rw [← hcells] at hrole ⊢
    exact stays hrole
  · exact settleBorrowed_turn hrole hheld hcells _
  · exact settleBorrowed_turn hrole hheld hcells _
  · exact settleBorrowed_turn hrole hheld hcells _

theorem startResponse_turn (hcells : c.cells = v) : Turn id v (landed id (startResponse w id data c conn)) := by
  have hput : ∀ f, (c.modifyConnection conn f).cells = v := fun f => (cells_modifyConnection c conn f).trans hcells
  unfold startResponse
  split
  · exact settleBorrowed_turn hrole hheld hcells _
  · split
    · exact settleBorrowed_turn hrole hheld (hput _) _
    · exact settleBorrowed_turn hrole hheld (hput _) _
    · exact afterResponseWait_turn hrole hheld ((cells_beginWait _ w id _ conn _ _).trans (hput _))

theorem afterRequestWait_turn (hcells : r.1.cells = v) :
    Turn id v (landed id (afterRequestWait w id data conn r)) := by
  unfold afterRequestWait
  split
  · exact startResponse_turn hrole hheld hcells
  · exact settleBorrowed_turn hrole hheld hcells _
  · exact settleBorrowed_turn hrole hheld hcells _
  · exact settleBorrowed_turn hrole hheld hcells _
  · exact afterResponseWait_turn hrole hheld hcells

end Borrowing

theorem startExchange_turn (hrole : v.roles id = .away) (hfree : v.holder = none)
    (hv : c.cells = { v with holder := some id }) : Turn id v (landed id (startExchange data c)) := by
  have hhas : HasSlot id v := .inl ⟨hrole, hfree⟩
  have hput : ∀ conn f, (c.modifyConnection conn f).cells = { v with holder := some id } := fun conn f =>
    (cells_modifyConnection c conn f).trans hv
  obtain hrefused | ⟨conn, k, hslot, -, -, ⟨e, hfails⟩ | ⟨frame, hwrites⟩⟩ := startExchange_cases data c
  · rw [hrefused]
    exact settleRequest_turn hhas hv _
  · rw [hfails]
    exact settleRequest_turn hhas (hput _ _) _
  · rw [hwrites, landed, hput]
    exact .borrow hrole hfree ((congrArg Cells.slot hv).symm.trans hslot)

theorem stepRequest_turn (inside : Bool) (point : RequestPoint)
    (hrole : c.roleOf id = (Call.request data point).role)
    (hheld : (Call.request data point).holds = true → c.holder = some id) :
    Turn id c.cells (landed id (stepRequest w id data inside c point)) := by
  cases point with
  | entered =>
    simp only [stepRequest]
    split
    · exact .leave (.inl hrole)
    · split
      · exact stays hrole
      · exact .leave (.inl hrole)
  | submitting =>
    simp only [stepRequest]
    split
    · exact stays hrole
    · exact .leave (.inl hrole)
  | queued =>
    simp only [stepRequest]
    split
    · exact .leave (.inl hrole)
    · rename_i hl
      obtain ⟨hfree, rfl⟩ := tryLock_eq hl
      exact startExchange_turn hrole hfree rfl
  | writing conn frame =>
    simp only [stepRequest]
    split
    · exact stays hrole
    · split
      · exact settleBorrowed_turn hrole (hheld rfl) (cells_modifyConnection c conn _) _
      · exact afterRequestWait_turn hrole (hheld rfl)
          ((cells_beginWait _ w id _ conn _ _).trans (cells_modifyConnection c conn _))
  | waiting conn waiting => exact afterRequestWait_turn hrole (hheld rfl) (cells_resumeWait c w id _ conn waiting)
  | closing conn result =>
    simp only [stepRequest, finishCall, landed, cells_unlock, cells_modifyConnection]
    exact .closed hrole

/-! All calls. -/

theorem stepShutdown_turn (point : ShutdownPoint) (hrole : c.roleOf id = (Call.shutdown point).role) :
    Turn id c.cells (landed id (stepShutdown c point)) := by
  cases point with
  | entered =>
    simp only [stepShutdown]
    split
    · rename_i hrun
      exact .shut hrole hrun
    · exact .leave (.inl hrole)
  | cancelling =>
    simp only [stepShutdown]
    split
    · rename_i hcut
      refine .skip hrole ?_
      rw [cells, Option.map_eq_none_iff.1 hcut]
      rfl
    · rename_i hcut
      obtain ⟨l, hl, hcells⟩ := cutLink_eq hcut
      rw [landed, hcells]
      exact .cancel hrole (congrArg (Option.map _) hl)
  | stopping => exact .stop hrole
  | releasing =>
    simp only [stepShutdown]
    split
    · rename_i conn hfree hslot
      simp only [finishCall, landed, cells_modifyConnection, cells_slot]
      exact .release hrole hfree
    · rename_i hother
      cases hholder : c.holder with
      | some j =>
        refine .miss hrole ?_
        rw [show c.cells.holder = c.holder from rfl, hholder]
        exact Option.some_ne_none j
      | none =>
        have hslot : c.slot = none := by
          cases hslot : c.slot with
          | none => rfl
          | some conn => exact absurd hslot (hother conn hholder)
        have hsame : c.cells = { c.cells with slot := none } := by rw [← hslot]; rfl
        rw [finishCall, landed]
        exact hsame ▸ .release hrole hholder

theorem stepCall_turn (w : Worker) (inside : Bool) {call : Call} (hrole : c.roleOf id = call.role)
    (hheld : call.holds = true → c.holder = some id) :
    Turn id c.cells (landed id (stepCall w id inside c call)) := by
  cases call with
  | connect target host point => exact stepConnect_turn inside point hrole
  | disconnect point => exact stepDisconnect_turn inside point hrole
  | request data point => exact stepRequest_turn inside point hrole hheld
  | shutdown point => exact stepShutdown_turn point hrole
  | startup => exact .start hrole
  | returned outcome => exact stays hrole

/-! Every event. -/

theorem roleOf_eq {t : Thread} (ht : c.threads[id]? = some t) : c.roleOf id = t.call.role := by
  rw [roleOf, ht]
  rfl

theorem advance_landed {t : Thread} (ht : c.threads[id]? = some t) (w : Worker) :
    (c.advance w id).cells = landed id (stepCall w id t.inside c t.call) := by
  have hsp := (stepCall_moves w id t.inside c t.call).spares
  have hroles : (c.advance w id).roleOf =
      fun i => if i = id then (stepCall w id t.inside c t.call).2.role else
        (stepCall w id t.inside c t.call).1.roleOf i := by
    funext i
    by_cases hi : i = id
    · rw [if_pos hi, hi, roleOf_eq (getElem?_advance ht)]
    · rw [if_neg hi, roleOf, roleOf, hsp.threads, advance_eq ht, List.getElem?_set_ne (Ne.symm hi)]
  rw [advance_eq ht] at hroles ⊢
  rw [landed, cells, Cells.put, hroles]
  rfl

theorem advance_turn (hx : c.Exclusive) (w : Worker) (id : Nat) : Turn id c.cells (c.advance w id).cells := by
  cases ht : c.threads[id]? with
  | none =>
    rw [advance_ended (by rw [ht]; intro t h; cases h)]
    exact .stay
  | some t =>
    rw [advance_landed ht]
    refine stepCall_turn w t.inside (roleOf_eq ht) fun hholds => hx id ?_
    rw [holds_eq ht, hholds]

theorem call_cells (c : Conversation) (op : Operation) (inside : Bool) :
    (c.apply {} (.call op inside)).cells = c.cells.put c.threads.length (Call.of op).role := by
  have hroles : (c.apply {} (.call op inside)).roleOf =
      fun i => if i = c.threads.length then (Call.of op).role else c.roleOf i := by
    funext i
    unfold roleOf apply
    rcases Nat.lt_trichotomy i c.threads.length with hlt | heq | hgt
    · rw [if_neg (Nat.ne_of_lt hlt), List.getElem?_append_left hlt]
    · rw [if_pos heq, heq, List.getElem?_concat_length]
      rfl
    · rw [if_neg (Nat.ne_of_gt hgt), List.getElem?_eq_none (Nat.le_of_lt hgt),
        List.getElem?_eq_none (by rw [List.length_append]; exact hgt)]
  rw [cells, hroles]
  rfl

end Conversation
end Doip
