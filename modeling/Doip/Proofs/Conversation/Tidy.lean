import Doip.Proofs.Conversation.Machine
import Doip.Proofs.Conversation.Places

/-! A conversation whose worker runs lets go of every connection it is done with: one that is neither in the slot
nor with a call is closed and has no stream (`Served.tidy`). What one step of a call means for the connections is
said once (`stepCall_tends`). -/

namespace Doip

/-- The connection a call is setting up, or uses. -/
def Role.works : Role → Option Nat
  | .building conn => some conn
  | .borrowing conn => some conn
  | _ => none

namespace Conversation

open Cells (Placed Made Turn)

variable {w : Worker} {id conn i : Nat} {target : Address} {host : Option IpAddress} {data : Bytes}
variable {c c₀ c' : Conversation} {k : Connection} {r : Conversation × (Waiting ⊕ Settled)} {ex : Option Nat}

def ClosedAt (c : Conversation) (i : Nat) : Prop := ∃ k, c.connections[i]? = some k ∧ k.closed = true

/-- The connection with a number has no stream. -/
def BareAt (c : Conversation) (i : Nat) : Prop := ∃ k, c.connections[i]? = some k ∧ k.stream = none

/-! What is closed stays closed. -/

theorem ClosedAt.modify (h : c.ClosedAt i) {j : Nat} {f : Connection → Connection}
    (hf : ∀ k, c.connections[j]? = some k → k.closed = true → (f k).closed = true) :
    (c.modifyConnection j f).ClosedAt i := by
  obtain ⟨k, hk, hclosed⟩ := h
  by_cases hij : j = i
  · subst hij
    exact ⟨f k, getElem?_modifyConnection hk f, hf k hk hclosed⟩
  · exact ⟨k, (getElem?_modifyConnection_of_ne hij f).trans hk, hclosed⟩

theorem Moves.closedAt (h : Moves id c c') (hi : c.ClosedAt i) : c'.ClosedAt i := by
  induction h with
  | refl => exact hi
  | tail _ hm ih =>
    cases hm with
    | modify j f hf => exact ih.modify fun k hk hclosed => (hf k hk).closed hclosed
    | create settings server closed =>
      obtain ⟨k, hk, hclosed⟩ := ih
      obtain ⟨hlt, -⟩ := List.getElem?_eq_some_iff.1 hk
      exact ⟨k, (List.getElem?_append_left hlt).trans hk, hclosed⟩
    | _ => exact ih

theorem closedAt_modify (hlt : conn < c.connections.length) {f : Connection → Connection}
    (hf : ∀ k, (f k).closed = true) : (c.modifyConnection conn f).ClosedAt conn :=
  ⟨_, getElem?_modifyConnection (List.getElem?_eq_getElem hlt) f, hf _⟩

theorem bareAt_modify (hlt : conn < c.connections.length) {f : Connection → Connection}
    (hf : ∀ k, (f k).stream = none) : (c.modifyConnection conn f).BareAt conn :=
  ⟨_, getElem?_modifyConnection (List.getElem?_eq_getElem hlt) f, hf _⟩

/-! Only the call that sets a connection up gives it a stream. -/

/-- No connection but the exempt one is given a stream. -/
def Bares (ex : Option Nat) (c c' : Conversation) : Prop := ∀ i, ex ≠ some i → c.BareAt i → c'.BareAt i

theorem Bares.same (h : c'.connections = c.connections) : Bares ex c c' := by
  intro i _ hi
  rwa [BareAt, h]

theorem Bares.refl (ex : Option Nat) (c : Conversation) : Bares ex c c := .same rfl

theorem Bares.modify (h : Bares ex c₀ c) {j : Nat} {f : Connection → Connection}
    (hf : ex = some j ∨ ∀ k, c.connections[j]? = some k → k.stream = none → (f k).stream = none) :
    Bares ex c₀ (c.modifyConnection j f) := by
  intro i hex hi
  obtain ⟨k, hk, hbare⟩ := h i hex hi
  by_cases hij : j = i
  · subst hij
    exact ⟨f k, getElem?_modifyConnection hk f, hf.resolve_left hex k hk hbare⟩
  · exact ⟨k, (getElem?_modifyConnection_of_ne hij f).trans hk, hbare⟩

theorem Bares.append (h : Bares ex c₀ c) (hconns : c'.connections = c.connections ++ [k]) : Bares ex c₀ c' := by
  intro i hex hi
  obtain ⟨k₁, hk₁, hbare⟩ := h i hex hi
  obtain ⟨hlt, -⟩ := List.getElem?_eq_some_iff.1 hk₁
  rw [BareAt, hconns]
  exact ⟨k₁, (List.getElem?_append_left hlt).trans hk₁, hbare⟩

/-- A connection that has only just been made was not there before. -/
theorem Bares.fresh (h : Bares (some c₀.connections.length) c₀ c) (ex : Option Nat) : Bares ex c₀ c := by
  intro i _ hi
  refine h i ?_ hi
  obtain ⟨k, hk, -⟩ := hi
  obtain ⟨hlt, -⟩ := List.getElem?_eq_some_iff.1 hk
  exact fun he => Nat.lt_irrefl _ (Option.some.inj he ▸ hlt)

theorem Bares.own (h : Bares (some conn) c₀ c) (f : Connection → Connection) :
    Bares (some conn) c₀ (c.modifyConnection conn f) :=
  h.modify (.inl rfl)

theorem Bares.close (h : Bares ex c₀ c) (j : Nat) : Bares ex c₀ (c.modifyConnection j Connection.close) :=
  h.modify (.inr fun _ _ hk => hk)

theorem Bares.finish (h : Bares ex c₀ c) (j : Nat) : Bares ex c₀ (c.modifyConnection j Connection.finishDisconnect) :=
  h.modify (.inr fun _ _ _ => rfl)

theorem Bares.resumeWait (h : Bares (some conn) c₀ c) (w : Worker) (text : String) (waiting : Waiting) :
    Bares (some conn) c₀ (c.resumeWait w id text conn waiting).1 := by
  unfold Conversation.resumeWait
  split
  · split
    · exact h.own _
    · exact h.own _
  · exact h

theorem Bares.beginWait (h : Bares (some conn) c₀ c) (w : Worker) (text : String) (timeout : Nat)
    (waiting : Waiting) : Bares (some conn) c₀ (c.beginWait w id text conn timeout waiting).1 :=
  Bares.resumeWait (c := { c with timer := c.timer.arm id timeout }) h w text waiting

/-! What a step means for the connections that a call has to do with. -/

/-- A connection that a call was letting go of has lost its stream when the call is done with it; one that is given
up is closed, a new one as well; and one that is taken out of the slot is with the call or has lost its stream. -/
structure Tends (id : Nat) (c : Conversation) (r : Conversation × Call) : Prop where
  bares : Bares (c.roleOf id).works c r.1
  parted : ∀ conn, (c.roleOf id).owns = some conn →
    r.2.role.owns = some conn ∨ r.1.slot = some conn ∨ r.1.BareAt conn
  closing : ∀ conn, c.roleOf id = .building conn ∨ c.slot = some conn →
    r.2.role = .building conn ∨ r.1.slot = some conn ∨ r.1.ClosedAt conn
  taken : ∀ conn, c.slot = some conn →
    r.1.slot = some conn ∨ r.2.role.owns = some conn ∨ r.1.BareAt conn
  made : ∀ conn, conn < r.1.connections.length →
    conn < c.connections.length ∨ r.2.role = .building conn ∨ r.1.ClosedAt conn

theorem made_of_count {r : Conversation × Call} (hcount : r.1.connections.length = c.connections.length) :
    ∀ conn, conn < r.1.connections.length →
      conn < c.connections.length ∨ r.2.role = .building conn ∨ r.1.ClosedAt conn :=
  fun _ hlt => .inl (hcount ▸ hlt)

/-- A call that has no connection for itself and leaves the slot as it is. -/
theorem Tends.away {r : Conversation × Call} (hrole : (c.roleOf id).owns = none) (hslot : r.1.slot = c.slot)
    (hcount : r.1.connections.length = c.connections.length) (hbares : Bares (c.roleOf id).works c r.1) :
    Tends id c r := by
  refine ⟨hbares, fun conn hown => ?_, fun conn hconn => ?_, fun conn hs => .inl (hslot.trans hs),
    made_of_count hcount⟩
  · rw [hrole] at hown
    cases hown
  · rcases hconn with hb | hs
    · rw [hb] at hrole
      cases hrole
    · exact .inr (.inl (hslot.trans hs))

theorem Tends.goes {call : Call} (hrole : call.role = c.roleOf id) : Tends id c (c, call) := by
  refine ⟨.refl _ c, fun conn hown => .inl (by rw [hrole]; exact hown), fun conn hconn => ?_,
    fun conn hs => .inl hs, made_of_count rfl⟩
  exact hconn.imp (fun hb => hrole.trans hb) .inl

/-- A call that takes the connection in the slot and begins to let go of it. -/
theorem Tends.takes {call : Call} (hrole : (c.roleOf id).owns = none) (hslot : c.slot = some conn)
    (hm : c.cells.Made) (hcount : c'.connections.length = c.connections.length)
    (hbares : Bares (c.roleOf id).works c c') (hcall : call.role.owns = some conn) :
    Tends id c ({ c' with slot := none }.modifyConnection conn Connection.beginDisconnect, call) := by
  have hlt : conn < c'.connections.length := hcount ▸ hm.slot conn hslot
  refine ⟨Bares.close (c := { c' with slot := none }) hbares conn, fun conn' hown => ?_, fun conn' hconn => ?_,
    fun conn' hs => ?_, made_of_count ((List.length_modify _ _ _).trans hcount)⟩
  · rw [hrole] at hown
    cases hown
  · rcases hconn with hb | hs
    · rw [hb] at hrole
      cases hrole
    · cases hslot.symm.trans hs
      exact .inr (.inr (closedAt_modify (c := { c' with slot := none }) hlt fun _ => rfl))
  · cases hslot.symm.trans hs
    exact .inr (.inl hcall)

/-- A call that is done with the connection it was letting go of. -/
theorem Tends.parts {r : Conversation × Call} (hown : (c.roleOf id).owns = some conn)
    (hbuild : ∀ conn, c.roleOf id ≠ .building conn) (hslot : r.1.slot = c.slot)
    (hbares : Bares (c.roleOf id).works c r.1) (hbare : r.1.BareAt conn)
    (hmade : ∀ conn, conn < r.1.connections.length →
      conn < c.connections.length ∨ r.2.role = .building conn ∨ r.1.ClosedAt conn) : Tends id c r := by
  refine ⟨hbares, fun conn' hown' => ?_, fun conn' hconn => ?_, fun conn' hs => .inl (hslot.trans hs), hmade⟩
  · cases hown.symm.trans hown'
    exact .inr (.inr hbare)
  · rcases hconn with hb | hs
    · exact absurd hb (hbuild conn')
    · exact .inr (.inl (hslot.trans hs))

/-- A call that gives its connection up for good, and is done with that. -/
theorem Tends.finishes {call : Call} (hm : c.cells.Made)
    (hrole : c.roleOf id = .failing conn ∨ c.roleOf id = .closing conn) (hslot : c'.slot = c.slot)
    (hconns : c'.connections = (c.modifyConnection conn Connection.finishDisconnect).connections) :
    Tends id c (c', call) := by
  have hown : (c.roleOf id).owns = some conn := by
    rcases hrole with hrole | hrole <;> rw [hrole] <;> rfl
  have hbare : (c.modifyConnection conn Connection.finishDisconnect).BareAt conn :=
    bareAt_modify (hm.owned id conn hown) fun _ => rfl
  refine .parts hown (fun conn' hb => ?_) hslot (fun i hne hi => ?_) (by rwa [BareAt, hconns])
    (made_of_count ((congrArg List.length hconns).trans (List.length_modify _ _ _)))
  · rcases hrole with hrole | hrole <;> cases hrole.symm.trans hb
  · rw [BareAt, hconns]
    exact (Bares.refl _ c).finish conn i hne hi

/-! Connecting. -/

theorem Bares.afterConnectWait (h : Bares (some conn) c₀ r.1) (endpoint : Endpoint) :
    Bares (some conn) c₀ (afterConnectWait target host endpoint conn r).1 := by
  unfold Conversation.afterConnectWait
  split
  · exact h
  · exact h.own _
  · exact h
  · exact h.own _

theorem startConnect_bares (endpoint : Endpoint) : Bares ex c (startConnect w id target host c endpoint).1 := by
  rw [startConnect_eq]
  exact Bares.fresh (Bares.afterConnectWait (((Bares.refl _ c).append rfl).beginWait w _ _ _) endpoint) ex

theorem startConnect_slot (endpoint : Endpoint) : (startConnect w id target host c endpoint).1.slot = c.slot := by
  obtain ⟨role, -, hland⟩ := startConnect_landed w id target host c endpoint
  exact congrArg Cells.slot hland

theorem afterConnectWait_closing (hlt : conn < r.1.connections.length)
    (hfirst : ∀ settled, r.2 = .inr settled → ∃ result, settled = .connect result) (endpoint : Endpoint) :
    (afterConnectWait target host endpoint conn r).2.role = .building conn ∨
      (afterConnectWait target host endpoint conn r).1.ClosedAt conn := by
  obtain ⟨c₁, waiting | settled⟩ := r
  · exact .inl rfl
  · obtain ⟨result, rfl⟩ := hfirst settled rfl
    cases result with
    | error e => exact .inr (closedAt_modify hlt fun _ => rfl)
    | ok _ => exact .inl rfl

theorem startConnect_made (endpoint : Endpoint) : ∀ conn,
    conn < (startConnect w id target host c endpoint).1.connections.length →
    conn < c.connections.length ∨ (startConnect w id target host c endpoint).2.role = .building conn ∨
      (startConnect w id target host c endpoint).1.ClosedAt conn := by
  intro conn hlt
  obtain ⟨role, -, hland⟩ := startConnect_landed w id target host c endpoint
  have hcount : (startConnect w id target host c endpoint).1.connections.length = c.connections.length + 1 :=
    congrArg Cells.count hland
  rcases Nat.lt_or_ge conn c.connections.length with hold | hnew
  · exact .inl hold
  · obtain rfl : conn = c.connections.length := by omega
    rw [startConnect_eq]
    have hwait : ((c.linkNew w target).beginWait w id (endpointText endpoint) c.connections.length
        (ConnectionSettings.of c.settings c.version).connectTimeout .connect).1.connections.length =
          c.connections.length + 1 :=
      congrArg Cells.count ((cells_beginWait _ w id _ _ _ _).trans (cells_linkNew c w target))
    exact .inr (afterConnectWait_closing (Nat.lt_of_lt_of_eq (Nat.lt_succ_self _) hwait.symm)
      (resumeWait_connect _ w id _ _) endpoint)

/-- A connect that has its connection for itself. -/
structure Building (id conn : Nat) (c c' : Conversation) : Prop where
  role : c.roleOf id = .building conn
  empty : c.slot = none
  slot : c'.slot = c.slot
  made : conn < c.connections.length
  count : c'.connections.length = c.connections.length
  bares : Bares (some conn) c c'

theorem Building.cells (hp : c.cells.Placed) (hm : c.cells.Made) (hrole : c.roleOf id = .building conn)
    (hcells : c'.cells = c.cells) (hbares : Bares (some conn) c c') : Building id conn c c' := by
  have hown : (c.cells.roles id).owns = some conn := by
    rw [show c.cells.roles id = _ from hrole]
    rfl
  exact ⟨hrole, hp.owned id conn hown, congrArg Cells.slot hcells, hm.owned id conn hown,
    congrArg Cells.count hcells, hbares⟩

theorem Building.tends {r : Conversation × Call} (h : Building id conn c c')
    (hcount : r.1.connections.length = c'.connections.length) (hbares : Bares (some conn) c r.1)
    (hown : r.2.role.owns = some conn ∨ r.1.slot = some conn)
    (hclosing : r.2.role = .building conn ∨ r.1.slot = some conn ∨ r.1.ClosedAt conn) : Tends id c r := by
  have hempty : ∀ conn', c.slot ≠ some conn' := fun conn' hs => by
    rw [h.empty] at hs
    cases hs
  refine ⟨?_, fun conn' hown' => ?_, fun conn' hconn => ?_, fun conn' hs => absurd hs (hempty conn'),
    made_of_count (hcount.trans h.count)⟩
  · rw [h.role]
    exact hbares
  · rw [h.role] at hown'
    cases hown'
    exact hown.imp_right .inl
  · rcases hconn with hb | hs
    · rw [h.role] at hb
      cases hb
      exact hclosing
    · exact absurd hs (hempty conn')

theorem Building.fails (h : Building id conn c c') : Tends id c (failConnect target host c' conn) :=
  h.tends (List.length_modify _ _ _) (h.bares.own _) (.inl rfl)
    (.inr (.inr (closedAt_modify (h.count.symm ▸ h.made) fun _ => rfl)))

theorem Building.waited (h : Building id conn c r.1) (endpoint : Endpoint) :
    Tends id c (afterConnectWait target host endpoint conn r) := by
  have hbares : Bares (some conn) c (afterConnectWait target host endpoint conn r).1 :=
    h.bares.afterConnectWait endpoint
  unfold afterConnectWait at hbares ⊢
  split at hbares
  · exact h.tends rfl hbares (.inl rfl) (.inl rfl)
  · exact h.tends (List.length_modify _ _ _) hbares (.inl rfl) (.inl rfl)
  · exact h.tends rfl hbares (.inr rfl) (.inr (.inl rfl))
  · exact h.fails

theorem stepConnect_tends (hp : c.cells.Placed) (hm : c.cells.Made) (inside : Bool) (point : ConnectPoint)
    (hrole : c.roleOf id = (Call.connect target host point).role) :
    Tends id c (stepConnect w id target host inside c point) := by
  have haway : ∀ {r : Conversation × Call}, c.roleOf id = .away → r.1.slot = c.slot →
      r.1.connections = c.connections → Tends id c r := fun h hslot hconns =>
    .away (by rw [h]; rfl) hslot (congrArg List.length hconns) (.same hconns)
  cases point with
  | entered =>
    simp only [stepConnect]
    split <;> exact haway hrole rfl rfl
  | checked =>
    simp only [stepConnect]
    split
    · exact haway hrole rfl rfl
    · split <;> exact haway hrole rfl rfl
  | submitting endpoint =>
    simp only [stepConnect]
    split <;> exact haway hrole rfl rfl
  | queued endpoint =>
    have howns : (c.roleOf id).owns = none := by
      rw [hrole]
      rfl
    simp only [stepConnect]
    split
    · exact haway hrole rfl rfl
    · rename_i c₁ hl
      obtain ⟨-, rfl⟩ := tryLock_eq hl
      split
      · rename_i hslot
        refine ⟨startConnect_bares (c := { c with holder := some id }) endpoint, fun conn hown => ?_,
          fun conn hconn => ?_, fun conn hs => ?_, startConnect_made endpoint⟩
        · rw [howns] at hown
          cases hown
        · rcases hconn with hb | hs
          · rw [hb] at howns
            cases howns
          · cases hslot.symm.trans hs
        · cases hslot.symm.trans hs
      · rename_i stale hslot
        split
        · exact haway hrole rfl rfl
        · have hbares : Bares (c.roleOf id).works c { c with holder := some id } := .same rfl
          exact .takes howns hslot hm rfl hbares rfl
  | replacing endpoint stale =>
    have hown : (c.roleOf id).owns = some stale := by
      rw [hrole]
      rfl
    have hstart : Bares none (c.modifyConnection stale Connection.finishDisconnect)
        (startConnect w id target host (c.modifyConnection stale Connection.finishDisconnect) endpoint).1 :=
      startConnect_bares endpoint
    refine .parts hown (fun conn hb => ?_) (startConnect_slot endpoint) ?_ ?_ fun conn hlt => ?_
    · rw [hrole] at hb
      cases hb
    · intro i _ hi
      exact hstart i (by simp) ((Bares.refl none c).finish stale i (by simp) hi)
    · exact hstart stale (by simp) (bareAt_modify (hm.owned id stale hown) fun _ => rfl)
    · exact (startConnect_made endpoint conn hlt).imp_left fun h => List.length_modify _ _ _ ▸ h
  | waiting endpoint conn waiting =>
    exact (Building.cells hp hm hrole (cells_resumeWait c w id _ conn waiting)
      ((Bares.refl _ c).resumeWait w _ waiting)).waited endpoint
  | writing endpoint conn =>
    simp only [stepConnect]
    split
    · exact .goes hrole.symm
    · have hput : ∀ f, (c.modifyConnection conn f).cells = c.cells := cells_modifyConnection c conn
      split
      · exact (Building.cells hp hm hrole (hput _) ((Bares.refl _ c).own _)).fails
      · exact (Building.cells hp hm hrole ((cells_beginWait _ w id _ conn _ _).trans (hput _))
          (((Bares.refl _ c).own _).beginWait w _ _ _)).waited endpoint
  | failing conn => exact .finishes hm (.inl hrole) rfl rfl
  | refused => exact haway hrole rfl rfl

/-! Disconnecting. -/

theorem closeSlot_tends (howns : (c.roleOf id).owns = none) (hm : c.cells.Made) (hslot : c'.slot = c.slot)
    (hconns : c'.connections = c.connections) : Tends id c c'.closeSlot := by
  unfold closeSlot
  split
  · exact .away howns hslot (congrArg List.length hconns) (.same hconns)
  · rename_i conn hsome
    exact .takes howns (hslot.symm.trans hsome) hm (congrArg List.length hconns) (.same hconns) rfl

theorem Tends.cuts {call : Call} (hrole : (c.roleOf id).owns = none) (h : c.cutLink = some c') :
    Tends id c (c', call) := by
  obtain ⟨l, -, rfl⟩ := Option.map_eq_some_iff.1 h
  have hbares : Bares (c.roleOf id).works c { c with link := none } := .same rfl
  exact .away hrole rfl (List.length_modify _ _ _) (hbares.close _)

theorem stepDisconnect_tends (hm : c.cells.Made) (inside : Bool) (point : DisconnectPoint)
    (hrole : c.roleOf id = (Call.disconnect point).role) : Tends id c (stepDisconnect w id inside c point) := by
  have hidle : ∀ {r : Conversation × Call}, (c.roleOf id).owns = none → r.1.slot = c.slot →
      r.1.connections = c.connections → Tends id c r := fun h hslot hconns =>
    .away h hslot (congrArg List.length hconns) (.same hconns)
  cases point with
  | entered =>
    simp only [stepDisconnect]
    split
    · exact hidle (by rw [hrole]; rfl) rfl rfl
    · rename_i hcut
      exact .cuts (by rw [hrole]; rfl) hcut
  | stopping => exact hidle (by rw [hrole]; rfl) rfl rfl
  | submitting =>
    simp only [stepDisconnect]
    split <;> exact hidle (by rw [hrole]; rfl) rfl rfl
  | queued =>
    have howns : (c.roleOf id).owns = none := by
      rw [hrole]
      rfl
    simp only [stepDisconnect]
    split
    · exact closeSlot_tends howns hm rfl rfl
    · split
      · exact hidle howns rfl rfl
      · split
        · rename_i hl
          obtain ⟨-, rfl⟩ := tryLock_eq hl
          exact closeSlot_tends howns hm rfl rfl
        · exact hidle howns rfl rfl
  | closing conn => exact .finishes hm (.inr hrole) rfl rfl

/-! Requests. -/

/-- A request and what has become of the conversation since its step began. -/
structure Asking (id : Nat) (c c' : Conversation) : Prop where
  owns : (c.roleOf id).owns = none
  made : c.cells.Made
  slot : c'.slot = c.slot
  count : c'.connections.length = c.connections.length
  bares : Bares (c.roleOf id).works c c'

theorem Asking.settle (h : Asking id c c') (result : Except RequestError Response) :
    Tends id c (settleRequest data c' result) := by
  unfold settleRequest
  split
  · exact .away h.owns h.slot h.count h.bares
  · split
    · exact .away h.owns h.slot h.count h.bares
    · rename_i conn hsome
      exact .takes h.owns (h.slot.symm.trans hsome) h.made h.count h.bares rfl

theorem Asking.goes (h : Asking id c c') {call : Call} : Tends id c (c', call) := .away h.owns h.slot h.count h.bares

theorem Asking.own (h : Asking id c c') (hrole : c.roleOf id = .borrowing conn) (f : Connection → Connection) :
    Asking id c (c'.modifyConnection conn f) := by
  have hb := h.bares
  rw [hrole] at hb
  refine ⟨h.owns, h.made, h.slot, (List.length_modify _ _ _).trans h.count, ?_⟩
  rw [hrole]
  exact Bares.own hb f

theorem Asking.beginWait (h : Asking id c c') (hrole : c.roleOf id = .borrowing conn) (w : Worker) (text : String)
    (timeout : Nat) (waiting : Waiting) : Asking id c (c'.beginWait w id text conn timeout waiting).1 := by
  have hb := h.bares
  have hcells := cells_beginWait c' w id text conn timeout waiting
  rw [hrole] at hb
  refine ⟨h.owns, h.made, (congrArg Cells.slot hcells).trans h.slot, (congrArg Cells.count hcells).trans h.count, ?_⟩
  rw [hrole]
  exact Bares.beginWait hb w _ _ _

theorem Asking.afterResponse (h : Asking id c r.1) : Tends id c (afterResponseWait data conn r) := by
  unfold afterResponseWait
  split
  · exact h.goes
  · exact h.settle _
  · exact h.settle _
  · exact h.settle _

theorem Asking.startResponse (h : Asking id c c') (hrole : c.roleOf id = .borrowing conn) :
    Tends id c (startResponse w id data c' conn) := by
  unfold Conversation.startResponse
  split
  · exact h.settle _
  · split
    · exact (h.own hrole _).settle _
    · exact (h.own hrole _).settle _
    · exact ((h.own hrole _).beginWait hrole w _ _ _).afterResponse

theorem Asking.afterRequest (h : Asking id c r.1) (hrole : c.roleOf id = .borrowing conn) :
    Tends id c (afterRequestWait w id data conn r) := by
  unfold afterRequestWait
  split
  · exact h.startResponse hrole
  · exact h.settle _
  · exact h.settle _
  · exact h.settle _
  · exact h.afterResponse

theorem Asking.startExchange (h : Asking id c c') : Tends id c (startExchange data c') := by
  obtain hrefused | ⟨conn, k, -, hk, -, hdiscards⟩ := startExchange_cases data c'
  · rw [hrefused]
    exact h.settle _
  · have hdis : Asking id c (c'.modifyConnection conn fun _ => k.discardPending.1) := by
      refine ⟨h.owns, h.made, h.slot, (List.length_modify _ _ _).trans h.count, h.bares.modify (.inr ?_)⟩
      intro k₁ hk₁ hbare
      cases hk.symm.trans hk₁
      simp [Connection.discardPending, hbare]
    obtain ⟨e, hfails⟩ | ⟨frame, hwrites⟩ := hdiscards
    · rw [hfails]
      exact hdis.settle _
    · rw [hwrites]
      exact hdis.goes

theorem stepRequest_tends (hm : c.cells.Made) (inside : Bool) (point : RequestPoint)
    (hrole : c.roleOf id = (Call.request data point).role) : Tends id c (stepRequest w id data inside c point) := by
  have hask : (c.roleOf id).owns = none → Asking id c c := fun howns => ⟨howns, hm, rfl, rfl, .refl _ c⟩
  cases point with
  | entered =>
    have h := hask (by rw [hrole]; rfl)
    simp only [stepRequest]
    split
    · exact h.goes
    · split <;> exact h.goes
  | submitting =>
    have h := hask (by rw [hrole]; rfl)
    simp only [stepRequest]
    split <;> exact h.goes
  | queued =>
    have howns : (c.roleOf id).owns = none := by
      rw [hrole]
      rfl
    simp only [stepRequest]
    split
    · exact (hask howns).goes
    · rename_i hl
      obtain ⟨-, rfl⟩ := tryLock_eq hl
      exact Asking.startExchange ⟨howns, hm, rfl, rfl, .same rfl⟩
  | writing conn frame =>
    have h := hask (by rw [hrole]; rfl)
    simp only [stepRequest]
    split
    · exact h.goes
    · split
      · exact (h.own hrole _).settle _
      · exact ((h.own hrole _).beginWait hrole w _ _ _).afterRequest hrole
  | waiting conn waiting =>
    have hcells := cells_resumeWait c w id "" conn waiting
    refine Asking.afterRequest ⟨by rw [hrole]; rfl, hm, congrArg Cells.slot hcells, congrArg Cells.count hcells, ?_⟩
      hrole
    rw [hrole]
    exact (Bares.refl _ c).resumeWait w _ waiting
  | closing conn result => exact .finishes hm (.inr hrole) rfl rfl

/-! All calls. -/

theorem stepShutdown_tends (hm : c.cells.Made) (point : ShutdownPoint)
    (hrole : c.roleOf id = (Call.shutdown point).role) : Tends id c (stepShutdown c point) := by
  have howns : (c.roleOf id).owns = none := by
    rw [hrole]
    cases point <;> rfl
  cases point with
  | entered =>
    simp only [stepShutdown]
    split <;> exact .away howns rfl rfl (.same rfl)
  | cancelling =>
    simp only [stepShutdown]
    split
    · exact .away howns rfl rfl (.refl _ c)
    · rename_i hcut
      exact .cuts howns hcut
  | stopping => exact .away howns rfl rfl (.same rfl)
  | releasing =>
    simp only [stepShutdown]
    split
    · rename_i conn _ hslot
      have hlt := hm.slot conn hslot
      have hbares : Bares (c.roleOf id).works c { c with slot := none } := .same rfl
      refine ⟨hbares.modify (.inr fun _ _ _ => rfl), fun conn' hown => ?_, fun conn' hconn => ?_, fun conn' hs => ?_,
        made_of_count (List.length_modify _ _ _)⟩
      · rw [howns] at hown
        cases hown
      · rcases hconn with hb | hs
        · rw [hb] at howns
          cases howns
        · cases hslot.symm.trans hs
          exact .inr (.inr (closedAt_modify (c := { c with slot := none }) hlt fun _ => rfl))
      · cases hslot.symm.trans hs
        exact .inr (.inr (bareAt_modify (c := { c with slot := none }) hlt fun _ => rfl))
    · exact .away howns rfl rfl (.refl _ c)

theorem stepCall_tends (hp : c.cells.Placed) (hm : c.cells.Made) (w : Worker) (inside : Bool) {call : Call}
    (hrole : c.roleOf id = call.role) : Tends id c (stepCall w id inside c call) := by
  cases call with
  | connect target host point => exact stepConnect_tends hp hm inside point hrole
  | disconnect point => exact stepDisconnect_tends hm inside point hrole
  | request data point => exact stepRequest_tends hm inside point hrole
  | shutdown point => exact stepShutdown_tends hm point hrole
  | startup => exact .away (by rw [hrole]; rfl) rfl rfl (.same rfl)
  | returned outcome => exact .goes hrole.symm

/-! Every event while the worker runs. -/

/-- What happens to a conversation while its worker runs. -/
def Event.served : Event → Bool
  | .shutDown => false
  | .dropTasks => false
  | _ => true

/-- The conversations that events can bring about while the worker runs. -/
inductive Served : Conversation → Prop
  | fresh (settings : ConversationSettings) (version : UInt8) (servers : List ServerMapping) (running : Bool) :
      Served { settings, version, servers, running }
  | apply {c : Conversation} (h : Served c) {e : Event} (he : e.served = true) : Served (c.apply {} e)

theorem Served.reachable (h : Served c) : Reachable c := by
  induction h with
  | fresh settings version servers running => exact .fresh settings version servers running
  | apply _ _ ih => exact ih.apply {} _

theorem Served.applyAll (h : Served c) {es : List Event} (hes : ∀ e ∈ es, e.served = true) :
    Served (es.foldl (Conversation.apply {}) c) := by
  induction es generalizing c with
  | nil => exact h
  | cons e es ih =>
    obtain ⟨he, hes⟩ := List.forall_mem_cons.1 hes
    exact ih (h.apply he) hes

theorem network_cells {e : Event} (he : e.isNetwork = true) (w : Worker) (c : Conversation) :
    (c.apply w e).cells = c.cells := by
  cases e with
  | call operation inside => cases he
  | advance id => cases he
  | shutDown => cases he
  | dropTasks => cases he
  | elapse ms => rfl
  | _ => exact cells_modifyConnection c _ _

/-- A connection that is neither in the slot nor with a call is closed and has no stream. -/
structure Tidy (c : Conversation) : Prop where
  placed : c.cells.Placed
  made : c.cells.Made
  bare : ∀ i < c.connections.length, c.slot = some i ∨ (∃ j, (c.roleOf j).owns = some i) ∨ c.BareAt i
  closed : ∀ i < c.connections.length, c.slot = some i ∨ (∃ j, c.roleOf j = .building i) ∨ c.ClosedAt i

theorem Tidy.fresh (settings : ConversationSettings) (version : UInt8) (servers : List ServerMapping)
    (running : Bool) : Tidy { settings, version, servers, running } := by
  have hroles : ∀ i, roleOf { settings, version, servers, running } i = .away := fun i => rfl
  refine ⟨⟨fun i hi => ?_, fun i hi => ?_, fun i hi => ?_, List.nodup_nil, fun _ => rfl, fun i conn hi => ?_,
    fun i conn hi => ?_⟩, ⟨fun conn hs => ?_, fun i conn hi => ?_⟩, fun i hi => ?_, fun i hi => ?_⟩ <;>
    simp_all [cells, Role.holds, Role.owns]

theorem Tidy.network (h : c.Tidy) {e : Event} (he : e.isNetwork = true) (w : Worker) : (c.apply w e).Tidy := by
  obtain ⟨pass, ho⟩ := Outside.network he w c
  have hcells := network_cells he w c
  have hcount : (c.apply w e).connections.length = c.connections.length := congrArg Cells.count hcells
  have hslot : (c.apply w e).slot = c.slot := congrArg Cells.slot hcells
  have hroles : (c.apply w e).roleOf = c.roleOf := congrArg Cells.roles hcells
  refine ⟨hcells ▸ h.placed, hcells ▸ h.made, fun i hi => ?_, fun i hi => ?_⟩
  · rw [hslot, hroles]
    refine (h.bare i (hcount ▸ hi)).imp_right fun hb => hb.imp_right ?_
    rintro ⟨k, hk, hbare⟩
    obtain ⟨k', hk', hp⟩ := ho.connection hk
    exact ⟨k', hk', hp.bare hbare⟩
  · rw [hslot, hroles]
    refine (h.closed i (hcount ▸ hi)).imp_right fun hb => hb.imp_right ?_
    rintro ⟨k, hk, hclosed⟩
    obtain ⟨k', hk', hp⟩ := ho.connection hk
    exact ⟨k', hk', hp.closed.trans hclosed⟩

/-- A call that has only just been made has nothing to do with the slot. -/
theorem role_of (op : Operation) : (Call.of op).role = .away ∨ (Call.of op).role = .starting := by
  cases op with
  | startup => exact .inr rfl
  | _ => exact .inl rfl

theorem roleOf_new (c : Conversation) : c.roleOf c.threads.length = .away := by
  rw [roleOf, List.getElem?_eq_none (Nat.le_refl _)]
  rfl

theorem Tidy.call (h : c.Tidy) (op : Operation) (inside : Bool) : (c.apply {} (.call op inside)).Tidy := by
  have hcells := call_cells c op inside
  have hnew := roleOf_new c
  have hrole : (Call.of op).role.holds = false ∧ (Call.of op).role.owns = none := by
    rcases role_of op with hr | hr <;> rw [hr] <;> exact ⟨rfl, rfl⟩
  have hkeep : ∀ j, (c.roleOf j).holds = true → (c.apply {} (.call op inside)).roleOf j = c.roleOf j := by
    intro j hj
    refine (congrFun (congrArg Cells.roles hcells) j).trans (if_neg ?_)
    rintro rfl
    rw [hnew] at hj
    cases hj
  refine ⟨?_, ?_, fun i hi => ?_, fun i hi => ?_⟩
  · rw [hcells]
    exact h.placed.aside (by rw [show c.cells.roles _ = _ from hnew]; rfl) hrole.1
  · rw [hcells]
    exact h.made.put hrole.2
  · refine (h.bare i hi).imp_right fun hb => hb.imp_left ?_
    rintro ⟨j, hj⟩
    exact ⟨j, by rw [hkeep j (Role.holds_of_owns hj)]; exact hj⟩
  · refine (h.closed i hi).imp_right fun hb => hb.imp_left ?_
    rintro ⟨j, hj⟩
    exact ⟨j, by rw [hkeep j (by rw [hj]; rfl)]; exact hj⟩

/-- A call that makes a connection has it for itself afterwards. -/
theorem made_owns {v v' : Cells} (h : Turn id v v') : ∀ i < v'.count, i < v.count ∨ (v'.roles id).owns = some i := by
  intro i hi
  have hnew : ∀ {role : Role}, role = .building v.count ∨ role = .failing v.count → i < v.count + 1 →
      i < v.count ∨ role.owns = some i := by
    intro role hrole hlt
    rcases Nat.lt_or_ge i v.count with hold | hge
    · exact .inl hold
    · obtain rfl : i = v.count := by omega
      rcases hrole with rfl | rfl <;> exact .inr rfl
  cases h with
  | create hrole hfree hslot hr => exact (hnew hr hi).imp_right fun h => by rwa [Cells.put_roles, if_pos rfl]
  | recreate hrole hr => exact (hnew hr hi).imp_right fun h => by rwa [Cells.put_roles, if_pos rfl]
  | _ => exact .inl hi

theorem roleOf_advance_of_ne (w : Worker) {j : Nat} (hj : j ≠ id) : (c.advance w id).roleOf j = c.roleOf j := by
  rw [roleOf, roleOf, getElem?_advance_of_ne hj.symm]

/-- What is left of a conversation after a step of a call. -/
structure Lands (id : Nat) (c : Conversation) (r : Conversation × Call) (c' : Conversation) : Prop where
  slot : c'.slot = r.1.slot
  connections : c'.connections = r.1.connections
  mine : c'.roleOf id = r.2.role
  others : ∀ j, j ≠ id → c'.roleOf j = c.roleOf j

theorem lands_advance {t : Thread} (ht : c.threads[id]? = some t) (w : Worker) :
    Lands id c (stepCall w id t.inside c t.call) (c.advance w id) := by
  refine ⟨congrArg Cells.slot (advance_landed ht w), ?_, roleOf_eq (getElem?_advance ht), fun j hj =>
    roleOf_advance_of_ne w hj⟩
  rw [advance_eq ht]

theorem Tends.bare {r : Conversation × Call} (h : Tends id c r) (hl : Lands id c r c') (hp : c.cells.Placed)
    (hb : c.slot = some i ∨ (∃ j, (c.roleOf j).owns = some i) ∨ c.BareAt i) :
    c'.slot = some i ∨ (∃ j, (c'.roleOf j).owns = some i) ∨ c'.BareAt i := by
  have hbare : r.1.BareAt i → c'.BareAt i := fun hi => by rwa [BareAt, hl.connections]
  have hown : r.2.role.owns = some i → ∃ j, (c'.roleOf j).owns = some i := fun hi => ⟨id, by rwa [hl.mine]⟩
  have hgone : c.slot = some i ∨ (c.roleOf id).owns = some i →
      c'.slot = some i ∨ (∃ j, (c'.roleOf j).owns = some i) ∨ c'.BareAt i := by
    rintro (hs | ho)
    · rcases h.taken i hs with hs' | ho' | hb'
      · exact .inl (hl.slot.trans hs')
      · exact .inr (.inl (hown ho'))
      · exact .inr (.inr (hbare hb'))
    · rcases h.parted i ho with ho' | hs' | hb'
      · exact .inr (.inl (hown ho'))
      · exact .inl (hl.slot.trans hs')
      · exact .inr (.inr (hbare hb'))
  by_cases hworks : (c.roleOf id).works = some i
  · refine hgone ?_
    cases hrole : c.roleOf id <;> rw [hrole] at hworks <;> cases hworks
    · exact .inr rfl
    · exact .inl (hp.borrowed id i hrole)
  · rcases hb with hs | ⟨j, hj⟩ | hb
    · exact hgone (.inl hs)
    · by_cases hji : j = id
      · exact hgone (.inr (hji ▸ hj))
      · exact .inr (.inl ⟨j, by rwa [hl.others j hji]⟩)
    · exact .inr (.inr (hbare (h.bares i hworks hb)))

theorem Tends.closed {r : Conversation × Call} (h : Tends id c r) (hl : Lands id c r c') (hm : Moves id c r.1)
    (hb : c.slot = some i ∨ (∃ j, c.roleOf j = .building i) ∨ c.ClosedAt i) :
    c'.slot = some i ∨ (∃ j, c'.roleOf j = .building i) ∨ c'.ClosedAt i := by
  have hclosed : r.1.ClosedAt i → c'.ClosedAt i := fun hi => by rwa [ClosedAt, hl.connections]
  have hgone : c.roleOf id = .building i ∨ c.slot = some i →
      c'.slot = some i ∨ (∃ j, c'.roleOf j = .building i) ∨ c'.ClosedAt i := by
    intro hnow
    rcases h.closing i hnow with hr | hs | hc
    · exact .inr (.inl ⟨id, hl.mine.trans hr⟩)
    · exact .inl (hl.slot.trans hs)
    · exact .inr (.inr (hclosed hc))
  rcases hb with hs | ⟨j, hj⟩ | hc
  · exact hgone (.inr hs)
  · by_cases hji : j = id
    · exact hgone (.inl (hji ▸ hj))
    · exact .inr (.inl ⟨j, (hl.others j hji).trans hj⟩)
  · exact .inr (.inr (hclosed (hm.closedAt hc)))

theorem Tidy.advance (h : c.Tidy) (hx : c.Exclusive) (id : Nat) : (c.apply {} (.advance id)).Tidy := by
  cases ht : c.threads[id]? with
  | none =>
    have hsame : c.apply {} (.advance id) = c := advance_ended (by rw [ht]; intro t h; cases h) {}
    rwa [hsame]
  | some t =>
    have hl := lands_advance ht {}
    have hturn := advance_turn hx {} id
    have htends := stepCall_tends h.placed h.made {} t.inside (roleOf_eq ht)
    refine ⟨h.placed.turn hturn, h.made.turn hturn, fun i hi => ?_, fun i hi => ?_⟩
    · rcases made_owns hturn i hi with hold | hown
      · exact htends.bare hl h.placed (h.bare i hold)
      · exact .inr (.inl ⟨id, hown⟩)
    · rcases htends.made i (hl.connections ▸ hi) with hold | hr | hc
      · exact htends.closed hl (stepCall_moves {} id t.inside c t.call) (h.closed i hold)
      · exact .inr (.inl ⟨id, hl.mine.trans hr⟩)
      · obtain ⟨k, hk, hclosed⟩ := hc
        exact .inr (.inr ⟨k, (congrArg (·[i]?) hl.connections).trans hk, hclosed⟩)

/-- Whatever happens while the worker runs, a connection that is neither in the slot nor with a call is let go. -/
theorem Served.tidy (h : Served c) : c.Tidy := by
  induction h with
  | fresh settings version servers running => exact .fresh settings version servers running
  | @apply c h e he ih =>
    cases e with
    | call op inside => exact ih.call op inside
    | advance id => exact ih.advance h.reachable.exclusive id
    | shutDown => cases he
    | dropTasks => cases he
    | _ => exact ih.network rfl {}

end Conversation
end Doip
