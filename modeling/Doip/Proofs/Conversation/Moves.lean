import Mathlib.Logic.Relation
import Doip.Conversation.Step
import Doip.Proofs.Connection.Kept

/-! All that a call does to its conversation in one step is a series of elementary moves (`stepCall_moves`):
it sets the switches, changes a connection as an owner does, makes a new one, or arms, ends or stops a wait. -/

namespace Doip.Conversation

open Connection (OwnerStep)
open Relation (ReflTransGen)

/-- An elementary move of the call with the given number. -/
inductive Move (id : Nat) : Conversation → Conversation → Prop
  | switch (c : Conversation) (running : Bool) (link : Option Link) (slot holder : Option Nat)
      (line : List Nat) : Move id c { c with running, link, slot, holder, line }
  | modify (c : Conversation) (i : Nat) (f : Connection → Connection) :
      (∀ k, c.connections[i]? = some k → OwnerStep k (f k)) → Move id c (c.modifyConnection i f)
  | create (c : Conversation) (settings : ConnectionSettings) (server : Address) (closed : Bool) :
      Move id c { c with connections := c.connections ++ [Connection.beginConnect { settings, server, closed }] }
  | arm (c : Conversation) (timeout : Nat) : Move id c { c with timer := c.timer.arm id timeout }
  | finish (c : Conversation) : Move id c { c with timer := c.timer.finish id }
  | stop (c : Conversation) : Move id c { c with timer := c.timer.stop }

def Moves (id : Nat) : Conversation → Conversation → Prop := ReflTransGen (Move id)

variable {w : Worker} {id conn : Nat} {target : Address} {host : Option IpAddress} {data : Bytes}
variable {c c₀ c' : Conversation}

theorem Moves.refl (c : Conversation) : Moves id c c := ReflTransGen.refl

theorem Moves.tail (h : Moves id c₀ c) (hm : Move id c c') : Moves id c₀ c' := ReflTransGen.tail h hm

theorem Moves.modify_all (h : Moves id c₀ c) (i : Nat) {f : Connection → Connection}
    (hf : ∀ k, OwnerStep k (f k)) : Moves id c₀ (c.modifyConnection i f) :=
  h.tail (.modify c i f fun k _ => hf k)

theorem Moves.put (h : Moves id c₀ c) {i : Nat} {k k' : Connection} (hk : c.connections[i]? = some k)
    (hstep : OwnerStep k k') : Moves id c₀ (c.modifyConnection i fun _ => k') := by
  refine h.tail (.modify c i _ fun k₁ hk₁ => ?_)
  rw [hk] at hk₁
  cases hk₁
  exact hstep

theorem Moves.unlock (h : Moves id c₀ c) : Moves id c₀ c.unlock :=
  h.tail (.switch c c.running c.link c.slot c.line.head? c.line.tail)

theorem Moves.slot (h : Moves id c₀ c) (slot : Option Nat) : Moves id c₀ { c with slot } :=
  h.tail (.switch c c.running c.link slot c.holder c.line)

theorem Moves.link (h : Moves id c₀ c) (link : Option Link) : Moves id c₀ { c with link } :=
  h.tail (.switch c c.running link c.slot c.holder c.line)

theorem tryLock_moves (h : c.tryLock id = some c') : Moves id c c' := by
  unfold tryLock at h
  split at h
  · cases h
    exact (Moves.refl c).tail (.switch c c.running c.link c.slot (some id) c.line)
  · cases h

theorem cutLink_moves (h : c.cutLink = some c') : Moves id c c' := by
  obtain ⟨l, -, rfl⟩ := Option.map_eq_some_iff.1 h
  exact ((Moves.refl c).link none).modify_all _ .close

theorem Moves.resumeWait (h : Moves id c₀ c) (w : Worker) (endpoint : String) (conn : Nat) (waiting : Waiting) :
    Moves id c₀ (c.resumeWait w id endpoint conn waiting).1 := by
  unfold Conversation.resumeWait
  split
  · rename_i wait k _ hk
    have hstep := OwnerStep.resume k endpoint wait w.cancelled waiting
    split
    · rename_i k' waiting' hres
      rw [hres] at hstep
      exact h.put hk hstep
    · rename_i k' settled hres
      rw [hres] at hstep
      exact (h.put hk hstep).tail (.finish _)
  · exact h

theorem Moves.beginWait (h : Moves id c₀ c) (w : Worker) (endpoint : String) (conn timeout : Nat)
    (waiting : Waiting) : Moves id c₀ (c.beginWait w id endpoint conn timeout waiting).1 :=
  (h.tail (.arm c timeout)).resumeWait w endpoint conn waiting

/-! Connecting. -/

theorem Moves.failConnect (h : Moves id c₀ c) (conn : Nat) :
    Moves id c₀ (failConnect target host c conn).1 :=
  h.modify_all conn .close

theorem Moves.afterConnectWait {r : Conversation × (Waiting ⊕ Settled)} (h : Moves id c₀ r.1)
    (endpoint : Endpoint) (conn : Nat) :
    Moves id c₀ (afterConnectWait target host endpoint conn r).1 := by
  unfold Conversation.afterConnectWait
  split
  · exact h
  · exact h.modify_all conn .beginActivation
  · exact (h.slot _).unlock
  · exact h.failConnect conn

theorem Moves.startConnect (h : Moves id c₀ c) (endpoint : Endpoint) :
    Moves id c₀ (startConnect w id target host c endpoint).1 := by
  have hnew := (h.tail (.create c (ConnectionSettings.of c.settings c.version) target w.cancelled)).link
    (some ⟨c.connections.length, target⟩)
  exact (hnew.beginWait w _ _ _ _).afterConnectWait endpoint _

theorem stepConnect_moves (inside : Bool) (point : ConnectPoint) :
    Moves id c (stepConnect w id target host inside c point).1 := by
  cases point with
  | entered =>
    simp only [stepConnect]
    split <;> exact .refl c
  | checked =>
    simp only [stepConnect]
    split
    · exact .refl c
    · split <;> exact .refl c
  | submitting endpoint =>
    simp only [stepConnect]
    split <;> exact .refl c
  | queued endpoint =>
    simp only [stepConnect]
    split
    · exact .refl c
    · rename_i c' hl
      have hm := tryLock_moves hl
      split
      · exact hm.startConnect endpoint
      · split
        · exact hm.unlock
        · exact (hm.slot none).modify_all _ .close
  | replacing endpoint stale =>
    exact ((Moves.refl c).modify_all stale .finishDisconnect).startConnect endpoint
  | waiting endpoint conn waiting =>
    exact ((Moves.refl c).resumeWait w _ conn waiting).afterConnectWait endpoint conn
  | writing endpoint conn =>
    simp only [stepConnect]
    split
    · exact .refl c
    · rename_i k hk
      split
      · rename_i k' hw
        exact ((Moves.refl c).put hk (.loseActivation hw)).failConnect conn
      · rename_i k' hw
        exact (((Moves.refl c).put hk (.writeActivation hw)).beginWait w _ conn _ _).afterConnectWait endpoint conn
  | failing conn => exact (((Moves.refl c).modify_all conn .finishDisconnect).link none).unlock
  | refused => exact (Moves.refl c).link none

/-! Disconnecting. -/

theorem Moves.closeSlot (h : Moves id c₀ c) : Moves id c₀ c.closeSlot.1 := by
  unfold Conversation.closeSlot
  split
  · exact h.unlock
  · exact (h.slot none).modify_all _ .close

theorem stepDisconnect_moves (inside : Bool) (point : DisconnectPoint) :
    Moves id c (stepDisconnect w id inside c point).1 := by
  cases point with
  | entered =>
    simp only [stepDisconnect]
    split
    · exact .refl c
    · rename_i hl
      exact cutLink_moves hl
  | stopping => exact (Moves.refl c).tail (.stop c)
  | submitting =>
    simp only [stepDisconnect]
    split <;> exact .refl c
  | queued =>
    simp only [stepDisconnect]
    split
    · exact (Moves.refl c).closeSlot
    · split
      · exact .refl c
      · split
        · rename_i hl
          exact (tryLock_moves hl).closeSlot
        · exact (Moves.refl c).tail (.switch c c.running c.link c.slot c.holder (c.line ++ [id]))
  | closing conn => exact ((Moves.refl c).modify_all conn .finishDisconnect).unlock

/-! Requests. -/

theorem Moves.settleRequest (h : Moves id c₀ c) (result : Except RequestError Response) :
    Moves id c₀ (settleRequest data c result).1 := by
  unfold Conversation.settleRequest
  split
  · exact h.unlock
  · split
    · exact h.unlock
    · exact (h.slot none).modify_all _ .close

theorem Moves.afterResponseWait {r : Conversation × (Waiting ⊕ Settled)} (h : Moves id c₀ r.1) (conn : Nat) :
    Moves id c₀ (afterResponseWait data conn r).1 := by
  unfold Conversation.afterResponseWait
  split
  · exact h
  · exact h.settleRequest _
  · exact h.settleRequest _
  · exact h.settleRequest _

theorem Moves.startResponse (h : Moves id c₀ c) (conn : Nat) :
    Moves id c₀ (startResponse w id data c conn).1 := by
  unfold Conversation.startResponse
  split
  · exact h.settleRequest _
  · rename_i k hk
    have hstep := OwnerStep.beginResponse k
    split
    · rename_i hb
      rw [hb] at hstep
      exact (h.put hk hstep).settleRequest _
    · rename_i hb
      rw [hb] at hstep
      exact (h.put hk hstep).settleRequest _
    · rename_i hb
      rw [hb] at hstep
      exact ((h.put hk hstep).beginWait w _ conn _ _).afterResponseWait conn

theorem Moves.afterRequestWait {r : Conversation × (Waiting ⊕ Settled)} (h : Moves id c₀ r.1) (conn : Nat) :
    Moves id c₀ (afterRequestWait w id data conn r).1 := by
  unfold Conversation.afterRequestWait
  split
  · exact h.startResponse conn
  · exact h.settleRequest _
  · exact h.settleRequest _
  · exact h.settleRequest _
  · exact h.afterResponseWait conn

/-- A request that has the slot is refused without an activated connection. Otherwise it drops what earlier exchanges
left behind, and then fails or is written. -/
theorem startExchange_cases (data : Bytes) (c : Conversation) :
    startExchange data c = settleRequest data c (.error .notConnected) ∨
    ∃ conn k, c.slot = some conn ∧ c.connections[conn]? = some k ∧ k.state = .activated ∧
      ((∃ e, startExchange data c =
        settleRequest data (c.modifyConnection conn fun _ => k.discardPending.1) (.error (.ofSend e))) ∨
      ∃ frame, startExchange data c =
        (c.modifyConnection conn fun _ => k.discardPending.1, .request data (.writing conn frame))) := by
  unfold startExchange
  split
  · exact .inl rfl
  · rename_i conn k hk
    obtain ⟨conn', hslot, hmap⟩ := Option.bind_eq_some_iff.1 hk
    obtain ⟨k', hk', heq⟩ := Option.map_eq_some_iff.1 hmap
    cases heq
    split
    · exact .inl rfl
    · rename_i hst
      refine .inr ⟨conn, k, hslot, hk', not_not.1 hst, ?_⟩
      simp only
      split
      · exact .inl ⟨_, rfl⟩
      · exact .inr ⟨_, rfl⟩

theorem Moves.startExchange (h : Moves id c₀ c) : Moves id c₀ (startExchange data c).1 := by
  obtain hrefused | ⟨conn, k, -, hk, -, ⟨e, hfails⟩ | ⟨frame, hwrites⟩⟩ := startExchange_cases data c
  · rw [hrefused]
    exact h.settleRequest _
  · rw [hfails]
    exact (h.put hk (.discardPending k)).settleRequest _
  · rw [hwrites]
    exact h.put hk (.discardPending k)

theorem stepRequest_moves (inside : Bool) (point : RequestPoint) :
    Moves id c (stepRequest w id data inside c point).1 := by
  cases point with
  | entered =>
    simp only [stepRequest]
    split
    · exact .refl c
    · split <;> exact .refl c
  | submitting =>
    simp only [stepRequest]
    split <;> exact .refl c
  | queued =>
    simp only [stepRequest]
    split
    · exact .refl c
    · rename_i hl
      exact (tryLock_moves hl).startExchange
  | writing conn frame =>
    simp only [stepRequest]
    split
    · exact .refl c
    · rename_i k hk
      have hstep := OwnerStep.writeRequest k frame
      split
      · rename_i hw
        rw [hw] at hstep
        exact ((Moves.refl c).put hk hstep).settleRequest _
      · rename_i hw
        rw [hw] at hstep
        exact (((Moves.refl c).put hk hstep).beginWait w _ conn _ _).afterRequestWait conn
  | waiting conn waiting => exact ((Moves.refl c).resumeWait w _ conn waiting).afterRequestWait conn
  | closing conn result => exact ((Moves.refl c).modify_all conn .finishDisconnect).unlock

/-! All calls. -/

theorem stepShutdown_moves (point : ShutdownPoint) : Moves id c (stepShutdown c point).1 := by
  cases point with
  | entered =>
    simp only [stepShutdown]
    split
    · exact (Moves.refl c).tail (.switch c false c.link c.slot c.holder c.line)
    · exact .refl c
  | cancelling =>
    simp only [stepShutdown]
    split
    · exact .refl c
    · rename_i hl
      exact cutLink_moves hl
  | stopping => exact (Moves.refl c).tail (.stop c)
  | releasing =>
    simp only [stepShutdown]
    split
    · exact ((Moves.refl c).slot none).modify_all _ .abandon
    · exact .refl c

theorem stepCall_moves (w : Worker) (id : Nat) (inside : Bool) (c : Conversation) (call : Call) :
    Moves id c (stepCall w id inside c call).1 := by
  cases call with
  | connect target host point => exact stepConnect_moves inside point
  | disconnect point => exact stepDisconnect_moves inside point
  | request data point => exact stepRequest_moves inside point
  | shutdown point => exact stepShutdown_moves point
  | startup => exact (Moves.refl c).tail (.switch c true c.link c.slot c.holder c.line)
  | returned outcome => exact .refl c

end Doip.Conversation
