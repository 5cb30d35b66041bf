import Doip.Proofs.Conversation.Reachable
import Doip.Proofs.Payload.Diagnostic

/-! Runs of one call over its connection: what arrives, the time that passes and the call's own looks, in any
order. Between two looks only the receiver and the clock act (`run_unattended`). -/

namespace Doip

inductive Happening
  | arrive (a : Arrival)
  | pass (ms : Nat)
  | look
deriving DecidableEq

namespace Happening

def event (conn id : Nat) : Happening → Conversation.Event
  | .arrive a => .arrive conn a
  | .pass ms => .elapse ms
  | .look => .advance id

def arrivals : List Happening → List Arrival
  | [] => []
  | .arrive a :: hs => a :: arrivals hs
  | _ :: hs => arrivals hs

def passes : List Happening → List Nat
  | [] => []
  | .pass ms :: hs => ms :: passes hs
  | _ :: hs => passes hs

end Happening

/-- A loss is recorded once, whether it comes early or late. -/
theorem record_or (early late closed : Bool) (state : ConnectionState) :
    (if late && !closed then .faulted else if early && !closed then .faulted else state) =
      if (early || late) && !closed then ConnectionState.faulted else state := by
  cases early <;> cases late <;> cases closed <;> rfl

/-- Several arrivals on a connection are those on its stream, and a loss among them is recorded once. -/
theorem Connection.arrivals_eq {k : Connection} {s : Stream} (hs : k.stream = some s) (as : List Arrival) :
    as.foldl Connection.arrive k =
      { k with
        stream := some (Stream.arriveAll k.settings.codec k.settings.client s as).1
        state := if (Stream.arriveAll k.settings.codec k.settings.client s as).2 && !k.closed then .faulted
          else k.state } := by
  induction as generalizing k s with
  | nil =>
    obtain ⟨settings, server, state, closed, dial, stream, former, early⟩ := k
    simp only at hs
    simp [Stream.arriveAll, hs]
  | cons a as ih =>
    have hone : (k.arrive a).stream = some (s.arrive k.settings.codec k.settings.client a).1 := by
      simp only [Connection.arrive, hs]
    rw [List.foldl_cons, ih hone]
    simp only [Connection.arrive, hs, Stream.arriveAll, record_or]
    rfl

namespace Conversation

variable {w : Worker} {conn id : Nat} {c : Conversation} {hs : List Happening} {t : Thread} {k : Connection}
variable {data : Bytes}

theorem getElem?_modifyConnection (hk : c.connections[conn]? = some k) (f : Connection → Connection) :
    (c.modifyConnection conn f).connections[conn]? = some (f k) := by
  rw [modifyConnection, List.getElem?_modify_eq, hk]
  rfl

theorem getElem?_modifyConnection_of_ne {i : Nat} (h : i ≠ conn) (f : Connection → Connection) :
    (c.modifyConnection i f).connections[conn]? = c.connections[conn]? :=
  List.getElem?_modify_ne f c.connections h

theorem modifyConnection_eq (hk : c.connections[conn]? = some k) (f : Connection → Connection) :
    c.modifyConnection conn f = c.modifyConnection conn fun _ => f k := by
  have hconns : c.connections.modify conn f = c.connections.modify conn fun _ => f k := by
    refine List.ext_getElem? fun i => ?_
    by_cases hi : conn = i
    · rw [← hi, List.getElem?_modify_eq, List.getElem?_modify_eq, hk]
      rfl
    · rw [List.getElem?_modify_ne f _ hi, List.getElem?_modify_ne _ _ hi]
  rw [modifyConnection, modifyConnection, hconns]

/-! One step of a call. -/

theorem advance_eq (ht : c.threads[id]? = some t) :
    c.advance w id =
      { (stepCall w id t.inside c t.call).1 with
        threads := c.threads.set id { t with call := (stepCall w id t.inside c t.call).2 } } := by
  have hsp := (stepCall_moves w id t.inside c t.call).spares
  simp only [advance, ht, hsp.threads]

theorem getElem?_advance (ht : c.threads[id]? = some t) :
    (c.advance w id).threads[id]? = some { t with call := (stepCall w id t.inside c t.call).2 } := by
  obtain ⟨hlt, -⟩ := List.getElem?_eq_some_iff.1 ht
  rw [advance_eq ht]
  exact List.getElem?_set_self hlt

theorem getElem?_advance_of_ne {j : Nat} (h : j ≠ id) : (c.advance w j).threads[id]? = c.threads[id]? := by
  cases ht : c.threads[j]? with
  | none => simp only [advance, ht]
  | some t =>
    rw [advance_eq ht]
    exact List.getElem?_set_ne h

/-- No call is under way. -/
def Idle (c : Conversation) : Prop := ∀ t ∈ c.threads, ∃ outcome, t.call = .returned outcome

instance (c : Conversation) : Decidable c.Idle :=
  decidable_of_iff (∀ t ∈ c.threads, t.call.isOpen = false) (forall₂_congr fun _ _ => Call.isOpen_eq_false_iff)

/-- A step of a call that has ended, or was never made, changes nothing. -/
theorem advance_ended (h : ∀ t, c.threads[id]? = some t → ∃ outcome, t.call = .returned outcome) (w : Worker) :
    c.advance w id = c := by
  cases ht : c.threads[id]? with
  | none =>
    unfold Conversation.advance
    rw [ht]
  | some t =>
    obtain ⟨outcome, hcall⟩ := h t ht
    have hset : c.threads.set id t = c.threads := by
      obtain ⟨hlt, heq⟩ := List.getElem?_eq_some_iff.1 ht
      rw [← heq]
      exact List.set_getElem_self hlt
    have hsame : ({ t with call := .returned outcome } : Thread) = t := by rw [← hcall]
    rw [advance_eq ht, hcall]
    show { c with threads := c.threads.set id { t with call := .returned outcome } } = c
    rw [hsame, hset]

/-- A step of the call that was made last. -/
theorem advance_last {ts : List Thread} {call : Call} (h : c.threads = ts ++ [{ call := call }]) (w : Worker) :
    c.advance w ts.length =
      { (stepCall w ts.length false c call).1 with
        threads := ts ++ [{ call := (stepCall w ts.length false c call).2 }] } := by
  have ht : c.threads[ts.length]? = some { call := call } := by
    rw [h]
    exact List.getElem?_concat_length
  have hset : ∀ t, c.threads.set ts.length t = ts ++ [t] := by
    intro t
    rw [h]
    simp
  rw [advance_eq ht, hset]

theorem outcome?_eq_some_iff (ht : c.threads[id]? = some t) {outcome : Outcome} :
    c.outcome? id = some outcome ↔ t.call = .returned outcome := by
  obtain ⟨call, inside⟩ := t
  unfold outcome?
  rw [ht]
  cases call <;> simp

theorem resumeWait_inl {wait : Wait} (hw : c.timer.wait? id = some wait) (hk : c.connections[conn]? = some k)
    {text : String} {waiting waiting' : Waiting} {k' : Connection}
    (hres : k.resume text wait w.cancelled waiting = (k', .inl waiting')) :
    c.resumeWait w id text conn waiting = (c.modifyConnection conn fun _ => k', .inl waiting') := by
  simp only [resumeWait, hw, hk, hres]

theorem resumeWait_inr {wait : Wait} (hw : c.timer.wait? id = some wait) (hk : c.connections[conn]? = some k)
    {text : String} {waiting : Waiting} {settled : Settled} {k' : Connection}
    (hres : k.resume text wait w.cancelled waiting = (k', .inr settled)) :
    c.resumeWait w id text conn waiting =
      ({ c.modifyConnection conn fun _ => k' with timer := c.timer.finish id }, .inr settled) := by
  simp only [resumeWait, hw, hk, hres]

/-! The frame of a request. -/

/-- The frame that a request is written as. -/
def requestOn (k : Connection) (data : Bytes) : Bytes :=
  k.settings.codec.encodePayload (.diagnosticMessage ⟨k.settings.client, k.server, data⟩)

theorem requestFrame_of_fits (hst : k.state = .activated) (hfits : 4 + data.length ≤ k.settings.codec.limit.toNat) :
    k.requestFrame data = .ok (requestOn k data) := by
  have hlen : (Payload.diagnosticMessage ⟨k.settings.client, k.server, data⟩).encode.length = 4 + data.length :=
    DiagnosticMessage.length_encode _
  simp only [Connection.requestFrame, hst, ne_eq, not_true_eq_false, if_false, Codec.encodePayloadWithin,
    Codec.encodeWithin, hlen, hfits, if_true]
  rfl

theorem requestFrame_of_large (hst : k.state = .activated)
    (hlarge : k.settings.codec.limit.toNat < 4 + data.length) :
    k.requestFrame data = .error (.payloadTooLarge (4 + data.length) k.settings.codec.limit.toNat) := by
  have hlen : (Payload.diagnosticMessage ⟨k.settings.client, k.server, data⟩).encode.length = 4 + data.length :=
    DiagnosticMessage.length_encode _
  simp only [Connection.requestFrame, hst, ne_eq, not_true_eq_false, if_false, Codec.encodePayloadWithin,
    Codec.encodeWithin, hlen, Nat.not_le.2 hlarge]

/-- A request on an activated connection begins with what discarding leaves. -/
theorem startExchange_eq (hslot : c.slot = some conn) (hk : c.connections[conn]? = some k)
    (hst : k.state = .activated) :
    startExchange data c =
      match k.discardPending.1.requestFrame data with
      | .error e => settleRequest data (c.modifyConnection conn fun _ => k.discardPending.1) (.error (.ofSend e))
      | .ok frame => (c.modifyConnection conn fun _ => k.discardPending.1, .request data (.writing conn frame)) := by
  have htaken : (c.slot.bind fun conn => (c.connections[conn]?).map (conn, ·)) = some (conn, k) := by
    rw [hslot, Option.bind_some, hk, Option.map_some]
  unfold startExchange
  rw [htaken]
  exact if_neg (not_not_intro hst)

/-! Runs. -/

def run (w : Worker) (conn id : Nat) (c : Conversation) (hs : List Happening) : Conversation :=
  (hs.map (Happening.event conn id)).foldl (apply w) c

theorem run_cons (h : Happening) : run w conn id c (h :: hs) = run w conn id (c.apply w (h.event conn id)) hs := rfl

theorem run_reachable (h : Reachable c) (hs : List Happening) : Reachable (run w conn id c hs) :=
  h.applyAll w _

theorem run_unattended (hn : .look ∉ hs) :
    run w conn id c hs =
      { c with
        timer := (Happening.passes hs).foldl Timer.elapse c.timer
        connections := c.connections.modify conn fun k => (Happening.arrivals hs).foldl Connection.arrive k } := by
  induction hs generalizing c with
  | nil =>
    have hid : c.connections.modify conn (fun k => k) = c.connections := List.modify_id _ _
    simp only [run, Happening.arrivals, Happening.passes, List.map_nil, List.foldl_nil, hid]
  | cons h hs ih =>
    obtain ⟨hh, hrest⟩ := not_or.1 (mt List.mem_cons.2 hn)
    rw [run_cons, ih hrest]
    cases h with
    | arrive a =>
      simp only [Happening.event, apply, modifyConnection, Happening.arrivals, Happening.passes,
        List.modify_modify_eq, List.foldl_cons]
      rfl
    | pass ms => rfl
    | look => exact absurd rfl hh

end Conversation
end Doip
