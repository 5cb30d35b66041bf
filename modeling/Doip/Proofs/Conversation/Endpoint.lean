import Doip.Proofs.Conversation.Exclusive
import Doip.Proofs.Conversation.Run

/-! Where connects go. A conversation keeps its settings and the servers that it knows (`basis_apply`). So the endpoint
of a target stays the same, and this is the only one that a connect to the target ever goes to (`Directed.apply`). -/

namespace Doip

/-- A connect may stand at the point when its target has this endpoint. Without an endpoint it comes no further than to
look for one. -/
def ConnectPoint.Toward (endpoint? : Option Endpoint) : ConnectPoint → Prop
  | .entered => True
  | .checked => True
  | .submitting endpoint => endpoint? = some endpoint
  | .queued endpoint => endpoint? = some endpoint
  | .replacing endpoint _ => endpoint? = some endpoint
  | .waiting endpoint _ _ => endpoint? = some endpoint
  | .writing endpoint _ => endpoint? = some endpoint
  | .failing _ => endpoint? ≠ none
  | .refused => endpoint? ≠ none

/-- The call is no connect to anywhere but the endpoint of its target. -/
def Call.Toward (resolve : Address → Option IpAddress → Option Endpoint) : Call → Prop
  | .connect target host point => point.Toward (resolve target host)
  | _ => True

namespace Conversation

/-- Connects go to the endpoints that their targets have. -/
def Directed (c : Conversation) : Prop := ∀ t ∈ c.threads, t.call.Toward c.resolve

variable {w : Worker} {id conn : Nat} {target : Address} {host : Option IpAddress} {data : Bytes}
variable {c c' : Conversation} {endpoint : Endpoint} {resolve : Address → Option IpAddress → Option Endpoint}

/-! What a conversation keeps. -/

/-- What the endpoints of targets depend on. -/
def basis (c : Conversation) : ConversationSettings × List ServerMapping := (c.settings, c.servers)

theorem resolve_congr (h : c'.basis = c.basis) : c'.resolve = c.resolve := by
  obtain ⟨hsettings, hservers⟩ := Prod.mk.inj h
  funext target host
  unfold Conversation.resolve
  rw [hsettings, hservers]

theorem Move.basis_eq (h : Move id c c') : c'.basis = c.basis := by
  cases h <;> rfl

theorem Moves.basis_eq (h : Moves id c c') : c'.basis = c.basis := by
  induction h with
  | refl => rfl
  | tail _ hm ih => exact hm.basis_eq.trans ih

theorem basis_advance (w : Worker) (c : Conversation) (id : Nat) : (c.advance w id).basis = c.basis := by
  cases ht : c.threads[id]? with
  | none => simp only [advance, ht]
  | some t =>
    rw [advance_eq ht]
    exact (stepCall_moves w id t.inside c t.call).basis_eq

theorem basis_dropTask (c : Conversation) (id : Nat) : (c.dropTask id).basis = c.basis := by
  unfold dropTask
  split
  · rfl
  · split
    · rfl
    · rename_i conn _
      cases conn <;> rfl

theorem basis_dropTasks (c : Conversation) : c.dropTasks.basis = c.basis := by
  have hall : ∀ (ids : List Nat) (c : Conversation), (ids.foldl dropTask c).basis = c.basis := by
    intro ids
    induction ids with
    | nil => exact fun _ => rfl
    | cons id ids ih => exact fun c => (ih (c.dropTask id)).trans (basis_dropTask c id)
  exact hall (List.range c.threads.length) c

theorem basis_apply (w : Worker) (c : Conversation) (e : Event) : (c.apply w e).basis = c.basis := by
  cases e with
  | advance id => exact basis_advance w c id
  | dropTasks => exact basis_dropTasks c
  | _ => rfl

/-! One step of a call. -/

theorem afterConnectWait_toward (h : resolve target host = some endpoint) (r : Conversation × (Waiting ⊕ Settled)) :
    (afterConnectWait target host endpoint conn r).2.Toward resolve := by
  unfold afterConnectWait
  split
  · exact h
  · exact h
  · trivial
  · exact Option.ne_none_iff_exists'.2 ⟨endpoint, h⟩

theorem startConnect_toward (h : resolve target host = some endpoint) (c : Conversation) :
    (startConnect w id target host c endpoint).2.Toward resolve :=
  afterConnectWait_toward h _

theorem stepConnect_toward {point : ConnectPoint} (h : point.Toward (c.resolve target host)) (inside : Bool) :
    (stepConnect w id target host inside c point).2.Toward c.resolve := by
  cases point with
  | entered =>
    simp only [stepConnect]
    split <;> trivial
  | checked =>
    simp only [stepConnect]
    split
    · trivial
    · cases hto : c.resolve target host with
      | none => trivial
      | some endpoint => exact hto
  | submitting endpoint =>
    simp only [stepConnect]
    split
    · exact h
    · exact Option.ne_none_iff_exists'.2 ⟨endpoint, h⟩
  | queued endpoint =>
    simp only [stepConnect]
    split
    · trivial
    · split
      · exact startConnect_toward h _
      · split
        · trivial
        · exact h
  | replacing endpoint stale => exact startConnect_toward h _
  | waiting endpoint conn waiting => exact afterConnectWait_toward h _
  | writing endpoint conn =>
    simp only [stepConnect]
    split
    · exact h
    · split
      · exact Option.ne_none_iff_exists'.2 ⟨endpoint, h⟩
      · exact afterConnectWait_toward h _
  | failing conn => trivial
  | refused => trivial

theorem stepDisconnect_toward (inside : Bool) (point : DisconnectPoint) :
    (stepDisconnect w id inside c point).2.Toward resolve := by
  cases point with
  | entered =>
    simp only [stepDisconnect]
    split <;> trivial
  | stopping => trivial
  | submitting =>
    simp only [stepDisconnect]
    split <;> trivial
  | queued =>
    have hclose (c : Conversation) : c.closeSlot.2.Toward resolve := by
      unfold closeSlot
      split <;> trivial
    simp only [stepDisconnect]
    split
    · exact hclose c
    · split
      · trivial
      · split
        · exact hclose _
        · trivial
  | closing conn => trivial

theorem settleRequest_toward (c : Conversation) (result : Except RequestError Response) :
    (settleRequest data c result).2.Toward resolve := by
  unfold settleRequest
  split
  · trivial
  · split <;> trivial

theorem afterResponseWait_toward (r : Conversation × (Waiting ⊕ Settled)) :
    (afterResponseWait data conn r).2.Toward resolve := by
  unfold afterResponseWait
  split
  · trivial
  · exact settleRequest_toward _ _
  · exact settleRequest_toward _ _
  · exact settleRequest_toward _ _

theorem startResponse_toward (c : Conversation) : (startResponse w id data c conn).2.Toward resolve := by
  unfold startResponse
  split
  · exact settleRequest_toward _ _
  · split
    · exact settleRequest_toward _ _
    · exact settleRequest_toward _ _
    · exact afterResponseWait_toward _

theorem afterRequestWait_toward (r : Conversation × (Waiting ⊕ Settled)) :
    (afterRequestWait w id data conn r).2.Toward resolve := by
  unfold afterRequestWait
  split
  · exact startResponse_toward _
  · exact settleRequest_toward _ _
  · exact settleRequest_toward _ _
  · exact settleRequest_toward _ _
  · exact afterResponseWait_toward _

theorem startExchange_toward (c : Conversation) : (startExchange data c).2.Toward resolve := by
  obtain hrefused | ⟨conn, k, -, -, -, ⟨e, hfails⟩ | ⟨frame, hwrites⟩⟩ := startExchange_cases data c
  · rw [hrefused]
    exact settleRequest_toward _ _
  · rw [hfails]
    exact settleRequest_toward _ _
  · rw [hwrites]
    trivial

theorem stepRequest_toward (inside : Bool) (point : RequestPoint) :
    (stepRequest w id data inside c point).2.Toward resolve := by
  cases point with
  | entered =>
    simp only [stepRequest]
    split
    · trivial
    · split <;> trivial
  | submitting =>
    simp only [stepRequest]
    split <;> trivial
  | queued =>
    simp only [stepRequest]
    split
    · trivial
    · exact startExchange_toward _
  | writing conn frame =>
    simp only [stepRequest]
    split
    · trivial
    · split
      · exact settleRequest_toward _ _
      · exact afterRequestWait_toward _
  | waiting conn waiting => exact afterRequestWait_toward _
  | closing conn result => trivial

theorem stepCall_toward {call : Call} (h : call.Toward c.resolve) (w : Worker) (id : Nat) (inside : Bool) :
    (stepCall w id inside c call).2.Toward c.resolve := by
  cases call with
  | connect target host point => exact stepConnect_toward h inside
  | disconnect point => exact stepDisconnect_toward inside point
  | request data point => exact stepRequest_toward inside point
  | shutdown point =>
    cases point with
    | stopping => trivial
    | _ =>
      simp only [stepCall, stepShutdown]
      split <;> trivial
  | startup => trivial
  | returned outcome => trivial

theorem dropped_toward {t : Thread} (h : t.call.Toward resolve) : (dropped t).call.Toward resolve := by
  obtain ⟨call, inside⟩ := t
  cases call with
  | connect target host point =>
    cases point with
    | entered => trivial
    | checked => trivial
    | submitting endpoint => exact h
    | failing conn => exact h
    | refused => exact h
    | _ => exact Option.ne_none_iff_exists'.2 ⟨_, h⟩
  | disconnect point => cases point <;> trivial
  | request data point => cases point <;> trivial
  | _ => trivial

/-! All that happens. -/

/-- Connects go to the endpoints of their targets, whatever happens. -/
theorem Directed.apply (h : c.Directed) (w : Worker) (e : Event) : (c.apply w e).Directed := by
  intro t ht
  -- the endpoints are those of before the event, so only the call itself counts
  rw [resolve_congr (basis_apply w c e)]
  obtain ⟨id, hid⟩ := List.mem_iff_getElem?.1 ht
  cases e with
  | call operation inside =>
    rcases List.mem_append.1 ht with hold | hnew
    · exact h t hold
    · rw [List.mem_singleton.1 hnew]
      cases operation <;> trivial
  | advance j =>
    rw [Conversation.apply] at hid
    by_cases hj : j = id
    · cases hold : c.threads[id]? with
      | none =>
        rw [hj, advance, hold] at hid
        cases hold.symm.trans hid
      | some t₀ =>
        rw [hj, getElem?_advance hold] at hid
        cases hid
        exact stepCall_toward (h t₀ (List.mem_of_getElem? hold)) w id t₀.inside
    · rw [getElem?_advance_of_ne hj] at hid
      exact h t (List.mem_of_getElem? hid)
  | dropTasks =>
    rw [Conversation.apply, dropTasks_threads] at hid
    obtain ⟨t₀, hold, rfl⟩ := Option.map_eq_some_iff.1 hid
    exact dropped_toward (h t₀ (List.mem_of_getElem? hold))
  | _ => exact h t ht

end Conversation
end Doip
