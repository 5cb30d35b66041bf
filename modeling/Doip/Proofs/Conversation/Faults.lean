import Doip.Proofs.Connection.Replies
import Doip.Proofs.Conversation.Armed
import Doip.Proofs.Conversation.Harm
import Doip.Proofs.Conversation.Transact

/-! A request faults its connection exactly when that is lost (`faults_on_loss`). A request that returns that the
connection was lost leaves it in another state than activated, whoever has noticed the loss. As long as the
connection has come to no harm, the result is a harmless one, and the next request is written. A request that is too
large ends before it has written anything or begun to wait. -/

namespace Doip

namespace Connection

theorem written_discardPending (k : Connection) : k.discardPending.1.written = k.written := by
  unfold written discardPending
  cases k.stream <;> rfl

theorem written_beginDisconnect (k : Connection) : k.beginDisconnect.written = k.written := rfl

end Connection

namespace Conversation

variable {w : Worker} {e : Event} {es : List (Worker × Event)} {id conn limit : Nat} {data : Bytes} {inside : Bool}
variable {c c' : Conversation} {k : Connection} {t : Thread} {point : RequestPoint} {fit fit' : Prop}
variable {result : Except RequestError Response}

/-- The request returns at the end of the run, and not before. -/
def Returns (id : Nat) (result : Except RequestError Response) (c : Conversation) : List (Worker × Event) → Prop
  | [] => c.outcome? id = some (.request result)
  | (w, e) :: es => c.outcome? id = none ∧ (c.apply w e).Returns id result es

def Sized (limit : Nat) (data : Bytes) (result : Except RequestError Response) : Prop :=
  ∀ n m, result = .error (.payloadTooLarge n m) → n = 4 + data.length ∧ m = limit ∧ limit < 4 + data.length

/-- How far a request on the connection in the slot has come. It is fit for use as long as that has come to no
harm. -/
inductive Underway (fit : Prop) (id conn limit : Nat) (data : Bytes) (c : Conversation) : Prop
  | under {inside : Bool} {point : RequestPoint} {k : Connection}
      (ht : c.threads[id]? = some ⟨.request data point, inside⟩) (hunder : Under conn point)
      (hslot : c.slot = some conn) (hk : c.connections[conn]? = some k) (husable : fit → k.Usable)
  | closing {inside : Bool} {result : Except RequestError Response} {k : Connection}
      (ht : c.threads[id]? = some ⟨.request data (.closing conn result), inside⟩)
      (hk : c.connections[conn]? = some k) (hsized : Sized limit data result) (hunfit : ¬ fit)
  | returned {inside : Bool} {result : Except RequestError Response} {k : Connection}
      (ht : c.threads[id]? = some ⟨.returned (.request result), inside⟩) (hk : c.connections[conn]? = some k)
      (hsized : Sized limit data result)
      (hlost : result = .error .connectionLost → k.state ≠ .activated ∧ c.cells.Reaches conn)
      (hharmless : fit → Harmless result ∧ c.slot = some conn ∧ k.Usable ∧ c.running = true)

theorem Underway.imp (h : Underway fit id conn limit data c) (himp : fit' → fit) :
    Underway fit' id conn limit data c := by
  cases h with
  | under ht hunder hslot hk husable => exact .under ht hunder hslot hk fun hf => husable (himp hf)
  | closing ht hk hsized hunfit => exact .closing ht hk hsized fun hf => hunfit (himp hf)
  | returned ht hk hsized hlost hharmless => exact .returned ht hk hsized hlost fun hf => hharmless (himp hf)

theorem Underway.settle {k : Connection} (ht : c.threads[id]? = some ⟨.request data point, inside⟩)
    (hstep : stepRequest w id data inside c point = settleRequest data c' result) (hslot : c'.slot = some conn)
    (hk : c'.connections[conn]? = some k) (hsized : Sized limit data result)
    (hlost : result = .error .connectionLost → k.state ≠ .activated ∧ (c.advance w id).cells.Reaches conn)
    (hharmless : fit → Harmless result ∧ k.Usable) (hsafe : fit → ¬ Harm conn w c (.advance id)) :
    Underway fit id conn limit data (c.advance w id) := by
  have ht' := getElem?_advance (w := w) ht
  have hadv := advance_eq (w := w) ht
  have hmove : stepCall w id inside c (.request data point) = settleRequest data c' result := hstep
  simp only [hmove] at ht' hadv
  cases hrun : c'.running with
  | true =>
    rw [settleRequest, hrun, if_pos rfl, finishCall] at ht' hadv
    refine .returned ht' (by rw [hadv]; exact hk) hsized hlost fun hf => ?_
    obtain ⟨hgood, husable⟩ := hharmless hf
    refine ⟨hgood, ?_, husable, ?_⟩
    · rw [hadv]
      exact hslot
    · rw [hadv]
      exact hrun
  | false =>
    rw [settleRequest, hrun, if_neg Bool.false_ne_true, hslot] at ht' hadv
    have hk' : (c.advance w id).connections[conn]? = some k.close := by
      rw [hadv]
      exact getElem?_modifyConnection hk Connection.beginDisconnect
    exact .closing ht' hk' hsized fun hf => hsafe hf (.closed ⟨_, hk', rfl⟩)

/-! One event. -/

theorem apply_outside_slot (he : e.isOutside = true) (w : Worker) : (c.apply w e).slot = c.slot := by
  cases e <;> first | rfl | cases he

theorem apply_other (hreach : Reachable c) (ht : c.threads[id]? = some t) (hholds : t.call.holds = true)
    (hother : e ≠ .advance id) (hlast : e ≠ .dropTasks) (w : Worker) :
    (c.apply w e).threads[id]? = some t ∧ (c.apply w e).slot = c.slot := by
  cases he : e.isOutside with
  | true => exact ⟨(apply_outside_threads he w ht).trans ht, apply_outside_slot he w⟩
  | false =>
    cases e with
    | advance j =>
      have hj : j ≠ id := fun hj => hother (hj ▸ rfl)
      have hheld : c.holder = some id := hreach.exclusive id (by rw [holds_eq ht, hholds])
      refine ⟨(getElem?_advance_of_ne hj).trans ht, ?_⟩
      show (c.advance w j).slot = c.slot
      cases htj : c.threads[j]? with
      | none => rw [advance_ended (by rw [htj]; nofun)]
      | some tj =>
        have hfree : tj.call.holds = false := by
          cases hj' : tj.call.holds with
          | false => rfl
          | true => exact absurd (hreach.holds_unique (by rw [holds_eq htj, hj']) (by rw [holds_eq ht, hholds])) hj
        rw [advance_eq htj]
        exact (stepCall_bystands hheld (Ne.symm hj) w tj.inside tj.call hfree).slot
    | dropTasks => exact absurd rfl hlast
    | _ => cases he

theorem Underway.drop (hk : c.connections[conn]? = some k) (ht : c.threads[id]? = some t)
    (hcall : (dropped t).call = .returned (.request (.error .cancelled))) (w : Worker) :
    Underway (fit ∧ ¬ Harm conn w c .dropTasks) id conn limit data (c.apply w .dropTasks) := by
  obtain ⟨k', hk', -⟩ := apply_addresses w .dropTasks hk
  have ht' : (c.apply w .dropTasks).threads[id]? = some (dropped t) := by
    rw [apply, dropTasks_threads, ht]
    rfl
  obtain ⟨call, inside⟩ := t
  simp only [dropped] at hcall ht'
  rw [hcall] at ht'
  exact .returned ht' hk' (by simp [Sized]) (by simp) fun hf => absurd .ended hf.2

theorem Underway.advance (hreach : Reachable c) (ht : c.threads[id]? = some ⟨.request data point, inside⟩)
    (hunder : Under conn point) (hslot : c.slot = some conn) (hk : c.connections[conn]? = some k)
    (husable : fit → k.Usable) (w : Worker) :
    Underway (fit ∧ ¬ Harm conn w c (.advance id)) id conn limit data (c.advance w id) := by
  have hrole : c.roleOf id = .borrowing conn := (roleOf_eq ht).trans (by cases hunder <;> rfl)
  have hreaches : (c.advance w id).cells.Reaches conn := by
    rw [Cells.Reaches, (advance_turn hreach.exclusive w id).link_eq (.inl hrole)]
    exact hreach.fitting.aligned.slot conn hslot
  have hcourse : Course (fit ∧ ¬ Harm conn w c (.advance id)) conn data c.slot
      (stepRequest w id data inside c point) :=
    stepRequest_course hunder hk (fun hf => husable hf.1)
      (fun frame hpoint hf hnone => hf.2 (.unwritten (hpoint ▸ ht) hk hnone)) w id inside
  generalize hr : stepRequest w id data inside c point = r at hcourse
  cases hcourse with
  | @goes c' point' k' hunder' hslot' hk' husable' =>
    have ht' := getElem?_advance (w := w) ht
    have hadv := advance_eq (w := w) ht
    simp only [stepCall, hr] at ht' hadv
    exact .under ht' hunder' (by rw [hadv]; exact hslot'.trans hslot) (by rw [hadv]; exact hk') husable'
  | settles hslot' hk' hends =>
    exact .settle ht hr (hslot'.trans hslot) hk' (fun n m heq => absurd heq (hends.small n m))
      (fun heq => ⟨hends.lost heq, hreaches⟩) (fun hf => ⟨hends.harmless hf, hends.usable hf⟩) And.right

theorem Underway.advance_closing (hreach : Reachable c)
    (ht : c.threads[id]? = some ⟨.request data (.closing conn result), inside⟩) (hk : c.connections[conn]? = some k)
    (hsized : Sized limit data result) (hunfit : ¬ fit) (w : Worker) :
    Underway fit id conn limit data (c.advance w id) := by
  have ht' := getElem?_advance (w := w) ht
  have hadv := advance_eq (w := w) ht
  have hk' : (c.advance w id).connections[conn]? = some k.finishDisconnect := by
    rw [hadv]
    exact getElem?_modifyConnection hk _
  have hreaches : (c.advance w id).cells.Reaches conn := by
    have hrole : c.roleOf id = .closing conn := roleOf_eq ht
    rw [Cells.Reaches, (advance_turn hreach.exclusive w id).link_eq (.inr hrole)]
    exact hreach.fitting.aligned.closing id conn hrole
  have hnot : k.finishDisconnect.state ≠ .activated := by simp [Connection.finishDisconnect]
  exact .returned ht' hk' hsized (fun _ => ⟨hnot, hreaches⟩) fun hf => absurd hf hunfit

theorem Underway.apply (h : Underway fit id conn limit data c) (hreach : Reachable c) (hopen : c.outcome? id = none)
    (w : Worker) (e : Event) :
    Underway (fit ∧ ¬ Harm conn w c e) id conn limit data (c.apply w e) := by
  cases h with
  | @under inside point k ht hunder hslot hk husable =>
    have hholds : (Call.request data point).holds = true := by cases hunder <;> rfl
    by_cases hmine : e = .advance id
    · subst hmine
      exact .advance hreach ht hunder hslot hk husable w
    by_cases hlast : e = .dropTasks
    · subst hlast
      exact .drop hk ht (by cases hunder <;> rfl) w
    obtain ⟨ht', hslot'⟩ := apply_other hreach ht hholds hmine hlast w
    obtain ⟨k', hk', -⟩ := apply_addresses w e hk
    refine .under ht' hunder (hslot'.trans hslot) hk' fun hf => ?_
    obtain ⟨k'', h''⟩ := Ready.apply ⟨hslot, hk, husable hf.1⟩ hreach hf.2
    cases hk'.symm.trans h''.connection
    exact h''.usable
  | @closing inside result k ht hk hsized hunfit =>
    by_cases hmine : e = .advance id
    · subst hmine
      exact (Underway.advance_closing hreach ht hk hsized hunfit w).imp And.left
    by_cases hlast : e = .dropTasks
    · subst hlast
      exact .drop hk ht rfl w
    obtain ⟨ht', -⟩ := apply_other hreach ht rfl hmine hlast w
    obtain ⟨k', hk', -⟩ := apply_addresses w e hk
    exact .closing ht' hk' hsized fun hf => hunfit hf.1
  | returned ht hk hsized hlost hharmless =>
    rw [(outcome?_eq_some_iff ht).2 rfl] at hopen
    cases hopen

/-! Whole runs. -/

theorem Underway.play (h : Underway fit id conn limit data c) (hreach : Reachable c)
    (hreturns : c.Returns id result es) :
    Underway (fit ∧ c.Unharmed conn es) id conn limit data (c.play es) ∧
      (c.play es).outcome? id = some (.request result) := by
  induction es generalizing c fit with
  | nil => exact ⟨h.imp And.left, hreturns⟩
  | cons p es ih =>
    have hnext := h.apply hreach hreturns.1 p.1 p.2
    obtain ⟨hend, hout⟩ := ih hnext (hreach.apply p.1 p.2) hreturns.2
    exact ⟨hend.imp fun hf => ⟨⟨hf.1, hf.2.1⟩, hf.2.2⟩, hout⟩

/-! The first step. -/

theorem written_modify {f : Connection → Connection} (hf : ∀ k, (f k).written = k.written) {i : Nat} :
    (c.modifyConnection i f).connections.map Connection.written = c.connections.map Connection.written := by
  refine List.ext_getElem? fun j => ?_
  rw [List.getElem?_map, List.getElem?_map, modifyConnection, List.getElem?_modify]
  cases c.connections[j]? with
  | none => rfl
  | some k =>
    by_cases hij : i = j
    · exact congrArg some ((congrArg Connection.written (if_pos hij)).trans (hf k))
    · exact congrArg (fun k => some (Connection.written k)) (if_neg hij)

theorem settleRequest_quiet (c : Conversation) (result : Except RequestError Response) :
    (settleRequest data c result).1.connections.map Connection.written = c.connections.map Connection.written ∧
      (settleRequest data c result).1.timer = c.timer := by
  unfold settleRequest
  split
  · exact ⟨rfl, rfl⟩
  · split
    · exact ⟨rfl, rfl⟩
    · exact ⟨written_modify Connection.written_beginDisconnect, rfl⟩

/-- A request that has got the slot of an activated connection, with what earlier ones left behind discarded. -/
def started (c : Conversation) (id conn : Nat) : Conversation :=
  { c with holder := some id }.modifyConnection conn fun k => k.discardPending.1

theorem getElem?_started (hk : c.connections[conn]? = some k) :
    (c.started id conn).connections[conn]? = some k.discardPending.1 :=
  getElem?_modifyConnection (by exact hk) _

theorem stepRequest_queued (hfree : c.holder = none) (hslot : c.slot = some conn)
    (hk : c.connections[conn]? = some k) (hstate : k.state = .activated) (w : Worker) (id : Nat) (data : Bytes)
    (inside : Bool) :
    stepRequest w id data inside c .queued =
      match k.discardPending.1.requestFrame data with
      | .error e => settleRequest data (c.started id conn) (.error (.ofSend e))
      | .ok frame => (c.started id conn, .request data (.writing conn frame)) := by
  have hlock : c.tryLock id = some { c with holder := some id } := by simp [tryLock, hfree]
  have hput : c.started id conn = { c with holder := some id }.modifyConnection conn fun _ => k.discardPending.1 :=
    modifyConnection_eq (by exact hk) fun k => k.discardPending.1
  rw [hput]
  simp only [stepRequest, hlock]
  exact startExchange_eq hslot hk hstate

section Queued

variable (ht : c.threads[id]? = some ⟨.request data .queued, inside⟩) (hfree : c.holder = none)
variable (hslot : c.slot = some conn) (hk : c.connections[conn]? = some k) (hstate : k.state = .activated)

include ht hfree hslot hk hstate

theorem underway_of_queued (w : Worker) :
    Underway (k.Usable ∧ ¬ Harm conn w c (.advance id)) id conn k.settings.codec.limit.toNat data
      (c.advance w id) := by
  have hstart := stepRequest_queued hfree hslot hk hstate w id data inside
  have hk' : (c.started id conn).connections[conn]? = some k.discardPending.1 := getElem?_started hk
  rcases Nat.lt_or_ge k.settings.codec.limit.toNat (4 + data.length) with hlarge | hfits
  · have hframe : k.discardPending.1.requestFrame data = .error (.payloadTooLarge _ _) :=
      requestFrame_of_large hstate hlarge
    rw [hframe] at hstart
    refine .settle ht hstart hslot hk' ?_ (by simp [RequestError.ofSend])
      (fun hf => ⟨.payloadTooLarge _ _, hf.1.discardPending⟩) And.right
    intro n m heq
    cases heq
    exact ⟨rfl, rfl, hlarge⟩
  · have hframe : k.discardPending.1.requestFrame data = .ok _ := requestFrame_of_fits hstate hfits
    rw [hframe] at hstart
    have ht' := getElem?_advance (w := w) ht
    have hadv := advance_eq (w := w) ht
    simp only [stepCall, hstart] at ht' hadv
    exact .under ht' (.writing _) (by rw [hadv]; exact hslot) (by rw [hadv]; exact hk') fun hf => hf.1.discardPending

theorem tooLarge_of_queued (hlarge : k.settings.codec.limit.toNat < 4 + data.length) (w : Worker) :
    let now := c.advance w id
    let result := .error (.payloadTooLarge (4 + data.length) k.settings.codec.limit.toNat)
    (∃ t, now.threads[id]? = some t ∧ result? t.call = some result) ∧
      (c.running = true → now.outcome? id = some (.request result)) ∧
      now.connections.map Connection.written = c.connections.map Connection.written ∧ now.timer = c.timer := by
  intro now result
  have hframe : k.discardPending.1.requestFrame data = .error (.payloadTooLarge _ _) :=
    requestFrame_of_large hstate hlarge
  have hstep := stepRequest_queued hfree hslot hk hstate w id data inside
  rw [hframe] at hstep
  have ht' := getElem?_advance (w := w) ht
  have hadv := advance_eq (w := w) ht
  simp only [stepCall, hstep] at ht' hadv
  refine ⟨⟨_, ht', settleRequest_result data _ _⟩, fun hrun => ?_, ?_, ?_⟩
  · rw [outcome?_eq_some_iff ht', settleRequest, if_pos (by exact hrun)]
    rfl
  · show (c.advance w id).connections.map Connection.written = _
    rw [hadv]
    exact (settleRequest_quiet _ _).1.trans (written_modify Connection.written_discardPending)
  · show (c.advance w id).timer = _
    rw [hadv]
    exact (settleRequest_quiet _ _).2

end Queued

/-! A request that is too large. -/

theorem returns_result {r : Except RequestError Response} (ht : c.threads[id]? = some t)
    (hres : result? t.call = some r) (hreturns : c.Returns id result es) : result = r ∨ ∃ w, (w, .dropTasks) ∈ es := by
  induction es generalizing c t with
  | nil =>
    have hcall := (outcome?_eq_some_iff ht).1 hreturns
    rw [hcall] at hres
    exact .inl (Option.some.inj hres)
  | cons p es ih =>
    obtain ⟨w, e⟩ := p
    have hlater : ∀ {t' : Thread}, (c.apply w e).threads[id]? = some t' → result? t'.call = some r →
        result = r ∨ ∃ w', (w', .dropTasks) ∈ (w, e) :: es := fun ht' hres' =>
      (ih ht' hres' hreturns.2).imp_right fun ⟨w', hmem⟩ => ⟨w', List.mem_cons_of_mem _ hmem⟩
    cases e with
    | call operation inside =>
      obtain ⟨hlt, -⟩ := List.getElem?_eq_some_iff.1 ht
      exact hlater ((List.getElem?_append_left hlt).trans ht) hres
    | advance j =>
      by_cases hj : j = id
      · subst hj
        refine hlater (getElem?_advance ht) ?_
        obtain ⟨call, inside⟩ := t
        cases call with
        | request data point => cases point <;> first | exact hres | cases hres
        | returned outcome => exact hres
        | _ => cases hres
      · exact hlater ((getElem?_advance_of_ne hj).trans ht) hres
    | dropTasks => exact .inr ⟨w, List.mem_cons_self⟩
    | _ => exact hlater ht hres

/-! The next request. -/

/-- A request is made and takes its first four steps: it is checked, submitted, begun and written. -/
def ask (c : Conversation) (data : Bytes) : Conversation :=
  Nat.repeat (·.advance {} c.threads.length) 4 (c.apply {} (.call (.request data) false))

theorem Ready.ask (h : c.Ready conn k) (hreach : Reachable c) (hrun : c.running = true) (hfree : c.holder = none)
    (hdata : data ≠ []) (hfits : 4 + data.length ≤ k.settings.codec.limit.toNat) {s : Stream}
    (hs : k.stream = some s) (hwhole : s.broken = false) :
    (c.ask data).connections[conn]?.map Connection.written = some (k.written ++ requestOn k data) ∧
      (c.ask data).outcome? c.threads.length = none := by
  have hwaits : c.timer.waits = [] := by
    refine List.eq_nil_iff_forall_not_mem.2 fun wait hwait => ?_
    cases hfree.symm.trans (hreach.waiter hwait)
  have hentered : Engaged c (c.apply {} (.call (.request data) false)) conn k none [] (.request data .entered) :=
    ⟨⟨⟨rfl, rfl, hrun, rfl, hreach.fitting.placed.free hfree, hwaits, h.connection, fun _ _ => rfl⟩, h.slot, hfree⟩,
      rfl⟩
  have hrec : s.receiving = true := by
    obtain ⟨s', hs', hrec⟩ := h.usable.receiving
    cases hs.symm.trans hs'
    exact hrec
  have hdrop : k.discardPending.1.stream = some { s with queue := [] } := by
    simp [Connection.discardPending, hs]
  have hframed := ((hentered.enter hdata {}).submit rfl).frame h.usable.activated hfits {}
  have hwritten := Engaged.write rfl hframed hdrop hwhole rfl hrec rfl
  refine ⟨?_, ?_⟩
  · refine (congrArg (Option.map Connection.written) hwritten.holds.connection).trans ?_
    simp [Connection.written, hs]
  · unfold outcome?
    rw [show (c.ask data).threads = _ from hwritten.threads, List.getElem?_concat_length]

/-- The connection in the slot is activated, and the next request that fits is written, as long as the conversation
runs and the slot is free. -/
def Accepts (conn limit : Nat) (c : Conversation) : Prop :=
  ∃ k, c.slot = some conn ∧ c.connections[conn]? = some k ∧ k.state = .activated ∧
    (c.running = true → c.holder = none → ∀ data s, data ≠ [] → 4 + data.length ≤ limit → k.stream = some s →
      s.broken = false → (c.ask data).connections[conn]?.map Connection.written = some (k.written ++ requestOn k data) ∧
        (c.ask data).outcome? c.threads.length = none)

/-- A request on an activated connection faults it exactly when it is lost, whatever the peer and other calls do. If
the result is that the connection was lost, it is not activated afterwards, nor does the conversation show it so. If
up to the return the connection has come to no harm, the result says nothing against it, it is still activated, and
the next request is written. A request is found too large exactly when it is, before anything is written and before
any wait begins; while the conversation runs it returns so at once, and otherwise once the connection is let go,
unless the worker ends before that. -/
theorem faults_on_loss (hreach : Reachable c) (ht : c.threads[id]? = some ⟨.request data .queued, inside⟩)
    (hfree : c.holder = none) (hslot : c.slot = some conn) (hk : c.connections[conn]? = some k)
    (hstate : k.state = .activated) (hreturns : (c.advance w id).Returns id result es) :
    let limit := k.settings.codec.limit.toNat
    let tooLarge := .error (.payloadTooLarge (4 + data.length) limit)
    let begun := c.advance w id
    let now := begun.play es
    (result = .error .connectionLost →
      now.state ≠ .activated ∧ ∃ k', now.connections[conn]? = some k' ∧ k'.state ≠ .activated) ∧
    (k.Usable → c.Unharmed conn ((w, .advance id) :: es) →
      Harmless result ∧ now.running = true ∧ (now.link ≠ none → now.state = .activated) ∧
        ∀ later, now.Unharmed conn later → (now.play later).Accepts conn limit) ∧
    (limit < 4 + data.length →
      (c.running = true → result = tooLarge ∧ es = []) ∧ (result = tooLarge ∨ ∃ w, (w, .dropTasks) ∈ es) ∧
        begun.connections.map Connection.written = c.connections.map Connection.written ∧ begun.timer = c.timer) ∧
    ∀ n m, result = .error (.payloadTooLarge n m) → n = 4 + data.length ∧ m = limit ∧ limit < 4 + data.length := by
  intro limit tooLarge begun now
  have hbegun : Reachable begun := hreach.apply w (.advance id)
  have hnow : Reachable now := hbegun.play es
  obtain ⟨hunderway, hout⟩ := (underway_of_queued ht hfree hslot hk hstate w).play hbegun hreturns
  obtain ⟨t, ht', hcall⟩ := call_of_outcome? hout
  cases hunderway with
  | under ht'' => cases ht''.symm.trans ht'; cases hcall
  | closing ht'' => cases ht''.symm.trans ht'; cases hcall
  | @returned inside' result' k' ht'' hk' hsized hlost hharmless =>
    cases ht''.symm.trans ht'
    cases hcall
    refine ⟨fun hloss => ?_, fun husable hsafe => ?_, fun hlarge => ?_, hsized⟩
    · obtain ⟨hnot, hreaches⟩ := hlost hloss
      refine ⟨?_, k', hk', hnot⟩
      rcases state_of_reaches hreaches hk' with ⟨-, hnone⟩ | hsame
      · rw [show now.state = _ from hnone]
        nofun
      · rwa [show now.state = _ from hsame]
    · obtain ⟨hgood, hslot', husable', hrun⟩ := hharmless ⟨⟨husable, hsafe.1⟩, hsafe.2⟩
      refine ⟨hgood, hrun, fun hlink => ?_, fun later hlater => ?_⟩
      · rcases state_of_reaches (hnow.fitting.aligned.slot conn hslot') hk' with ⟨hnone, -⟩ | hsame
        · exact absurd hnone hlink
        · exact hsame.trans husable'.activated
      · obtain ⟨k₁, hk₁, -, hset⟩ := play_addresses ((w, .advance id) :: es ++ later) hk
        have hlater' : ((c.play ((w, .advance id) :: es ++ later))) = now.play later := List.foldl_append
        rw [hlater'] at hk₁
        obtain ⟨k'', h''⟩ := Ready.play ⟨hslot', hk', husable'⟩ hnow hlater
        cases hk₁.symm.trans h''.connection
        refine ⟨k₁, h''.slot, h''.connection, h''.usable.activated, ?_⟩
        intro hrun' hfree' data' s hdata hfits hs hwhole
        exact h''.ask (hnow.play later) hrun' hfree' hdata (by rw [hset]; exact hfits) hs hwhole
    · obtain ⟨⟨t, htnow, hres⟩, hreturned, hwritten, htimer⟩ :=
        tooLarge_of_queued ht hfree hslot hk hstate hlarge w
      refine ⟨fun hrun => ?_, returns_result htnow hres hreturns, hwritten, htimer⟩
      cases es with
      | nil =>
        cases (hreturned hrun).symm.trans hreturns
        exact ⟨rfl, rfl⟩
      | cons p es => cases (hreturned hrun).symm.trans hreturns.1

def overdue : List (Worker × Event) := [({}, .advance 1), ({}, .elapse 2000), ({}, .advance 1)]

/-- The stream ends in the place of an acknowledgement. -/
def cutOff : List (Worker × Event) := [({}, .advance 1), ({}, .arrive 0 .endOfStream), ({}, .advance 1)]

theorem not_harm_of (hopen : (c.apply w e).connections[conn]?.any (·.closed) = false) (hends : e ≠ .dropTasks)
    (harrives : ∀ a, e ≠ .arrive conn a)
    (hwrites : ∀ k, c.connections[conn]? = some k → ∀ frame, k.write? frame ≠ none) : ¬ Harm conn w c e := by
  intro h
  cases h with
  | lost hk hs hlost => exact harrives _ rfl
  | unwritten ht hk hnone => exact hwrites _ hk _ hnone
  | closed hclosed =>
    obtain ⟨k, hk, hclosed⟩ := hclosed
    rw [hk, Option.any_some, hclosed] at hopen
    cases hopen
  | ended => exact hends rfl

/-- A request that has to wait too long for its acknowledgement leaves the connection activated, and the next one is
written. One that finds the stream at its end leaves it faulted. -/
theorem timeout_spares_connection :
    let begun := requesting.advance {} 1
    let late := begun.play overdue
    let cut := begun.play cutOff
    begun.Returns 1 (.error .ackTimeout) overdue ∧ begun.Returns 1 (.error .connectionLost) cutOff ∧
      late.state = .activated ∧ cut.state ≠ .activated ∧
      ∃ k, late.connections[0]? = some k ∧
        (late.ask [0x22, 0xF1, 0x90]).connections[0]?.map Connection.written =
          some (k.written ++ requestOn k [0x22, 0xF1, 0x90]) := by
  intro begun late cut
  have hreach : Reachable requesting := ((Reachable.fresh _ _ _ _).applyAll {} _).applyAll {} _
  have ht : requesting.threads[1]? = some ⟨.request [0x3E, 0x00] .queued, false⟩ := by
    rw [requesting_eq]
    rfl
  have hk : requesting.connections[0]? = some { asking with state := .activated } := by
    rw [requesting_eq]
    rfl
  have hslot : requesting.slot = some 0 ∧ requesting.holder = none := by
    rw [requesting_eq]
    exact ⟨rfl, rfl⟩
  have hlate : begun.Returns 1 (.error .ackTimeout) overdue := by
    simp only [begun]
    rw [requesting_eq]
    exact ⟨rfl, rfl, rfl, rfl⟩
  have hcut : begun.Returns 1 (.error .connectionLost) cutOff := by
    simp only [begun]
    rw [requesting_eq]
    exact ⟨rfl, rfl, rfl, rfl⟩
  have hsafe : requesting.Unharmed 0 (({}, .advance 1) :: overdue) := by
    rw [requesting_eq]
    refine ⟨not_harm_of rfl nofun nofun ?_, not_harm_of rfl nofun nofun ?_, not_harm_of rfl nofun nofun ?_,
      not_harm_of rfl nofun nofun ?_, trivial⟩ <;>
    · intro k hk frame
      cases hk
      nofun
  have hnow : late.link ≠ none ∧ late.holder = none ∧
      ∃ s, late.connections[0]?.bind (·.stream) = some s ∧ s.broken = false := by
    simp only [late, begun]
    rw [requesting_eq]
    exact ⟨nofun, rfl, _, rfl, rfl⟩
  obtain ⟨-, hspares, -⟩ := faults_on_loss hreach ht hslot.2 hslot.1 hk rfl hlate
  obtain ⟨hlost, -⟩ := faults_on_loss hreach ht hslot.2 hslot.1 hk rfl hcut
  obtain ⟨-, hrun, hlinked, haccepts⟩ := hspares ⟨rfl, rfl, _, rfl, rfl⟩ hsafe
  obtain ⟨k, -, hk', -, hwritten⟩ := haccepts [] trivial
  obtain ⟨hlink, hfree, s, hs, hwhole⟩ := hnow
  have hstream : k.stream = some s := (congrArg (Option.bind · Connection.stream) hk').symm.trans hs
  exact ⟨hlate, hcut, hlinked hlink, (hlost rfl).1, k, hk',
    (hwritten hrun hfree _ s (by decide) (by decide) hstream hwhole).1⟩

end Conversation
end Doip
