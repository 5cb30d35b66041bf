import Doip.Proofs.Conversation.Account
import Doip.Proofs.Conversation.Request

/-! No answer is stale and none is given twice, in any run of any calls on a conversation (`answers_fresh`). A
result that tells something about the server is drawn from the frames of one stretch, which begins behind all
frames that were queued when the request began. -/

namespace Doip.Conversation

variable {w : Worker} {e : Event} {conn id : Nat} {data : Bytes} {target : Address} {host : Option IpAddress}
variable {c : Conversation} {call : Call} {t : Thread} {r : Conversation × (Waiting ⊕ Settled)}

/-! Results that tell something come from requests that have begun. -/

/-- The connection on which a request has begun. -/
def engaged? : Call → Option Nat
  | .request _ (.writing conn _) => some conn
  | .request _ (.waiting conn _) => some conn
  | _ => none

/-- The result that a request has. -/
def result? : Call → Option (Except RequestError Response)
  | .request _ (.closing _ result) => some result
  | .returned (.request result) => some result
  | _ => none

/-- A call that has not begun an exchange, and has nothing to tell. -/
structure Silent (call : Call) : Prop where
  engaged : engaged? call = none
  result : ∀ result, result? call = some result → tells result = false

theorem Silent.of (hengaged : engaged? call = none) (hresult : result? call = none) : Silent call :=
  ⟨hengaged, fun result h => by rw [hresult] at h; cases h⟩

theorem Silent.failed {error : RequestError} (h : tells (.error error) = false) :
    Silent (.returned (.request (.error error))) :=
  ⟨rfl, fun result hresult => by cases hresult; exact h⟩

theorem afterConnectWait_silent (endpoint : Endpoint) (conn : Nat) :
    Silent (afterConnectWait target host endpoint conn r).2 := by
  unfold afterConnectWait
  split <;> exact .of rfl rfl

theorem stepConnect_silent (inside : Bool) (point : ConnectPoint) :
    Silent (stepConnect w id target host inside c point).2 := by
  cases point with
  | entered =>
    simp only [stepConnect]
    split <;> exact .of rfl rfl
  | checked =>
    simp only [stepConnect]
    split
    · exact .of rfl rfl
    · split <;> exact .of rfl rfl
  | submitting endpoint =>
    simp only [stepConnect]
    split <;> exact .of rfl rfl
  | queued endpoint =>
    simp only [stepConnect]
    split
    · exact .of rfl rfl
    · split
      · exact afterConnectWait_silent _ _
      · split <;> exact .of rfl rfl
  | replacing endpoint stale => exact afterConnectWait_silent _ _
  | waiting endpoint conn waiting => exact afterConnectWait_silent _ _
  | writing endpoint conn =>
    simp only [stepConnect]
    split
    · exact .of rfl rfl
    · split
      · exact .of rfl rfl
      · exact afterConnectWait_silent _ _
  | failing conn => exact .of rfl rfl
  | refused => exact .of rfl rfl

theorem closeSlot_silent (c : Conversation) : Silent c.closeSlot.2 := by
  unfold closeSlot
  split <;> exact .of rfl rfl

theorem stepDisconnect_silent (inside : Bool) (point : DisconnectPoint) :
    Silent (stepDisconnect w id inside c point).2 := by
  cases point with
  | entered =>
    simp only [stepDisconnect]
    split <;> exact .of rfl rfl
  | stopping => exact .of rfl rfl
  | submitting =>
    simp only [stepDisconnect]
    split <;> exact .of rfl rfl
  | queued =>
    simp only [stepDisconnect]
    split
    · exact closeSlot_silent c
    · split
      · exact .of rfl rfl
      · split
        · exact closeSlot_silent _
        · exact .of rfl rfl
  | closing conn => exact .of rfl rfl

theorem stepShutdown_silent (point : ShutdownPoint) : Silent (stepShutdown c point).2 := by
  cases point with
  | entered =>
    simp only [stepShutdown]
    split <;> exact .of rfl rfl
  | cancelling =>
    simp only [stepShutdown]
    split <;> exact .of rfl rfl
  | stopping => exact .of rfl rfl
  | releasing =>
    simp only [stepShutdown]
    split <;> exact .of rfl rfl

theorem settleRequest_result (data : Bytes) (c : Conversation) (result : Except RequestError Response) :
    result? (settleRequest data c result).2 = some result := by
  rcases settleRequest_call data c result with h | ⟨conn, h⟩ <;> rw [h] <;> rfl

theorem settleRequest_silent (c : Conversation) {result : Except RequestError Response} (h : tells result = false) :
    Silent (settleRequest data c result).2 := by
  refine ⟨?_, fun result' hresult => ?_⟩
  · rcases settleRequest_call data c result with hcall | ⟨conn, hcall⟩ <;> rw [hcall] <;> rfl
  · rw [settleRequest_result] at hresult
    cases hresult
    exact h

/-- A request that has begun on a connection stays there until it has its result. -/
def Stays (conn : Nat) (call : Call) : Prop := engaged? call = some conn ∨ (result? call).isSome = true

theorem settleRequest_stays (c : Conversation) (result : Except RequestError Response) :
    Stays conn (settleRequest data c result).2 := .inr (by rw [settleRequest_result]; rfl)

theorem afterResponseWait_stays (r : Conversation × (Waiting ⊕ Settled)) :
    Stays conn (afterResponseWait data conn r).2 := by
  unfold afterResponseWait
  split
  · exact .inl rfl
  · exact settleRequest_stays _ _
  · exact settleRequest_stays _ _
  · exact settleRequest_stays _ _

theorem startResponse_stays (c : Conversation) : Stays conn (startResponse w id data c conn).2 := by
  unfold startResponse
  split
  · exact settleRequest_stays _ _
  · split
    · exact settleRequest_stays _ _
    · exact settleRequest_stays _ _
    · exact afterResponseWait_stays _

theorem afterRequestWait_stays (r : Conversation × (Waiting ⊕ Settled)) :
    Stays conn (afterRequestWait w id data conn r).2 := by
  unfold afterRequestWait
  split
  · exact startResponse_stays _
  · exact settleRequest_stays _ _
  · exact settleRequest_stays _ _
  · exact settleRequest_stays _ _
  · exact afterResponseWait_stays _

theorem stepCall_stays (h : Stays conn call) (w : Worker) (id : Nat) (inside : Bool) (c : Conversation) :
    Stays conn (stepCall w id inside c call).2 := by
  rcases h with h | h
  · cases call with
    | request data point =>
      cases point with
      | writing conn' frame =>
        cases h
        simp only [stepCall, stepRequest]
        split
        · exact .inl rfl
        · split
          · exact settleRequest_stays _ _
          · exact afterRequestWait_stays _
      | waiting conn' waiting =>
        cases h
        exact afterRequestWait_stays _
      | _ => cases h
    | _ => cases h
  · cases call with
    | request data point =>
      cases point with
      | closing conn' result => exact .inr rfl
      | _ => cases h
    | returned outcome => exact .inr h
    | _ => cases h

theorem stepCall_silent (h : Silent call) (w : Worker) (id : Nat) (inside : Bool) (c : Conversation) :
    Silent (stepCall w id inside c call).2 ∨
      ∃ data conn frame, call = .request data .queued ∧
        (stepCall w id inside c call).2 = .request data (.writing conn frame) := by
  cases call with
  | connect target host point => exact .inl (stepConnect_silent inside point)
  | disconnect point => exact .inl (stepDisconnect_silent inside point)
  | shutdown point => exact .inl (stepShutdown_silent point)
  | startup => exact .inl (.of rfl rfl)
  | returned outcome => exact .inl h
  | request data point =>
    cases point with
    | entered =>
      simp only [stepCall, stepRequest]
      split
      · exact .inl (.failed rfl)
      · split
        · exact .inl (.of rfl rfl)
        · exact .inl (.failed rfl)
    | submitting =>
      simp only [stepCall, stepRequest]
      split
      · exact .inl (.of rfl rfl)
      · exact .inl (.failed rfl)
    | queued =>
      simp only [stepCall, stepRequest]
      cases hl : c.tryLock id with
      | none => exact .inl (.failed rfl)
      | some c₁ =>
        rcases startExchange_writes data c₁ with ⟨conn, k, frame, -, hstart⟩ | ⟨c', e, hstart, htells⟩
        · exact .inr ⟨data, conn, frame, rfl, by simp only [hstart]⟩
        · simp only [hstart]
          exact .inl (settleRequest_silent c' htells)
    | writing conn frame => cases h.engaged
    | waiting conn waiting => cases h.engaged
    | closing conn result => exact .inl ⟨rfl, fun result' h' => h.result result' h'⟩

theorem dropped_silent (h : Silent t.call) : Silent (dropped t).call := by
  obtain ⟨call, inside⟩ := t
  cases call with
  | connect target host point => cases point <;> exact .of rfl rfl
  | disconnect point => cases point <;> exact .of rfl rfl
  | request data point =>
    cases point with
    | entered => exact h
    | submitting => exact h
    | _ => exact .failed rfl
  | shutdown point => exact h
  | startup => exact h
  | returned outcome => exact h

theorem dropped_stays (h : Stays conn t.call) : Stays conn (dropped t).call := by
  obtain ⟨call, inside⟩ := t
  cases call with
  | request data point =>
    cases point with
    | entered => exact h
    | submitting => exact h
    | _ => exact .inr rfl
  | returned outcome => exact h
  | _ => rcases h with h | h <;> cases h

/-- Every call has nothing to tell, or its exchange is in the ledger of a connection. -/
def Credited (c : Conversation) (L : Nat → Ledger) : Prop :=
  ∀ id t, c.threads[id]? = some t →
    Silent t.call ∨ ∃ conn, id ∈ (L conn).begun.map (·.1) ∧ Stays conn t.call

variable {L : Nat → Ledger}

theorem mem_begun_note (w : Worker) (c : Conversation) (e : Event) {L : Ledger} (h : id ∈ L.begun.map (·.1)) :
    id ∈ (L.note conn w c e).begun.map (·.1) := by
  rw [Ledger.note, List.map_append]
  exact List.mem_append_left _ h

theorem Credited.same (h : c.Credited L) (w : Worker) (e : Event) (hthreads : (c.apply w e).threads = c.threads) :
    (c.apply w e).Credited fun conn => (L conn).note conn w c e := by
  intro id t ht
  rw [hthreads] at ht
  rcases h id t ht with hsilent | ⟨conn, hmem, hstays⟩
  · exact .inl hsilent
  · exact .inr ⟨conn, mem_begun_note w c e hmem, hstays⟩

theorem Credited.apply (h : c.Credited L) (w : Worker) (e : Event) :
    (c.apply w e).Credited fun conn => (L conn).note conn w c e := by
  cases e with
  | call operation inside =>
    intro id t ht
    rcases Nat.lt_trichotomy id c.threads.length with hlt | heq | hgt
    · rcases h id t ((List.getElem?_append_left hlt).symm.trans ht) with hsilent | ⟨conn, hmem, hstays⟩
      · exact .inl hsilent
      · exact .inr ⟨conn, mem_begun_note w c _ hmem, hstays⟩
    · subst heq
      have hnew : some ⟨.of operation, inside⟩ = some t := List.getElem?_concat_length.symm.trans ht
      cases hnew
      exact .inl (by cases operation <;> exact .of rfl rfl)
    · have hout : (c.threads ++ [⟨Call.of operation, inside⟩])[id]? = none :=
        List.getElem?_eq_none (by rw [List.length_append]; exact hgt)
      cases hout.symm.trans ht
  | advance j =>
    intro id t ht
    have ht : (c.advance w j).threads[id]? = some t := ht
    by_cases hj : j = id
    · subst hj
      cases hold : c.threads[j]? with
      | none =>
        simp only [advance, hold] at ht
        cases ht
      | some t₀ =>
        have hstep := (getElem?_advance (w := w) hold).symm.trans ht
        cases hstep
        rcases h j t₀ hold with hsilent | ⟨conn, hmem, hstays⟩
        · rcases stepCall_silent hsilent w j t₀.inside c with hstill | ⟨data, conn, frame, hqueued, hwriting⟩
          · exact .inl hstill
          · refine .inr ⟨conn, ?_, ?_⟩
            · have hbegins : c.begins w conn j = true := by
                obtain ⟨call, inside⟩ := t₀
                cases hqueued
                rw [hwriting] at ht
                simp [begins, hold, ht]
              simp [Ledger.note, beginner, hbegins]
            · rw [hwriting]
              exact .inl rfl
        · exact .inr ⟨conn, mem_begun_note w c _ hmem, stepCall_stays hstays w j t₀.inside c⟩
    · rw [getElem?_advance_of_ne hj] at ht
      rcases h id t ht with hsilent | ⟨conn, hmem, hstays⟩
      · exact .inl hsilent
      · exact .inr ⟨conn, mem_begun_note w c _ hmem, hstays⟩
  | dropTasks =>
    intro id t ht
    obtain ⟨t₀, hold, rfl⟩ := Option.map_eq_some_iff.1 ((dropTasks_threads c id).symm.trans ht)
    rcases h id t₀ hold with hsilent | ⟨conn, hmem, hstays⟩
    · exact .inl (dropped_silent hsilent)
    · exact .inr ⟨conn, mem_begun_note w c _ hmem, dropped_stays hstays⟩
  | _ => exact h.same w _ rfl

theorem Credited.fresh (settings : ConversationSettings) (version : UInt8) (servers : List ServerMapping)
    (running : Bool) (L : Nat → Ledger) : Credited { settings, version, servers, running } L := by
  intro id t ht
  cases ht

theorem Credited.play (h : c.Credited L) (es : List (Worker × Event)) :
    (c.play es).Credited fun conn => (L conn).after conn c es := by
  induction es generalizing c L with
  | nil => exact h
  | cons p es ih => exact ih (h.apply p.1 p.2)

/-! The books of all connections. -/

/-- Which frames each request has looked at. -/
structure Books (c : Conversation) (L : Nat → Ledger) (spans : Nat → List Span) : Prop where
  /-- Every request that has begun has a stretch, behind all frames that were queued when it began. -/
  begun : ∀ conn, (spans conn).map (fun s => (s.request, s.first)) = (L conn).begun
  /-- No frame belongs to two stretches. -/
  disjoint : ∀ conn, (spans conn).Pairwise fun s s' => s.stop ≤ s'.first
  bounded : ∀ conn, ∀ s ∈ spans conn, s.first ≤ s.stop ∧ s.stop ≤ (L conn).queued.length
  /-- The frames of its stretch explain what a request has come to. -/
  explained : ∀ conn, ∀ s ∈ spans conn, ∀ result, c.outcome? s.request = some (.request result) →
    ∃ k, c.connections[conn]? = some k ∧
      Explains (signsIn k.server k.settings.client ((L conn).frames s)) result
  /-- A result that tells something about the server comes from a request that has begun. -/
  credited : ∀ id result, c.outcome? id = some (.request result) → tells result = true →
    ∃ conn, ∃ s ∈ spans conn, s.request = id

variable {spans : Nat → List Span} {L₁ : Ledger} {s s' : Span} {past : List Span} {now : Option Span}
variable {result : Except RequestError Response} {response : Response} {i : Nat} {m : Message}

theorem call_of_outcome? {outcome : Outcome} (h : c.outcome? id = some outcome) :
    ∃ t, c.threads[id]? = some t ∧ t.call = .returned outcome := by
  unfold outcome? at h
  split at h
  · rename_i ht
    cases h
    exact ⟨_, ht, rfl⟩
  · cases h

theorem Closed.explains (h : Closed conn c L₁ s) (hout : c.outcome? s.request = some (.request result)) :
    ∃ k, c.connections[conn]? = some k ∧ Explains (signsIn k.server k.settings.client (L₁.frames s)) result := by
  obtain ⟨k, t, hk, ht, hended⟩ := h
  obtain ⟨t', ht', hcall⟩ := call_of_outcome? hout
  rw [ht] at ht'
  cases ht'
  rw [hcall] at hended
  cases hended with
  | returned h => exact ⟨k, hk, h⟩

theorem Account.explains (h : Account conn c L₁ past now) (hs : s ∈ past ++ now.toList)
    (hout : c.outcome? s.request = some (.request result)) :
    ∃ k, c.connections[conn]? = some k ∧ Explains (signsIn k.server k.settings.client (L₁.frames s)) result := by
  rcases List.mem_append.1 hs with hpast | hnow
  · exact (h.past s hpast).explains hout
  · obtain ⟨k, t, -, ht, -, hprogress⟩ := h.now s (Option.mem_toList.1 hnow)
    obtain ⟨t', ht', hcall⟩ := call_of_outcome? hout
    rw [ht] at ht'
    cases ht'
    rw [hcall] at hprogress
    cases hprogress

theorem exists_books (hcredited : c.Credited L)
    (haccount : ∀ conn, ∃ past now, Account conn c (L conn) past now) : ∃ spans, Books c L spans := by
  choose past now hacc using haccount
  refine ⟨fun conn => past conn ++ (now conn).toList, fun conn => (hacc conn).sorted.begun,
    fun conn => (hacc conn).sorted.ordered,
    fun conn s hs => ⟨((hacc conn).sorted.proper s hs).1, (hacc conn).stop_le hs⟩,
    fun conn s hs result hout => (hacc conn).explains hs hout, fun id result hout htells => ?_⟩
  obtain ⟨t, ht, hcall⟩ := call_of_outcome? hout
  rcases hcredited id t ht with hsilent | ⟨conn, hmem, -⟩
  · rw [hcall] at hsilent
    have hquiet := hsilent.result result rfl
    rw [htells] at hquiet
    cases hquiet
  · rw [← (hacc conn).sorted.begun, List.map_map] at hmem
    obtain ⟨s, hs, hid⟩ := List.mem_map.1 hmem
    exact ⟨conn, s, hs, hid⟩

/-! Where the answers come from. -/

/-- A frame of a connection, by its number, is in the stretch of a request. -/
def InSpan (spans : Nat → List Span) (id : Nat) (p : Nat × Nat) : Prop :=
  ∃ s ∈ spans p.1, s.request = id ∧ s.first ≤ p.2 ∧ p.2 < s.stop

/-- A frame of a connection, by its number, answers with some data. -/
def Answers (c : Conversation) (L : Nat → Ledger) (p : Nat × Nat) (data : Bytes) : Prop :=
  ∃ m k, (L p.1).queued[p.2]? = some m ∧ c.connections[p.1]? = some k ∧
    m.sign? k.server k.settings.client = some (.answer data)

theorem getElem?_of_mem_frames (h : m ∈ L₁.frames s) : ∃ i, s.first ≤ i ∧ i < s.stop ∧ L₁.queued[i]? = some m := by
  obtain ⟨j, hj⟩ := List.mem_iff_getElem?.1 h
  rw [Ledger.frames, List.getElem?_drop, List.getElem?_take] at hj
  split at hj
  · exact ⟨s.first + j, Nat.le_add_right _ _, by assumption, hj⟩
  · cases hj

theorem mem_of_findSome?_data {server client : Address} {ms : List Message}
    (h : (signsIn server client ms).findSome? Sign.data? = some data) :
    ∃ m ∈ ms, m.sign? server client = some (.answer data) := by
  obtain ⟨sign, hmem, hsign⟩ := List.exists_of_findSome?_eq_some h
  obtain ⟨m, hm, hms⟩ := List.mem_filterMap.1 hmem
  cases sign with
  | acknowledgement outcome => cases hsign
  | answer d =>
    cases hsign
    exact ⟨m, hm, hms⟩

theorem Books.exists_source (h : Books c L spans) (hout : c.outcome? id = some (.request (.ok response))) :
    ∃ p, InSpan spans id p ∧ Answers c L p response.data := by
  obtain ⟨conn, s, hs, hid⟩ := h.credited id (.ok response) hout rfl
  obtain ⟨k, hk, -, hdata⟩ := h.explained conn s hs (.ok response) (by rw [hid]; exact hout)
  obtain ⟨m, hm, hsign⟩ := mem_of_findSome?_data hdata
  obtain ⟨i, hfirst, hstop, hi⟩ := getElem?_of_mem_frames hm
  exact ⟨(conn, i), ⟨s, hs, hid, hfirst, hstop⟩, m, k, hi, hk, hsign⟩

theorem Books.span_unique (h : Books c L spans) (hs : s ∈ spans conn) (hs' : s' ∈ spans conn)
    (hi : s.first ≤ i ∧ i < s.stop) (hi' : s'.first ≤ i ∧ i < s'.stop) : s = s' := by
  obtain ⟨a, ha, rfl⟩ := List.mem_iff_getElem.1 hs
  obtain ⟨b, hb, rfl⟩ := List.mem_iff_getElem.1 hs'
  have hpair := List.pairwise_iff_getElem.1 (h.disjoint conn)
  rcases Nat.lt_trichotomy a b with hlt | heq | hgt
  · have := hpair a b ha hb hlt
    omega
  · subst heq
    rfl
  · have := hpair b a hb ha hgt
    omega

theorem Books.source_unique (h : Books c L spans) {id' : Nat} {p : Nat × Nat} (hid : InSpan spans id p)
    (hid' : InSpan spans id' p) : id = id' := by
  obtain ⟨s, hs, rfl, hi⟩ := hid
  obtain ⟨s', hs', rfl, hi'⟩ := hid'
  rw [h.span_unique hs hs' hi hi']

/-! What was left behind. -/

/-- The conversation with something else left behind on a connection: frames in the queue and answers set aside. -/
def leave (c : Conversation) (conn : Nat) (queue : List Message) (early : List Bytes) : Conversation :=
  c.modifyConnection conn fun k => { k with early, stream := k.stream.map fun s => { s with queue } }

theorem leave_advance {k : Connection} {inside : Bool} (ht : c.threads[id]? = some ⟨.request data .queued, inside⟩)
    (hfree : c.holder = none) (hslot : c.slot = some conn) (hk : c.connections[conn]? = some k)
    (hst : k.state = .activated) (w : Worker) (queue : List Message) (early : List Bytes) :
    (c.leave conn queue early).advance w id = c.advance w id := by
  let k' : Connection := { k with early, stream := k.stream.map fun s => { s with queue } }
  have hdiscard : k'.discardPending.1 = k.discardPending.1 := by
    cases hs : k.stream <;> simp [k', Connection.discardPending, hs]
  let held : Conversation := { c with holder := some id }
  let left : Conversation := { c.leave conn queue early with holder := some id }
  have hput : (left.modifyConnection conn fun _ => k.discardPending.1) =
      held.modifyConnection conn fun _ => k.discardPending.1 := by
    simp only [left, held, leave, modifyConnection, List.modify_modify_eq]
    rfl
  have hheld : startExchange data held = _ := startExchange_eq hslot (by exact hk) hst
  have hleft : startExchange data left = _ :=
    startExchange_eq hslot (getElem?_modifyConnection hk _) (k := k') hst
  have hsame : startExchange data left = startExchange data held := by
    rw [hheld, hleft, hdiscard, hput]
  have hlock : c.tryLock id = some held := if_pos (by rw [hfree]; rfl)
  have hlock' : (c.leave conn queue early).tryLock id = some left :=
    if_pos (by rw [leave, modifyConnection, hfree]; rfl)
  have ht' : (c.leave conn queue early).threads[id]? = some ⟨.request data .queued, inside⟩ := ht
  rw [advance_eq ht, advance_eq ht']
  simp only [stepCall, stepRequest, hlock, hlock', hsame]
  rfl

/-- Whatever happens on a conversation, every request looks at frames of its own, all queued after it began, and
these explain its result; so each answer is returned once at most. What a request finds in the queue and set aside
when it begins makes no difference to anything that comes after. -/
theorem answers_fresh (settings : ConversationSettings) (version : UInt8) (servers : List ServerMapping)
    (running : Bool) (es : List (Worker × Event)) :
    let start : Conversation := { settings, version, servers, running }
    let c := start.play es
    let L := fun conn => ({} : Ledger).after conn start es
    (∃ spans, Books c L spans ∧
      ∃ source : Nat → Nat × Nat,
        (∀ id response, c.outcome? id = some (.request (.ok response)) →
          InSpan spans id (source id) ∧ Answers c L (source id) response.data) ∧
        ∀ id id' response response', c.outcome? id = some (.request (.ok response)) →
          c.outcome? id' = some (.request (.ok response')) → source id = source id' → id = id') ∧
    ∀ id data inside conn k, c.threads[id]? = some ⟨.request data .queued, inside⟩ → c.holder = none →
      c.slot = some conn → c.connections[conn]? = some k → k.state = .activated →
      ∀ w queue early later, ((c.leave conn queue early).advance w id).play later = (c.advance w id).play later := by
  intro start c L
  refine ⟨?_, fun id data inside conn k ht hfree hslot hk hst w queue early later => ?_⟩
  · have hfresh : Reachable start := .fresh settings version servers running
    obtain ⟨spans, hbooks⟩ := exists_books ((Credited.fresh settings version servers running _).play es)
      fun conn => (Account.fresh conn settings version servers running).play hfresh es
    have hsource : ∀ id, ∃ p, ∀ response, c.outcome? id = some (.request (.ok response)) →
        InSpan spans id p ∧ Answers c L p response.data := by
      intro id
      by_cases hok : ∃ response, c.outcome? id = some (.request (.ok response))
      · obtain ⟨response, hout⟩ := hok
        obtain ⟨p, hspan, hanswers⟩ := hbooks.exists_source hout
        refine ⟨p, fun response' hout' => ?_⟩
        rw [hout] at hout'
        cases hout'
        exact ⟨hspan, hanswers⟩
      · exact ⟨(0, 0), fun response hout => absurd ⟨response, hout⟩ hok⟩
    choose source hsource using hsource
    refine ⟨spans, hbooks, source, hsource, fun id id' response response' hout hout' heq => ?_⟩
    have hspan := (hsource id response hout).1
    rw [heq] at hspan
    exact hbooks.source_unique hspan (hsource id' response' hout').1
  · rw [leave_advance ht hfree hslot hk hst]

theorem play_map (w : Worker) (c : Conversation) (es : List Event) :
    c.play (es.map (w, ·)) = es.foldl (apply w) c := by
  rw [play, List.foldl_map]

/-- What leads up to a request: a connect, the server's welcome, and the call. -/
def opening : List Event :=
  [.call (.connect 0x1000 (some .localhost)) false, .advance 0, .advance 0, .advance 0, .advance 0,
    .dialled 0 .established, .advance 0, .advance 0, .arrive 0 (.bytes welcome.toBytes), .advance 0,
    .call (.request [0x3E, 0x00]) false, .advance 1, .advance 1]

theorem requesting_eq_play :
    requesting = play
      { settings := { name := "tester", source := 0x0E00 }, version := 2, servers := [], running := true }
      (opening.map (({} : Worker), ·)) := by
  rw [play_map]
  rfl

/-- A late answer in the queue, and another one set aside, are gone when the request begins. -/
theorem late_answers_dropped :
    requesting.holder = none ∧
      ((requesting.leave 0 [acknowledged, answered] [[0x7E, 0x01]]).advance {} 1).play [({}, .advance 1)] =
        (requesting.advance {} 1).play [({}, .advance 1)] := by
  have ht : requesting.threads[1]? = some ⟨.request [0x3E, 0x00] .queued, false⟩ := by
    rw [requesting_eq]
    rfl
  have hk : requesting.connections[0]? = some { asking with state := .activated } := by
    rw [requesting_eq]
    rfl
  have hslot : requesting.slot = some 0 ∧ requesting.holder = none := by
    rw [requesting_eq]
    exact ⟨rfl, rfl⟩
  obtain ⟨-, hfresh⟩ := answers_fresh { name := "tester", source := 0x0E00 } 2 [] true
    (opening.map (({} : Worker), ·))
  rw [← requesting_eq_play] at hfresh
  exact ⟨hslot.2, hfresh 1 _ _ 0 _ ht hslot.2 hslot.1 hk rfl {} _ _ _⟩

end Doip.Conversation
