import Doip.Proofs.Conversation.Usage

/-! The account of a connection over whole runs. An observer numbers the frames in the order in which the
receiver queues them, and notes for every request that begins how many there were (`Ledger`). Each request looks
at one stretch of the frames queued since it began, the stretches of two requests have no frame in common, and
the frames of a stretch explain the result (`Account`). -/

namespace Doip

/-- What is noted about a connection. -/
structure Ledger where
  /-- Every frame that was put into the queue, oldest first. -/
  queued : List Message := []
  /-- Every request that has begun, and how many frames had been queued by then. -/
  begun : List (Nat × Nat) := []

/-- The stretch of frames that a request has looked at, from the first up to the one where it stops. -/
structure Span where
  request : Nat
  first : Nat
  stop : Nat

def Ledger.frames (L : Ledger) (s : Span) : List Message := (L.queued.take s.stop).drop s.first

namespace Conversation

/-- Whether the next step of a call begins an exchange on the connection. -/
def begins (c : Conversation) (w : Worker) (conn id : Nat) : Bool :=
  match c.threads[id]?, (c.advance w id).threads[id]? with
  | some ⟨.request _ .queued, _⟩, some ⟨.request _ (.writing conn' _), _⟩ => conn' = conn
  | _, _ => false

/-- The request that an event lets begin on the connection. -/
def beginner (c : Conversation) (w : Worker) (conn : Nat) : Event → Option Nat
  | .advance id => if c.begins w conn id then some id else none
  | _ => none

/-- A run: what happens, each with the worker at that time. -/
def play (c : Conversation) (es : List (Worker × Event)) : Conversation :=
  es.foldl (fun c p => c.apply p.1 p.2) c

end Conversation

/-- Notes an event. -/
def Ledger.note (conn : Nat) (w : Worker) (c : Conversation) (e : Conversation.Event) (L : Ledger) : Ledger where
  queued := L.queued ++ ((c.apply w e).pending conn).drop (c.pending conn).length
  begun := L.begun ++ ((c.beginner w conn e).map (·, L.queued.length)).toList

/-- The ledger of a connection after a run. -/
def Ledger.after (conn : Nat) (L : Ledger) (c : Conversation) : List (Worker × Conversation.Event) → Ledger
  | [] => L
  | (w, e) :: es => (L.note conn w c e).after conn (c.apply w e) es

namespace Conversation

open Connection (OutsideStep)

variable {w : Worker} {e : Event} {conn id : Nat} {data : Bytes} {c c' : Conversation} {k : Connection} {t : Thread}
variable {L L' : Ledger} {s : Span} {past spans : List Span} {now : Option Span} {count : Nat}

/-! Stretches in order. -/

/-- The stretches of the requests that have begun, in order; none reaches beyond the frames taken so far. -/
structure Sorted (L : Ledger) (count : Nat) (spans : List Span) : Prop where
  begun : spans.map (fun s => (s.request, s.first)) = L.begun
  ordered : spans.Pairwise fun s s' => s.stop ≤ s'.first
  proper : ∀ s ∈ spans, s.first ≤ s.stop ∧ s.stop ≤ count

theorem Sorted.mono (h : Sorted L count spans) {count' : Nat} (hle : count ≤ count') (hbegun : L'.begun = L.begun) :
    Sorted L' count' spans :=
  ⟨h.begun.trans hbegun.symm, h.ordered, fun s hs => ⟨(h.proper s hs).1, Nat.le_trans (h.proper s hs).2 hle⟩⟩

theorem Sorted.grow (h : Sorted L count (past ++ [s])) (more : Nat) (hbegun : L'.begun = L.begun) {count' : Nat}
    (hle : count ≤ count') (hmore : s.stop + more ≤ count') :
    Sorted L' count' (past ++ [{ s with stop := s.stop + more }]) := by
  obtain ⟨hfirst, -⟩ := h.proper s (by simp)
  refine ⟨?_, ?_, fun s' hs' => ?_⟩
  · rw [hbegun, ← h.begun]
    simp
  · have hpair := List.pairwise_append.1 h.ordered
    refine List.pairwise_append.2 ⟨hpair.1, List.pairwise_singleton _ _, fun a ha b hb => ?_⟩
    rw [List.mem_singleton.1 hb]
    exact hpair.2.2 a ha s (List.mem_singleton_self s)
  · rcases List.mem_append.1 hs' with hold | hnew
    · have hproper := h.proper s' (List.mem_append_left _ hold)
      exact ⟨hproper.1, Nat.le_trans hproper.2 hle⟩
    · rw [List.mem_singleton.1 hnew]
      exact ⟨by simp only; omega, hmore⟩

theorem Sorted.begin (h : Sorted L count spans) {n : Nat} (hle : count ≤ n)
    (hbegun : L'.begun = L.begun ++ [(id, n)]) : Sorted L' n (spans ++ [⟨id, n, n⟩]) := by
  refine ⟨?_, ?_, fun s hs => ?_⟩
  · rw [hbegun, ← h.begun]
    simp
  · refine List.pairwise_append.2 ⟨h.ordered, List.pairwise_singleton _ _, fun a ha b hb => ?_⟩
    rw [List.mem_singleton.1 hb]
    exact Nat.le_trans (h.proper a ha).2 hle
  · rcases List.mem_append.1 hs with hold | hnew
    · have hproper := h.proper s hold
      exact ⟨hproper.1, Nat.le_trans hproper.2 hle⟩
    · rw [List.mem_singleton.1 hnew]
      exact ⟨Nat.le_refl _, Nat.le_refl _⟩

/-! What an event does to a connection, its queue and its ledger. -/

theorem advance_drains (c : Conversation) (w : Worker) (id : Nat) : Drains c (c.advance w id) := by
  unfold advance
  split
  · exact .refl c
  · exact (stepCall_moves w id _ c _).drains.trans (.same rfl)

theorem apply_addresses (w : Worker) (e : Event) (hk : c.connections[conn]? = some k) :
    ∃ k', (c.apply w e).connections[conn]? = some k' ∧ k'.server = k.server ∧ k'.settings = k.settings := by
  cases he : e.isOutside with
  | true =>
    obtain ⟨k', hk', happ⟩ := apply_appends he w hk
    exact ⟨k', hk', happ.server, happ.settings⟩
  | false =>
    have hdrains : Drains c (c.apply w e) := by
      cases e with
      | advance id => exact advance_drains c w id
      | dropTasks => exact dropTasks_drains c
      | _ => cases he
    obtain ⟨k', hk', hcont⟩ := hdrains.goes conn k hk
    exact ⟨k', hk', hcont.server, hcont.settings⟩

theorem apply_pending (c : Conversation) (w : Worker) (e : Event) (conn : Nat) :
    c.pending conn <+: (c.apply w e).pending conn ∨ (c.apply w e).pending conn <:+ c.pending conn := by
  cases he : e.isOutside with
  | true =>
    refine .inl ?_
    cases hk : c.connections[conn]? with
    | none =>
      rw [pending, hk]
      exact List.nil_prefix
    | some k =>
      obtain ⟨k', hk', happ⟩ := apply_appends he w hk
      rw [pending_eq hk, pending_eq hk']
      exact happ.pending
  | false =>
    refine .inr ?_
    cases e with
    | advance id => exact (advance_drains c w id).pending conn
    | dropTasks => exact (dropTasks_drains c).pending conn
    | _ => cases he

theorem note_pending (h : c.pending conn <:+ L.queued) (w : Worker) (e : Event) :
    (c.apply w e).pending conn <:+ (L.note conn w c e).queued := by
  rcases c.apply_pending w e conn with hpre | hsuf
  · obtain ⟨more, hmore⟩ := hpre
    obtain ⟨front, hfront⟩ := h
    refine ⟨front, ?_⟩
    simp only [Ledger.note, ← hmore, ← hfront, List.drop_left, List.append_assoc]
  · refine (hsuf.trans h).trans ?_
    have hnone : ((c.apply w e).pending conn).drop (c.pending conn).length = [] :=
      List.drop_eq_nil_of_le hsuf.length_le
    simp only [Ledger.note, hnone, List.append_nil]
    exact List.suffix_refl _

theorem note_queued_length (w : Worker) (c : Conversation) (e : Event) (L : Ledger) :
    (L.note conn w c e).queued.length =
      L.queued.length + (((c.apply w e).pending conn).length - (c.pending conn).length) := by
  rw [Ledger.note, List.length_append, List.length_drop]

/-- How many frames have left the queue. -/
def taken (c : Conversation) (L : Ledger) (conn : Nat) : Nat := L.queued.length - (c.pending conn).length

theorem taken_note (h : c.pending conn <:+ L.queued) (w : Worker) (e : Event) :
    c.taken L conn ≤ (c.apply w e).taken (L.note conn w c e) conn := by
  have hle := h.length_le
  rw [taken, taken, note_queued_length]
  omega

theorem frames_note (w : Worker) (c : Conversation) (e : Event) (h : s.stop ≤ L.queued.length) :
    (L.note conn w c e).frames s = L.frames s := by
  rw [Ledger.frames, Ledger.note, List.take_append_of_le_length h]
  rfl

/-! Requests that have their result. -/

theorem ended_dropped {signs : List Sign} (h : Ended signs t.call) : Ended signs (dropped t).call := by
  obtain ⟨call, inside⟩ := t
  cases h with
  | closing h => exact .returned trivial
  | returned h => exact .returned h

theorem ended_apply {signs : List Sign} (ht : c.threads[id]? = some t) (h : Ended signs t.call) (w : Worker)
    (e : Event) : ∃ t', (c.apply w e).threads[id]? = some t' ∧ Ended signs t'.call := by
  cases e with
  | call operation inside =>
    obtain ⟨hlt, -⟩ := List.getElem?_eq_some_iff.1 ht
    exact ⟨t, (List.getElem?_append_left hlt).trans ht, h⟩
  | advance j =>
    by_cases hj : j = id
    · subst hj
      exact ⟨_, getElem?_advance ht, ended_step h w j t.inside c⟩
    · exact ⟨t, (getElem?_advance_of_ne hj).trans ht, h⟩
  | dropTasks => exact ⟨dropped t, by rw [apply, dropTasks_threads, ht]; rfl, ended_dropped h⟩
  | _ => exact ⟨t, ht, h⟩

/-- A request that is over, with the stretch it has looked at. -/
def Closed (conn : Nat) (c : Conversation) (L : Ledger) (s : Span) : Prop :=
  ∃ (k : Connection) (t : Thread), c.connections[conn]? = some k ∧ c.threads[s.request]? = some t ∧
    Ended (signsIn k.server k.settings.client (L.frames s)) t.call

theorem Closed.apply (h : Closed conn c L s) (hstop : s.stop ≤ L.queued.length) (w : Worker) (e : Event) :
    Closed conn (c.apply w e) (L.note conn w c e) s := by
  obtain ⟨k, t, hk, ht, hended⟩ := h
  obtain ⟨k', hk', hserver, hset⟩ := apply_addresses w e hk
  obtain ⟨t', ht', hended'⟩ := ended_apply ht hended w e
  refine ⟨k', t', hk', ht', ?_⟩
  rw [frames_note w c e hstop, hserver, hset]
  exact hended'

/-- The request that uses the connection now, with the stretch it has looked at so far: all that was taken. -/
def Current (conn : Nat) (c : Conversation) (L : Ledger) (s : Span) : Prop :=
  ∃ (k : Connection) (t : Thread), c.connections[conn]? = some k ∧ c.threads[s.request]? = some t ∧
    s.stop = c.taken L conn ∧ Progress conn k.early (signsIn k.server k.settings.client (L.frames s)) t.call

/-- The books of a connection are in order. -/
structure Account (conn : Nat) (c : Conversation) (L : Ledger) (past : List Span) (now : Option Span) : Prop where
  sorted : Sorted L (c.taken L conn) (past ++ now.toList)
  pending : c.pending conn <:+ L.queued
  past : ∀ s ∈ past, Closed conn c L s
  now : ∀ s ∈ now, Current conn c L s

theorem Account.stop_le (h : Account conn c L past now) (hs : s ∈ past ++ now.toList) : s.stop ≤ L.queued.length :=
  Nat.le_trans (h.sorted.proper s hs).2 (Nat.sub_le _ _)

theorem Account.past_apply (h : Account conn c L past now) (w : Worker) (e : Event) :
    ∀ s ∈ past, Closed conn (c.apply w e) (L.note conn w c e) s :=
  fun s hs => (h.past s hs).apply (h.stop_le (List.mem_append_left _ hs)) w e

theorem begun_note (h : c.beginner w conn e = none) : (L.note conn w c e).begun = L.begun := by
  rw [Ledger.note, h]
  exact List.append_nil _

theorem Account.carry (h : Account conn c L past now) (hnone : c.beginner w conn e = none)
    (hnow : ∀ s ∈ now, Current conn (c.apply w e) (L.note conn w c e) s) :
    Account conn (c.apply w e) (L.note conn w c e) past now :=
  ⟨h.sorted.mono (taken_note h.pending w e) (begun_note hnone), note_pending h.pending w e, h.past_apply w e, hnow⟩

/-! The request that uses the connection. -/

theorem progress_holds {early : List Bytes} {signs : List Sign} {call : Call}
    (h : Progress conn early signs call) : call.holds = true := by
  cases h <;> rfl

theorem Current.keep (h : Current conn c L s) (hpend : c.pending conn <:+ L.queued)
    (hconn : ∀ k, c.connections[conn]? = some k →
      ∃ k', (c.apply w e).connections[conn]? = some k' ∧ k.Appends k')
    (hthread : (c.apply w e).threads[s.request]? = c.threads[s.request]?) :
    Current conn (c.apply w e) (L.note conn w c e) s := by
  obtain ⟨k, t, hk, ht, hstop, hprogress⟩ := h
  obtain ⟨k', hk', happ⟩ := hconn k hk
  have hle : s.stop ≤ L.queued.length := by
    rw [hstop]
    exact Nat.sub_le _ _
  refine ⟨k', t, hk', hthread.trans ht, ?_, ?_⟩
  · have hmore := happ.pending.length_le
    have hall := hpend.length_le
    rw [pending_eq hk] at hall
    rw [hstop, taken, taken, note_queued_length, pending_eq hk, pending_eq hk']
    omega
  · rw [frames_note w c e hle, happ.early, happ.server, happ.settings]
    exact hprogress

theorem apply_outside_threads (he : e.isOutside = true) (w : Worker) (ht : c.threads[id]? = some t) :
    (c.apply w e).threads[id]? = c.threads[id]? := by
  cases e with
  | call operation inside =>
    obtain ⟨hlt, -⟩ := List.getElem?_eq_some_iff.1 ht
    exact List.getElem?_append_left hlt
  | advance id => cases he
  | dropTasks => cases he
  | _ => rfl

theorem Current.outside (h : Current conn c L s) (hpend : c.pending conn <:+ L.queued)
    (he : e.isOutside = true) (w : Worker) : Current conn (c.apply w e) (L.note conn w c e) s := by
  obtain ⟨k, t, hk, ht, -⟩ := id h
  exact h.keep hpend (fun k hk => apply_appends he w hk) (apply_outside_threads he w ht)

theorem Current.holder (h : Current conn c L s) (hex : c.Exclusive) : c.holder = some s.request := by
  obtain ⟨k, t, -, ht, -, hprogress⟩ := h
  exact hex s.request (by rw [holds_eq ht, progress_holds hprogress])

theorem Current.other (h : Current conn c L s) (hpend : c.pending conn <:+ L.queued) (hex : c.Exclusive)
    (w : Worker) {j : Nat} (hj : j ≠ s.request) :
    Current conn (c.apply w (.advance j)) (L.note conn w c (.advance j)) s := by
  have hbusy := h.holder hex
  refine h.keep hpend (fun k hk => ?_) (getElem?_advance_of_ne hj)
  show ∃ k', (c.advance w j).connections[conn]? = some k' ∧ k.Appends k'
  cases ht : c.threads[j]? with
  | none => exact ⟨k, by simpa only [advance, ht] using hk, .refl k⟩
  | some t =>
    have hfree : t.call.holds = false := by
      by_contra hself
      have hheld := hex j (by rw [holds_eq ht]; simpa using hself)
      rw [hbusy] at hheld
      exact hj (Option.some.inj hheld).symm
    rw [advance_eq ht]
    rcases (stepCall_bystands hbusy (Ne.symm hj) w t.inside t.call hfree).connections with hsame | ⟨i, hclose⟩
    · exact ⟨k, by simp only [hsame, hk], .refl k⟩
    · obtain ⟨k', hk', happ⟩ := appends_of_modify (i := i) Connection.Appends.close hk
      exact ⟨k', by simp only [hclose]; exact hk', happ⟩

theorem frames_grow (hpend : c.pending conn <:+ L.queued) (hstop : s.stop = c.taken L conn)
    (hfirst : s.first ≤ s.stop) {got rest : List Message} (hgot : c.pending conn = got ++ rest) :
    L.frames { s with stop := s.stop + got.length } = L.frames s ++ got := by
  obtain ⟨front, hfront⟩ := hpend
  have hlen : s.stop = front.length := by
    rw [hstop, taken, ← hfront, List.length_append, Nat.add_sub_cancel]
  have hall : L.queued = (front ++ got) ++ rest := by rw [← hfront, hgot, List.append_assoc]
  simp only [Ledger.frames, hall]
  rw [hlen, ← List.length_append, List.take_left, List.append_assoc, List.take_left,
    List.drop_append_of_le_length (hlen ▸ hfirst)]

theorem Current.step (h : Current conn c L s) (hpend : c.pending conn <:+ L.queued) (hfirst : s.first ≤ s.stop)
    (w : Worker) :
    ∃ n, s.stop + n ≤ (c.apply w (.advance s.request)).taken (L.note conn w c (.advance s.request)) conn ∧
      (Current conn (c.apply w (.advance s.request)) (L.note conn w c (.advance s.request))
          { s with stop := s.stop + n } ∨
        Closed conn (c.apply w (.advance s.request)) (L.note conn w c (.advance s.request))
          { s with stop := s.stop + n }) := by
  obtain ⟨k, t, hk, ht, hstop, hprogress⟩ := h
  have hserves : Serves conn k.server k.settings.client (L.frames s) k.pending
      (stepCall w s.request t.inside c t.call) := progress_step hk hprogress t.inside
  obtain ⟨k', got, hk', hqueue, hstage⟩ := hserves
  obtain ⟨k₁, hk₁, hserver, hset⟩ := apply_addresses w (.advance s.request) hk
  have hconn : (c.apply w (.advance s.request)).connections[conn]? = some k' := by
    rw [apply, advance_eq ht]
    exact hk'
  rw [hconn] at hk₁
  cases hk₁
  have hthread : (c.apply w (.advance s.request)).threads[s.request]? =
    some { t with call := (stepCall w s.request t.inside c t.call).2 } := getElem?_advance ht
  have hpk : c.pending conn = got ++ k'.pending := (pending_eq hk).trans hqueue
  have hlen : (c.pending conn).length = got.length + k'.pending.length := by rw [hpk, List.length_append]
  have hall := hpend.length_le
  have htaken : s.stop + got.length =
      (c.apply w (.advance s.request)).taken (L.note conn w c (.advance s.request)) conn := by
    rw [hstop, taken, taken, note_queued_length, pending_eq hconn]
    omega
  have hframes : (L.note conn w c (.advance s.request)).frames { s with stop := s.stop + got.length } =
      L.frames s ++ got := by
    rw [frames_note w c _ (by simp only; rw [hstop, taken]; omega)]
    exact frames_grow hpend hstop hfirst hpk
  refine ⟨got.length, Nat.le_of_eq htaken, ?_⟩
  rcases hstage with hgoes | hended
  · refine .inl ⟨k', _, hconn, hthread, htaken, ?_⟩
    rw [hframes, hserver, hset]
    exact hgoes
  · refine .inr ⟨k', _, hconn, hthread, ?_⟩
    rw [hframes, hserver, hset]
    exact hended

theorem Current.dropped (h : Current conn c L s) (w : Worker) :
    Closed conn (c.apply w .dropTasks) (L.note conn w c .dropTasks) s := by
  obtain ⟨k, t, hk, ht, -, hprogress⟩ := h
  obtain ⟨k', hk', -⟩ := apply_addresses w .dropTasks hk
  refine ⟨k', Conversation.dropped t, hk', by rw [apply, dropTasks_threads, ht]; rfl, ?_⟩
  obtain ⟨call, inside⟩ := t
  cases hprogress <;> exact .returned trivial

/-! Requests that begin. -/

theorem startExchange_writes (data : Bytes) (c : Conversation) :
    (∃ conn k frame, c.connections[conn]? = some k ∧
      startExchange data c =
        (c.modifyConnection conn fun _ => k.discardPending.1, .request data (.writing conn frame))) ∨
    ∃ c' e, startExchange data c = settleRequest data c' (.error e) ∧ tells (.error e) = false := by
  obtain hrefused | ⟨conn, k, -, hk, -, ⟨e, hfails⟩ | ⟨frame, hwrites⟩⟩ := startExchange_cases data c
  · exact .inr ⟨c, _, hrefused, rfl⟩
  · exact .inr ⟨_, _, hfails, by cases e <;> rfl⟩
  · exact .inl ⟨conn, k, frame, hk, hwrites⟩

theorem settleRequest_call (data : Bytes) (c : Conversation) (result : Except RequestError Response) :
    (settleRequest data c result).2 = .returned (.request result) ∨
      ∃ conn, (settleRequest data c result).2 = .request data (.closing conn result) := by
  unfold settleRequest
  split
  · exact .inl rfl
  · split
    · exact .inl rfl
    · exact .inr ⟨_, rfl⟩

theorem stepRequest_begins {data' frame : Bytes} {inside : Bool}
    (h : (stepRequest w id data inside c .queued).2 = .request data' (.writing conn frame)) :
    c.holder = none ∧ ∃ k, c.connections[conn]? = some k ∧
      (stepRequest w id data inside c .queued).1.connections =
        c.connections.modify conn fun _ => k.discardPending.1 := by
  cases hl : c.tryLock id with
  | none =>
    simp only [stepRequest, hl] at h
    cases h
  | some c₁ =>
    have hsame : c₁.connections = c.connections := by
      unfold tryLock at hl
      split at hl
      · cases hl
        rfl
      · cases hl
    simp only [stepRequest, hl] at h ⊢
    refine ⟨(tryLock_holder hl).1, ?_⟩
    rcases startExchange_writes data c₁ with ⟨conn₁, k, frame₁, hk, hstart⟩ | ⟨c', e, hstart, -⟩
    · rw [hstart] at h ⊢
      cases h
      exact ⟨k, hsame ▸ hk, by rw [modifyConnection, hsame]⟩
    · rw [hstart] at h
      rcases settleRequest_call data c' (.error e) with hret | ⟨conn₁, hclose⟩
      · rw [hret] at h
        cases h
      · rw [hclose] at h
        cases h

theorem begins_spec (h : c.begins w conn id = true) :
    c.holder = none ∧ ∃ k data frame inside, c.connections[conn]? = some k ∧
      (c.advance w id).connections[conn]? = some k.discardPending.1 ∧
      (c.advance w id).threads[id]? = some ⟨.request data (.writing conn frame), inside⟩ := by
  unfold begins at h
  split at h
  · rename_i data inside data' conn' frame inside' ht ht'
    obtain rfl : conn' = conn := of_decide_eq_true h
    have hstep := getElem?_advance (w := w) ht
    rw [ht'] at hstep
    obtain ⟨hfree, k, hk, hconns⟩ :=
      stepRequest_begins (congrArg Thread.call (Option.some.inj hstep)).symm
    refine ⟨hfree, k, data', frame, inside', hk, ?_, ht'⟩
    rw [advance_eq ht]
    exact (congrArg (·[conn']?) hconns).trans (getElem?_modifyConnection hk fun _ => k.discardPending.1)
  · cases h

theorem beginner_taken {j : Nat} (h : c.holder = some j) (w : Worker) (conn id : Nat) :
    c.beginner w conn (.advance id) = none := by
  refine if_neg fun hbegins => ?_
  rw [(begins_spec hbegins).1] at h
  cases h

theorem Account.start (h : Account conn c L past none) (hbegins : c.begins w conn id = true) :
    Account conn (c.apply w (.advance id)) (L.note conn w c (.advance id)) past
      (some ⟨id, L.queued.length, L.queued.length⟩) := by
  obtain ⟨-, k, data, frame, inside, hk, hk', ht'⟩ := begins_spec hbegins
  have hk' : (c.apply w (.advance id)).connections[conn]? = some k.discardPending.1 := hk'
  have hempty : (c.apply w (.advance id)).pending conn = [] := by
    rw [pending_eq hk']
    cases hs : k.stream <;> simp [Connection.pending, Connection.discardPending, hs]
  have hqueued : (L.note conn w c (.advance id)).queued = L.queued := by
    simp [Ledger.note, hempty]
  have hcount : (c.apply w (.advance id)).taken (L.note conn w c (.advance id)) conn = L.queued.length := by
    rw [taken, hempty, hqueued]
    rfl
  have hbegun : (L.note conn w c (.advance id)).begun = L.begun ++ [(id, L.queued.length)] := by
    simp [Ledger.note, beginner, hbegins]
  have hsorted := h.sorted
  simp only [Option.toList_none, List.append_nil] at hsorted
  refine ⟨?_, note_pending h.pending w _, h.past_apply w _, fun s hs => ?_⟩
  · rw [hcount]
    exact hsorted.begin (Nat.sub_le _ _) hbegun
  · cases hs
    refine ⟨_, _, hk', ht', hcount.symm, .writing rfl ?_⟩
    simp [Ledger.frames, hqueued, signsIn]

/-! Runs. -/

theorem Account.apply (h : Account conn c L past now) (hex : c.Exclusive) (w : Worker) (e : Event) :
    ∃ past' now', Account conn (c.apply w e) (L.note conn w c e) past' now' := by
  cases he : e.isOutside with
  | true =>
    have hnone : c.beginner w conn e = none := by cases e <;> first | rfl | cases he
    exact ⟨past, now, h.carry hnone fun s hs => (h.now s hs).outside h.pending he w⟩
  | false =>
    cases e with
    | advance id =>
      cases now with
      | some s =>
        have hnow := h.now s rfl
        have hnone := beginner_taken (hnow.holder hex) w conn id
        by_cases hid : id = s.request
        · subst hid
          have hfirst := (h.sorted.proper s (by simp)).1
          obtain ⟨n, hle, hstage⟩ := hnow.step h.pending hfirst w
          have hsorted := h.sorted.grow n (begun_note hnone) (taken_note h.pending w _) hle
          rcases hstage with hgoes | hended
          · refine ⟨past, some { s with stop := s.stop + n }, hsorted, note_pending h.pending w _,
              h.past_apply w _, fun s' hs' => ?_⟩
            cases hs'
            exact hgoes
          · refine ⟨past ++ [{ s with stop := s.stop + n }], none, ?_, note_pending h.pending w _,
              fun s' hs' => ?_, fun s' hs' => by cases hs'⟩
            · rw [Option.toList_none, List.append_nil]
              exact hsorted
            · rcases List.mem_append.1 hs' with hold | hnew
              · exact h.past_apply w _ s' hold
              · rw [List.mem_singleton.1 hnew]
                exact hended
        · refine ⟨past, some s, h.carry hnone fun s' hs' => ?_⟩
          cases hs'
          exact hnow.other h.pending hex w hid
      | none =>
        cases hbegins : c.begins w conn id with
        | true => exact ⟨past, _, h.start hbegins⟩
        | false =>
          have hnone : c.beginner w conn (.advance id) = none := if_neg (by simp [hbegins])
          exact ⟨past, none, h.carry hnone fun s hs => by cases hs⟩
    | dropTasks =>
      refine ⟨past ++ now.toList, none, ?_, note_pending h.pending w _, fun s hs => ?_, fun s hs => by cases hs⟩
      · rw [Option.toList_none, List.append_nil]
        exact h.sorted.mono (taken_note h.pending w _) (begun_note rfl)
      · rcases List.mem_append.1 hs with hold | hnow
        · exact h.past_apply w _ s hold
        · exact (h.now s (Option.mem_toList.1 hnow)).dropped w
    | _ => cases he

theorem Account.fresh (conn : Nat) (settings : ConversationSettings) (version : UInt8)
    (servers : List ServerMapping) (running : Bool) :
    Account conn { settings, version, servers, running } {} [] none :=
  ⟨⟨rfl, List.Pairwise.nil, fun s hs => by cases hs⟩, List.suffix_refl _, fun s hs => (by cases hs),
    fun s hs => by cases hs⟩

theorem Reachable.play (h : Reachable c) (es : List (Worker × Event)) : Reachable (c.play es) := by
  induction es generalizing c with
  | nil => exact h
  | cons p es ih => exact ih (h.apply p.1 p.2)

theorem Account.play (h : Account conn c L past now) (hreach : Reachable c) (es : List (Worker × Event)) :
    ∃ past' now', Account conn (c.play es) (L.after conn c es) past' now' := by
  induction es generalizing c L past now with
  | nil => exact ⟨past, now, h⟩
  | cons p es ih =>
    obtain ⟨past', now', h'⟩ := h.apply hreach.exclusive p.1 p.2
    exact ih h' (hreach.apply p.1 p.2)

end Conversation
end Doip
