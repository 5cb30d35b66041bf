import Doip.Proofs.Conversation.Goes
import Doip.Proofs.Conversation.Request

/-! A conversation that is used by one thread, which makes one call after the other while network and time do as they
like (`Sequential`). Between two calls it stands for a machine that has made a run of these calls with the same
outcomes, and every call comes to its end (`refines_machine`). -/

namespace Doip.Conversation

variable {id : Nat} {start c : Conversation} {m m₀ m' : Machine} {op : Operation} {ops : List Operation}
variable {outcomes : List Outcome} {e : Event}

/-- What becomes of a conversation when calls are made one after the other, from outside a worker that lives. -/
inductive Sequential (start : Conversation) : List Operation → Conversation → Prop
  | start : Sequential start [] start
  | call {ops : List Operation} {c : Conversation} (h : Sequential start ops c) (hidle : c.Idle) (op : Operation) :
      Sequential start (ops ++ [op]) (c.apply {} (.call op false))
  | advance {ops : List Operation} {c : Conversation} (h : Sequential start ops c) (id : Nat) :
      Sequential start ops (c.apply {} (.advance id))
  | network {ops : List Operation} {c : Conversation} {e : Event} (h : Sequential start ops c)
      (he : e.isNetwork = true) : Sequential start ops (c.apply {} e)

def returned (outcome : Outcome) : Thread := { call := .returned outcome }

/-- A machine has made the calls that have ended, with the same outcomes. The conversation stands for it, or is
making one more call. -/
inductive Refines (start c : Conversation) : List Operation → Prop
  | idle {ops : List Operation} {outcomes : List Outcome} {m : Machine}
      (hthreads : c.threads = outcomes.map returned) (hlen : ops.length = outcomes.length)
      (hrun : Machine.Run start ⟨start.running, none⟩ (ops.zip outcomes) m) (h : Represents start c m) :
      Refines start c ops
  | busy {ops : List Operation} {op : Operation} {outcomes : List Outcome} {m : Machine} {call : Call}
      (hthreads : c.threads = outcomes.map returned ++ [{ call := call }]) (hlen : ops.length = outcomes.length)
      (hrun : Machine.Run start ⟨start.running, none⟩ (ops.zip outcomes) m)
      (h : Stands start m outcomes.length c op call) : Refines start c (ops ++ [op])

theorem idle_of_returned (outcomes : List Outcome) (h : c.threads = outcomes.map returned) : c.Idle := by
  intro t ht
  rw [h] at ht
  obtain ⟨outcome, -, rfl⟩ := List.mem_map.1 ht
  exact ⟨outcome, rfl⟩

theorem Drifts.run {history : List (Operation × Outcome)} (hdrift : Drifts m m')
    (h : Machine.Run start m₀ history m) : Machine.Run start m₀ history m' := by
  rcases hdrift with rfl | ⟨server, hconn, rfl⟩
  · exact h
  · exact .lose h hconn

/-! What the thread, the network and time do. -/

theorem Refines.network (h : Refines start c ops) (he : e.isNetwork = true) : Refines start (c.apply {} e) ops := by
  obtain ⟨pass, ho⟩ := Outside.network he {} c
  have hsame := apply_network_threads he {} c
  cases h with
  | idle hthreads hlen hrun h =>
    obtain ⟨m', hdrift, h'⟩ := h.outside ho
    exact .idle (hsame.trans hthreads) hlen (hdrift.run hrun) h'
  | busy hthreads hlen hrun h =>
    obtain ⟨m', hdrift, h'⟩ := h.outside ho
    exact .busy (hsame.trans hthreads) hlen (hdrift.run hrun) h'

theorem Refines.of_idle (h : Refines start c ops) (hidle : c.Idle) : ∃ (outcomes : List Outcome) (m : Machine),
    c.threads = outcomes.map returned ∧ ops.length = outcomes.length ∧
      Machine.Run start ⟨start.running, none⟩ (ops.zip outcomes) m ∧ Represents start c m := by
  cases h with
  | idle hthreads hlen hrun h => exact ⟨_, _, hthreads, hlen, hrun, h⟩
  | busy hthreads hlen hrun h =>
    rename_i ops op outcomes m call
    obtain ⟨outcome, rfl⟩ : ∃ outcome, call = .returned outcome := by
      refine hidle { call := call } ?_
      rw [hthreads]
      exact List.mem_append_right _ (List.mem_singleton_self _)
    exact absurd h.rank_pos (Nat.lt_irrefl 0)

theorem Refines.call (h : Refines start c ops) (hidle : c.Idle) (op : Operation) :
    Refines start (c.apply {} (.call op false)) (ops ++ [op]) := by
  obtain ⟨outcomes, m, hthreads, hlen, hrun, h⟩ := h.of_idle hidle
  have hmade : (c.apply {} (.call op false)).threads = outcomes.map returned ++ [{ call := .of op }] := by
    rw [← hthreads]
    rfl
  exact .busy hmade hlen hrun ((h.threads _).enter outcomes.length op)

/-- The points that the last call has still before it. -/
def points (c : Conversation) : Nat := (c.threads.getLast?.map (·.call.rank)).getD 0

theorem points_returned (h : c.threads = outcomes.map returned) : c.points = 0 := by
  rw [points, h, List.getLast?_map]
  cases outcomes.getLast? with
  | none => rfl
  | some outcome => rfl

theorem points_busy {call : Call} (h : c.threads = outcomes.map returned ++ [{ call := call }]) :
    c.points = call.rank := by
  rw [points, h, List.getLast?_concat]
  rfl

theorem Stands.advance {call : Call} (h : Stands start m outcomes.length c op call)
    (hthreads : c.threads = outcomes.map returned ++ [{ call := call }]) (hlen : ops.length = outcomes.length)
    (hrun : Machine.Run start ⟨start.running, none⟩ (ops.zip outcomes) m) :
    Refines start (c.advance {} outcomes.length) (ops ++ [op]) ∧
      (c.waitOver = true → (c.advance {} outcomes.length).points < c.points) := by
  have hlast : (outcomes.map returned).length = outcomes.length := List.length_map _
  have hadvance := advance_last hthreads {}
  rw [hlast] at hadvance
  have hstep := h.step
  rcases hr : stepCall {} outcomes.length false c call with ⟨c₁, call₁⟩
  rw [hr] at hstep hadvance
  rw [points_busy hthreads, hadvance]
  cases hstep with
  | onward h₁ hlt =>
    obtain ⟨m', hdrift, h₂⟩ := h₁.outside (.threads c₁ (outcomes.map returned ++ [{ call := call₁ }]))
    refine ⟨.busy rfl hlen (hdrift.run hrun) h₂, fun _ => ?_⟩
    rw [points_busy rfl]
    exact hlt
  | stays h₁ heq hover =>
    obtain ⟨m', hdrift, h₂⟩ := h₁.outside (.threads c₁ (outcomes.map returned ++ [{ call := call₁ }]))
    refine ⟨.busy rfl hlen (hdrift.run hrun) h₂, fun hyes => ?_⟩
    rw [hyes] at hover
    cases hover
  | ends hstep h₁ =>
    rename_i outcome m'
    have hended : outcomes.map returned ++ [returned outcome] = (outcomes ++ [outcome]).map returned := by
      rw [List.map_append]
      rfl
    have hhistory : Machine.Run start ⟨start.running, none⟩ ((ops ++ [op]).zip (outcomes ++ [outcome])) m' := by
      rw [List.zip_append hlen]
      exact .step hrun hstep
    refine ⟨.idle hended ?_ hhistory (h₁.threads _), fun _ => ?_⟩
    · rw [List.length_append, List.length_append, hlen]
      rfl
    · rw [points_returned hended]
      exact h.rank_pos

theorem Refines.advance (h : Refines start c ops) (id : Nat) : Refines start (c.apply {} (.advance id)) ops := by
  show Refines start (c.advance {} id) ops
  cases h with
  | idle hthreads hlen hrun h =>
    have hidle := idle_of_returned _ hthreads
    rw [advance_ended fun t ht => hidle t (List.mem_of_getElem? ht)]
    exact .idle hthreads hlen hrun h
  | busy hthreads hlen hrun h =>
    rename_i ops op outcomes m call
    by_cases hid : id = outcomes.length
    · rw [hid]
      exact (h.advance hthreads hlen hrun).1
    · have hended : ∀ t, c.threads[id]? = some t → ∃ outcome, t.call = .returned outcome := by
        intro t ht
        rw [hthreads] at ht
        rcases Nat.lt_or_gt_of_ne hid with hlt | hgt
        · rw [List.getElem?_append_left (by rwa [List.length_map])] at ht
          obtain ⟨outcome, -, rfl⟩ := List.mem_map.1 (List.mem_of_getElem? ht)
          exact ⟨outcome, rfl⟩
        · rw [List.getElem?_eq_none (by simp only [List.length_append, List.length_map]; exact hgt)] at ht
          cases ht
      rw [advance_ended hended]
      exact .busy hthreads hlen hrun h

theorem Sequential.refines {ops : List Operation} (h : Sequential start ops c)
    (hstart : Refines start start []) : Refines start c ops := by
  induction h with
  | start => exact hstart
  | call h hidle op ih => exact ih.call hidle op
  | advance h id ih => exact ih.advance id
  | network h he ih => exact ih.network he

/-! Every call ends. -/

/-- The network does something, some time passes, and the thread looks at its call again. -/
def round (id : Nat) (c : Conversation) (r : List Event × Nat) : Conversation :=
  ((r.1.foldl (apply {}) c).apply {} (.elapse r.2)).apply {} (.advance id)

/-- A round in which any wait is over at its end. -/
def Long (start : Conversation) (r : List Event × Nat) : Prop :=
  (∀ e ∈ r.1, e.isNetwork = true) ∧ start.longest ≤ r.2

theorem points_le (c : Conversation) : c.points ≤ 9 := by
  unfold points
  cases c.threads.getLast? with
  | none => exact Nat.zero_le 9
  | some t => exact t.call.rank_le

theorem Refines.idle_of_points (h : Refines start c ops) (hpoints : c.points = 0) : c.Idle := by
  cases h with
  | idle hthreads => exact idle_of_returned _ hthreads
  | busy hthreads hlen hrun h =>
    rw [points_busy hthreads] at hpoints
    exact absurd hpoints (Nat.ne_of_gt h.rank_pos)

theorem events_keep {es : List Event} (hes : ∀ e ∈ es, e.isNetwork = true) (h : Refines start c ops) :
    Refines start (es.foldl (apply {}) c) ops ∧ (es.foldl (apply {}) c).points = c.points := by
  induction es generalizing c with
  | nil => exact ⟨h, rfl⟩
  | cons e es ih =>
    have he := hes e List.mem_cons_self
    obtain ⟨hall, hpoints⟩ := ih (fun e' he' => hes e' (List.mem_cons_of_mem e he')) (h.network he)
    refine ⟨hall, hpoints.trans ?_⟩
    unfold points
    rw [apply_network_threads he]

theorem Sequential.events {es : List Event} (h : Sequential start ops c)
    (hes : ∀ e ∈ es, e.isNetwork = true ∨ ∃ id, e = .advance id) : Sequential start ops (es.foldl (apply {}) c) := by
  induction es generalizing c with
  | nil => exact h
  | cons e es ih =>
    have hrest : ∀ e' ∈ es, e'.isNetwork = true ∨ ∃ id, e' = .advance id :=
      fun e' he' => hes e' (List.mem_cons_of_mem e he')
    rcases hes e List.mem_cons_self with he | ⟨id, rfl⟩
    · exact ih (h.network he) hrest
    · exact ih (h.advance id) hrest

theorem Sequential.rounds {rs : List (List Event × Nat)} (h : Sequential start ops c)
    (hlong : ∀ r ∈ rs, Long start r) : Sequential start ops (rs.foldl (round id) c) := by
  induction rs generalizing c with
  | nil => exact h
  | cons r rs ih =>
    have hone := h.events fun e he => .inl ((hlong r List.mem_cons_self).1 e he)
    exact ih ((hone.network rfl).advance id) fun r' hr' => hlong r' (List.mem_cons_of_mem r hr')

theorem Refines.round (h : Refines start c ops) {r : List Event × Nat} (hlong : Long start r) :
    Refines start (c.round (ops.length - 1) r) ops ∧ (c.round (ops.length - 1) r).points ≤ c.points - 1 := by
  obtain ⟨h₁, hpoints⟩ := events_keep hlong.1 h
  refine ⟨(h₁.network rfl).advance _, ?_⟩
  rw [← hpoints]
  clear h
  cases h₁ with
  | idle hthreads hlen hrun h =>
    have hidle : ((r.1.foldl (apply {}) c).apply {} (.elapse r.2)).Idle := idle_of_returned _ hthreads
    show (Conversation.advance _ _ _).points ≤ _
    rw [advance_ended fun t ht => hidle t (List.mem_of_getElem? ht), points_returned hthreads]
    exact Nat.le_of_eq (points_returned hthreads)
  | busy hthreads hlen hrun h =>
    rename_i ops op outcomes m call
    obtain ⟨m', hdrift, h'⟩ := h.outside (.elapse _ r.2)
    have hnow := (h'.advance hthreads hlen (hdrift.run hrun)).2 (h.waitOver hlong.2)
    have hid : (ops ++ [op]).length - 1 = outcomes.length := by
      rw [List.length_append, hlen]
      rfl
    rw [hid]
    exact Nat.le_sub_one_of_lt hnow

theorem Refines.rounds (h : Refines start c ops) {rs : List (List Event × Nat)} (hlong : ∀ r ∈ rs, Long start r) :
    Refines start (rs.foldl (Conversation.round (ops.length - 1)) c) ops ∧
      (rs.foldl (Conversation.round (ops.length - 1)) c).points ≤ c.points - rs.length := by
  induction rs generalizing c with
  | nil => exact ⟨h, Nat.le_refl _⟩
  | cons r rs ih =>
    obtain ⟨hone, hless⟩ := h.round (hlong r List.mem_cons_self)
    obtain ⟨hall, hpoints⟩ := ih hone fun r' hr' => hlong r' (List.mem_cons_of_mem r hr')
    refine ⟨hall, ?_⟩
    rw [List.foldl_cons, List.length_cons]
    omega

/-! What shows between two calls. -/

/-- A conversation with no call under way shows what a machine is, its slot and its link hold the same connection, and
every other connection is closed. -/
structure Shows (c : Conversation) (m : Machine) : Prop where
  running : c.running = m.running
  state : c.state = m.state
  server : c.serverAddress = m.server
  slot : c.slot = c.link.map (·.connection)
  others : ∀ (i : Nat) (k : Connection), c.connections[i]? = some k → c.slot ≠ some i →
    k.closed = true ∧ k.stream = none

theorem Represents.shows (h : Represents start c m) : c.Shows m := by
  refine ⟨h.running, h.state, h.serverAddress, ?_, ?_⟩
  · cases h with
    | bare h => rw [h.slot, h.link, Option.map_none]
    | linked h => rw [h.slot, h.link, Option.map_some]
  · intro i k hk hslot
    cases h with
    | bare h => exact h.others i k hk nofun
    | linked h =>
      rw [h.slot] at hslot
      exact h.others i k hk hslot

theorem outcome?_of_returned (h : c.threads = outcomes.map returned) (id : Nat) : c.outcome? id = outcomes[id]? := by
  unfold outcome?
  rw [h, List.getElem?_map]
  cases outcomes[id]? with
  | none => rfl
  | some outcome => rfl

/-- Used by one thread outside the worker, a conversation refines the machine: when no call is under way, there is a
run of the machine with the calls that were made and with their outcomes, and the conversation shows where it has come
to. Whatever the network does, every call has ended after nine rounds in which its wait may run out. -/
theorem refines_machine (settings : ConversationSettings) (version : UInt8) (servers : List ServerMapping)
    (running : Bool) {ops : List Operation} {c : Conversation}
    (h : Sequential { settings, version, servers, running } ops c) :
    let start : Conversation := { settings, version, servers, running }
    (c.Idle → ∃ (outcomes : List Outcome) (m : Machine), outcomes.length = ops.length ∧
      (∀ id, c.outcome? id = outcomes[id]?) ∧ Machine.Run start ⟨running, none⟩ (ops.zip outcomes) m ∧ c.Shows m) ∧
    ∀ rs : List (List Event × Nat), (∀ r ∈ rs, Long start r) → 9 ≤ rs.length →
      Sequential start ops (rs.foldl (round (ops.length - 1)) c) ∧
        (rs.foldl (round (ops.length - 1)) c).Idle := by
  intro start
  have hstart : Refines start start [] := by
    have hbare : Layout start start running none none none none [] :=
      ⟨rfl, rfl, rfl, rfl, rfl, rfl, rfl, rfl, rfl, fun i k hk => by cases hk⟩
    exact @Refines.idle start start [] [] _ rfl rfl (.done _) (.bare hbare)
  have hrefines := h.refines hstart
  refine ⟨fun hidle => ?_, fun rs hlong hnine => ⟨h.rounds hlong, ?_⟩⟩
  · obtain ⟨outcomes, m, hthreads, hlen, hrun, hm⟩ := hrefines.of_idle hidle
    exact ⟨outcomes, m, hlen.symm, outcome?_of_returned hthreads, hrun, hm.shows⟩
  · obtain ⟨hall, hpoints⟩ := hrefines.rounds hlong
    have hle := c.points_le
    exact hall.idle_of_points (by omega)

/-- A client that has its activation and loses the connection. -/
def parted : Conversation :=
  [Event.arrive 0 (.bytes welcome.toBytes), .advance 0, .arrive 0 .endOfStream].foldl (apply {}) awaitingActivation

theorem parted_eq : parted = [Event.advance 0, .arrive 0 .endOfStream].foldl (apply {})
    { awaitingActivation with connections := [{ asking with stream := some (askingStream [welcome]) }] } := by
  rw [parted, List.foldl_cons, awaitingActivation_welcomed]

def leaving : Conversation :=
  [Event.advance 1, .advance 1, .advance 1, .advance 1, .advance 1].foldl (apply {})
    (parted.apply {} (.call .disconnect false))

theorem sequential_leaving :
    Sequential { settings := { name := "tester", source := 0x0E00 }, version := 2, servers := [], running := true }
      [.connect 0x1000 (some .localhost), .disconnect] leaving := by
  let start : Conversation :=
    { settings := { name := "tester", source := 0x0E00 }, version := 2, servers := [], running := true }
  let connect : Operation := .connect 0x1000 (some .localhost)
  have hcalled : Sequential start [connect] (start.apply {} (.call connect false)) :=
    Sequential.start.call (fun t ht => absurd ht List.not_mem_nil) connect
  have hawaiting : Sequential start [connect] awaitingActivation := by
    rw [awaitingActivation, List.foldl_cons]
    exact hcalled.events (by simp [Event.isNetwork])
  have hparted : Sequential start [connect] parted := hawaiting.events (by simp [Event.isNetwork])
  have hidle : parted.Idle := by
    rw [parted_eq]
    exact idle_of_returned [.connect .success] rfl
  exact (hparted.call hidle .disconnect).events (by simp)

theorem leaving_eq : leaving =
    [Event.advance 0, .arrive 0 .endOfStream, .call .disconnect false, .advance 1, .advance 1, .advance 1, .advance 1,
    .advance 1].foldl (apply {})
      { awaitingActivation with connections := [{ asking with stream := some (askingStream [welcome]) }] } := by
  rw [leaving, parted_eq]
  rfl

theorem disconnects_after_loss :
    let start : Conversation :=
      { settings := { name := "tester", source := 0x0E00 }, version := 2, servers := [], running := true }
    let ops : List Operation := [.connect 0x1000 (some .localhost), .disconnect]
    Sequential start ops leaving ∧ parted.state = .faulted ∧ leaving.outcome? 1 = some (.disconnect .success) ∧
      ∃ (outcomes : List Outcome) (m : Machine), outcomes.length = 2 ∧ (∀ id, leaving.outcome? id = outcomes[id]?) ∧
        Machine.Run start ⟨true, none⟩ (ops.zip outcomes) m ∧ leaving.Shows m := by
  intro start ops
  obtain ⟨hends, -⟩ := refines_machine { name := "tester", source := 0x0E00 } 2 [] true sequential_leaving
  have hidle : leaving.Idle := by
    rw [leaving_eq]
    exact idle_of_returned [.connect .success, .disconnect .success] rfl
  refine ⟨sequential_leaving, ?_, ?_, hends hidle⟩
  · rw [parted_eq]
    rfl
  · rw [leaving_eq]
    rfl

end Doip.Conversation
