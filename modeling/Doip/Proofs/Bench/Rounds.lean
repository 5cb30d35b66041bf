import Doip.Bench.Basic
import Doip.Proofs.Conversation.Run

/-! Rounds of a bench. What happens to every conversation happens to each on its own (`applyAll_eq`); a round leaves
alone the conversations on which no call is under way and the wires on which nothing is (`applyAll_one`,
`carry_still`), and a call that comes to rest within some rounds has returned there (`call_eq`). -/

namespace Doip.Bench

variable {b : Bench} {i k : Nat} {c c' : Conversation} {wire : Wire} {events : Conversation → List Conversation.Event}

/-- A bench with other conversations. -/
def withConversations (b : Bench) (cs : List Conversation) : Bench :=
  { b with manager := { b.manager with conversations := cs } }

/-- A conversation with all that happens to it. -/
def play (b : Bench) (c : Conversation) (es : List Conversation.Event) : Conversation :=
  es.foldl (Conversation.apply b.manager.worker) c

theorem applyEach_eq (b : Bench) (i : Nat) (es : List Conversation.Event) :
    es.foldl (·.apply i ·) b =
      b.withConversations (b.manager.conversations.modify i fun c => b.play c es) := by
  induction es generalizing b with
  | nil =>
    have hid : b.manager.conversations.modify i (fun c => c) = b.manager.conversations := List.modify_id _ _
    show b = b.withConversations (b.manager.conversations.modify i fun c => c)
    rw [hid]
    rfl
  | cons e es ih =>
    rw [List.foldl_cons, ih]
    simp only [withConversations, apply, Manager.apply, List.modify_modify_eq]
    rfl

/-- The first entries of a list, changed one after the other. -/
theorem foldl_range_modify {α : Type} (f : α → α) (l : List α) (n : Nat) :
    (List.range n).foldl (fun l j => l.modify j f) l = l.mapIdx fun j a => if j < n then f a else a := by
  induction n with
  | zero =>
    refine List.ext_getElem? fun j => ?_
    simp
  | succ n ih =>
    rw [List.range_succ, List.foldl_append, ih, List.foldl_cons, List.foldl_nil]
    refine List.ext_getElem? fun j => ?_
    rw [List.getElem?_modify, List.getElem?_mapIdx, List.getElem?_mapIdx]
    by_cases hj : n = j
    · subst hj
      cases l[n]? with
      | none => rfl
      | some a => simp
    · have hiff : j < n ↔ j < n + 1 := by omega
      simp only [hj, hiff, if_false]
      cases l[j]? with
      | none => rfl
      | some a => rfl

theorem foldl_range_length {α : Type} (f : α → α) (l : List α) :
    (List.range l.length).foldl (fun l j => l.modify j f) l = l.map f := by
  rw [foldl_range_modify]
  refine List.ext_getElem? fun j => ?_
  rw [List.getElem?_mapIdx, List.getElem?_map]
  cases hj : l[j]? with
  | none => rfl
  | some a =>
    obtain ⟨hlt, -⟩ := List.getElem?_eq_some_iff.1 hj
    simp only [Option.map_some, hlt, if_true]

theorem applyEvents_eq (b : Bench) (events : Conversation → List Conversation.Event) (i : Nat) :
    ((b.conversation? i).elim [] events).foldl (·.apply i ·) b =
      b.withConversations (b.manager.conversations.modify i fun c => b.play c (events c)) := by
  rw [applyEach_eq]
  refine congrArg b.withConversations (List.ext_getElem? fun j => ?_)
  rw [List.getElem?_modify, List.getElem?_modify]
  by_cases hj : i = j
  · subst hj
    simp only [conversation?]
    cases b.manager.conversations[i]? with
    | none => rfl
    | some c => rfl
  · simp only [hj, if_false]

/-- What happens to every conversation happens to each on its own. -/
theorem applyAll_eq (b : Bench) (events : Conversation → List Conversation.Event) :
    b.applyAll events = b.withConversations (b.manager.conversations.map fun c => b.play c (events c)) := by
  let change (c : Conversation) : Conversation := b.play c (events c)
  have hfold : ∀ (is : List Nat) (cs : List Conversation),
      is.foldl (fun b i => ((b.conversation? i).elim [] events).foldl (·.apply i ·) b) (b.withConversations cs) =
        b.withConversations (is.foldl (fun cs i => cs.modify i change) cs) := by
    intro is
    induction is with
    | nil => exact fun _ => rfl
    | cons i is ih =>
      intro cs
      rw [List.foldl_cons, applyEvents_eq]
      exact ih _
  rw [← foldl_range_length change]
  exact hfold _ b.manager.conversations

theorem applyAll_one (hc : b.conversation? i = some c) (hplay : b.play c (events c) = c')
    (hothers : ∀ j c₁, j ≠ i → b.conversation? j = some c₁ → b.play c₁ (events c₁) = c₁) :
    b.applyAll events = b.withConversations (b.manager.conversations.set i c') := by
  rw [applyAll_eq]
  refine congrArg b.withConversations (List.ext_getElem? fun j => ?_)
  rw [List.getElem?_map, List.getElem?_set]
  by_cases hj : i = j
  · subst hj
    have hget : b.manager.conversations[i]? = some c := hc
    obtain ⟨hlt, -⟩ := List.getElem?_eq_some_iff.1 hget
    simp only [hget, Option.map_some, hplay, hlt, if_true]
  · simp only [hj, if_false]
    cases hget : b.manager.conversations[j]? with
    | none => rfl
    | some c₁ => rw [Option.map_some, hothers j c₁ (Ne.symm hj) hget]

theorem applyAll_self (h : ∀ j c, b.conversation? j = some c → b.play c (events c) = c) : b.applyAll events = b := by
  have hmap : b.manager.conversations.map (fun c => b.play c (events c)) = b.manager.conversations := by
    refine List.ext_getElem? fun j => ?_
    rw [List.getElem?_map]
    cases hget : b.manager.conversations[j]? with
    | none => rfl
    | some c => rw [Option.map_some, h j c hget]
  rw [applyAll_eq, hmap]
  rfl

/-! Conversations on which nothing is under way. -/

theorem play_self {es : List Conversation.Event} (h : ∀ e ∈ es, c.apply b.manager.worker e = c) : b.play c es = c := by
  induction es with
  | nil => rfl
  | cons e es ih =>
    rw [play, List.foldl_cons, h e List.mem_cons_self]
    exact ih fun e' he' => h e' (List.mem_cons_of_mem e he')

/-- A conversation whose receivers have seen which connections are closed. -/
def noticed (c : Conversation) : Conversation := { c with connections := c.connections.map Connection.noticeClosed }

theorem noticed_self (h : ∀ k ∈ c.connections, k.noticeClosed = k) : noticed c = c := by
  have hsame : c.connections.map Connection.noticeClosed = c.connections := by
    rw [List.map_congr_left h, List.map_id']
  rw [noticed, hsame]

theorem play_notice (b : Bench) (c : Conversation) :
    b.play c ((List.range c.connections.length).map .noticeClosed) = noticed c := by
  have hfold : ∀ (js : List Nat) (ks : List Connection),
      b.play { c with connections := ks } (js.map .noticeClosed) =
        { c with connections := js.foldl (fun ks j => ks.modify j Connection.noticeClosed) ks } := by
    intro js
    induction js with
    | nil => exact fun _ => rfl
    | cons j js ih => exact fun ks => ih (ks.modify j Connection.noticeClosed)
  rw [noticed, ← foldl_range_length]
  exact hfold _ c.connections

theorem notice_one (hc : b.conversation? i = some c)
    (hothers : ∀ j c₁, j ≠ i → b.conversation? j = some c₁ → ∀ k ∈ c₁.connections, k.noticeClosed = k) :
    b.notice = b.withConversations (b.manager.conversations.set i (noticed c)) :=
  applyAll_one hc (b.play_notice c) fun j c₁ hj hc₁ => (b.play_notice c₁).trans (noticed_self (hothers j c₁ hj hc₁))

theorem notice_self (h : ∀ j c, b.conversation? j = some c → ∀ k ∈ c.connections, k.noticeClosed = k) :
    b.notice = b :=
  applyAll_self fun j c hc => (b.play_notice c).trans (noticed_self (h j c hc))

theorem dialAll_self (h : ∀ j c, b.conversation? j = some c → ∀ t ∈ c.threads, t.call.dialling? = none) :
    b.dialAll = b := by
  have hone : ∀ j, ((b.conversation? j).elim [] fun c => c.threads.filterMap (·.call.dialling?)) = [] := by
    intro j
    cases hc : b.conversation? j with
    | none => rfl
    | some c => exact List.filterMap_eq_nil_iff.2 fun t ht => h j c hc t ht
  have hall : ∀ js : List Nat, js.foldl (fun b i =>
      ((b.conversation? i).elim [] fun c => c.threads.filterMap (·.call.dialling?)).foldl
        (fun b p => b.dial i p.1 p.2) b) b = b := by
    intro js
    induction js with
    | nil => rfl
    | cons j js ih =>
      rw [List.foldl_cons, hone j]
      exact ih
  exact hall _

theorem advance_idle (h : c.Idle) (w : Worker) (id : Nat) : c.apply w (.advance id) = c :=
  Conversation.advance_ended (fun t ht => h t (List.mem_of_getElem? ht)) w

/-- Of the calls only the last one takes a step when all others have ended. -/
theorem play_advance {ts : List Thread} {call : Call} (hts : ∀ t ∈ ts, ∃ outcome, t.call = .returned outcome)
    (hthreads : c.threads = ts ++ [{ call := call }]) :
    b.play c ((List.range c.threads.length).map .advance) = c.advance b.manager.worker ts.length := by
  have hlen : c.threads.length = ts.length + 1 := by
    rw [hthreads, List.length_append]
    rfl
  have hfirst : b.play c ((List.range ts.length).map .advance) = c := by
    refine play_self fun e he => ?_
    obtain ⟨j, hj, rfl⟩ := List.mem_map.1 he
    refine Conversation.advance_ended (fun t ht => ?_) _
    rw [hthreads, List.getElem?_append_left (List.mem_range.1 hj)] at ht
    exact hts t (List.mem_of_getElem? ht)
  rw [hlen, List.range_succ, List.map_append, play, List.foldl_append]
  exact congrArg (fun c => Conversation.advance b.manager.worker c ts.length) hfirst

/-! Wires on which nothing is under way. -/

/-- All that was written has been read, and each side knows whether the other has closed. -/
structure Carried (wire : Wire) (stream : Stream) (session : Session) : Prop where
  forwarded : wire.forwarded = stream.written.length
  delivered : wire.delivered = session.written.length
  hungUp : wire.hungUp = stream.shut
  ended : wire.ended = session.ended

instance (wire : Wire) (stream : Stream) (session : Session) : Decidable (Carried wire stream session) :=
  decidable_of_iff
    (wire.forwarded = stream.written.length ∧ wire.delivered = session.written.length ∧ wire.hungUp = stream.shut ∧
      wire.ended = session.ended)
    ⟨fun ⟨hf, hd, hh, he⟩ => ⟨hf, hd, hh, he⟩, fun h => ⟨h.forwarded, h.delivered, h.hungUp, h.ended⟩⟩

def Still (b : Bench) (wire : Wire) : Prop :=
  ∀ stream ∈ (b.connection? wire.conversation wire.connection).bind (·.stream? 0),
    Carried wire stream ((b.entity.sessions[wire.session]?).getD {})

instance (b : Bench) (wire : Wire) : Decidable (b.Still wire) := Option.decidableForallMem _

theorem carry_still (hk : b.wires[k]? = some wire) (h : b.Still wire) : b.carry k = b := by
  unfold carry
  rw [hk]
  simp only
  cases hs : (b.connection? wire.conversation wire.connection).bind (·.stream? 0) with
  | none => rfl
  | some stream =>
    have hcarried := h stream hs
    simp only [hcarried.forwarded, hcarried.hungUp, List.drop_length, List.isEmpty_nil, if_true, Bool.and_not_self,
      Bool.false_eq_true, if_false]
    generalize (b.entity.sessions[wire.session]?).getD {} = session at hcarried
    have hwire : ({ wire with
        forwarded := stream.written.length, delivered := session.written.length, hungUp := stream.shut,
        ended := session.ended } : Wire) = wire := by
      rw [← hcarried.forwarded, ← hcarried.delivered, ← hcarried.hungUp, ← hcarried.ended]
    have hset : b.wires.set k wire = b.wires := by
      obtain ⟨hlt, heq⟩ := List.getElem?_eq_some_iff.1 hk
      rw [← heq]
      exact List.set_getElem_self hlt
    simp only [hcarried.delivered, hcarried.ended, List.drop_length, List.isEmpty_nil, if_true, Bool.and_not_self,
      Bool.false_eq_true, if_false, List.append_nil, List.foldl_nil, hwire, hset]

theorem foldl_self {α β : Type} {f : β → α → β} {x : β} {l : List α} (h : ∀ a ∈ l, f x a = x) : l.foldl f x = x := by
  induction l with
  | nil => rfl
  | cons a l ih =>
    rw [List.foldl_cons, h a List.mem_cons_self]
    exact ih fun a' ha' => h a' (List.mem_cons_of_mem a ha')

/-- Over a range in which only one number does anything. -/
theorem foldl_range_one {β : Type} {f : β → Nat → β} {x : β} {n : Nat} (hk : k < n) (hbefore : ∀ j, j ≠ k → f x j = x)
    (hafter : ∀ j, j ≠ k → f (f x k) j = f x k) : (List.range n).foldl f x = f x k := by
  obtain ⟨m, rfl⟩ : ∃ m, n = k + 1 + m := ⟨n - (k + 1), by omega⟩
  have hfirst : (List.range k).foldl f x = x :=
    foldl_self fun j hj => hbefore j (Nat.ne_of_lt (List.mem_range.1 hj))
  have hlast : ((List.range m).map (k + 1 + ·)).foldl f (f x k) = f x k := by
    refine foldl_self fun j hj => hafter j ?_
    obtain ⟨i, -, rfl⟩ := List.mem_map.1 hj
    omega
  rw [List.range_add, List.foldl_append, List.range_succ, List.foldl_append, hfirst]
  exact hlast

theorem carry_self (h : ∀ wire, b.wires[k]? = some wire → b.Still wire) : b.carry k = b := by
  cases hk : b.wires[k]? with
  | none =>
    unfold carry
    rw [hk]
  | some wire => exact carry_still hk (h wire hk)

theorem carryAll_self (h : ∀ (j : Nat) (wire : Wire), b.wires[j]? = some wire → b.Still wire) :
    b.carryAll = b :=
  foldl_self fun j _ => carry_self (h j)

theorem carryAll_one (hk : k < b.wires.length)
    (hbefore : ∀ (j : Nat) (wire : Wire), j ≠ k → b.wires[j]? = some wire → b.Still wire)
    (hafter : ∀ (j : Nat) (wire : Wire), j ≠ k → (b.carry k).wires[j]? = some wire → (b.carry k).Still wire) :
    b.carryAll = b.carry k :=
  foldl_range_one hk (fun j hj => carry_self fun wire => hbefore j wire hj)
    fun j hj => carry_self fun wire => hafter j wire hj

/-! A bench at rest. -/

/-- A conversation on which no call is under way and whose receivers know of every connection that is closed. -/
structure Resting (c : Conversation) : Prop where
  idle : c.Idle
  noticed : ∀ k ∈ c.connections, k.noticeClosed = k

instance (c : Conversation) : Decidable (Resting c) :=
  decidable_of_iff (c.Idle ∧ ∀ k ∈ c.connections, k.noticeClosed = k)
    ⟨fun h => ⟨h.1, h.2⟩, fun h => ⟨h.idle, h.noticed⟩⟩

structure Quiet (b : Bench) : Prop where
  conversations : ∀ (j : Nat) (c : Conversation), b.conversation? j = some c → Resting c
  wires : ∀ (j : Nat) (wire : Wire), b.wires[j]? = some wire → b.Still wire

instance (b : Bench) : Decidable b.Quiet :=
  decidable_of_iff ((∀ c ∈ b.manager.conversations, Resting c) ∧ ∀ wire ∈ b.wires, b.Still wire)
    ⟨fun h => ⟨fun _ c hc => h.1 c (List.mem_of_getElem? hc),
        fun _ wire hwire => h.2 wire (List.mem_of_getElem? hwire)⟩,
      fun h => ⟨fun c hc => (List.mem_iff_getElem?.1 hc).elim fun j => h.conversations j c,
        fun wire hwire => (List.mem_iff_getElem?.1 hwire).elim fun j => h.wires j wire⟩⟩

theorem dialling?_returned {t : Thread} (h : ∃ outcome, t.call = .returned outcome) : t.call.dialling? = none := by
  obtain ⟨outcome, h⟩ := h
  rw [h]
  rfl

theorem Quiet.round (h : b.Quiet) : b.round = b := by
  have hnotice : b.notice = b := notice_self fun j c hc => (h.conversations j c hc).noticed
  have hdial : b.dialAll = b :=
    dialAll_self fun j c hc t ht => dialling?_returned ((h.conversations j c hc).idle t ht)
  have hcarry : b.carryAll = b := carryAll_self h.wires
  have hadvance : b.advanceAll = b := by
    refine applyAll_self fun j c hc => play_self fun e he => ?_
    obtain ⟨n, -, rfl⟩ := List.mem_map.1 he
    exact advance_idle (h.conversations j c hc).idle b.manager.worker n
  rw [Bench.round, hnotice, hdial, hcarry, hadvance]

theorem repeat_succ (n : Nat) (b : Bench) : Nat.repeat round (n + 1) b = (Nat.repeat round n b).round := rfl

theorem repeat_one (b : Bench) : Nat.repeat round 1 b = b.round := rfl

theorem repeat_add (n m : Nat) (b : Bench) :
    Nat.repeat round (n + m) b = Nat.repeat round m (Nat.repeat round n b) := by
  induction m with
  | zero => rfl
  | succ m ih => rw [← Nat.add_assoc, repeat_succ, ih, repeat_succ]

/-- A bench that no round changes any more after some of them has settled there. -/
theorem repeat_round {b' : Bench} {n m : Nat} (hreach : Nat.repeat round n b = b') (hstill : b'.round = b')
    (hle : n ≤ m) : Nat.repeat round m b = b' := by
  obtain ⟨d, rfl⟩ := Nat.exists_eq_add_of_le hle
  induction d with
  | zero => exact hreach
  | succ d ih =>
    rw [← Nat.add_assoc, repeat_succ, ih (Nat.le_add_right n d), hstill]

theorem settle_eq {b' : Bench} {n : Nat} (hreach : Nat.repeat round n b = b') (hstill : b'.round = b')
    (hle : n ≤ 16) : b.settle = b' := by
  have hrounds : 16 ≤ 16 * (b.calls.countP Call.isOpen + 1) := by omega
  exact repeat_round hreach hstill (Nat.le_trans hle hrounds)

theorem settle_still (h : b.round = b) : b.settle = b := @settle_eq b b 0 rfl h (Nat.zero_le 16)

theorem Quiet.settle (h : b.Quiet) : b.settle = b := settle_still h.round

/-- A call that returns while the bench settles has returned at its end, and no time has passed. -/
theorem call_eq {b' : Bench} {operation : Operation} {outcome : Outcome} (hc : b.conversation? i = some c) {n : Nat}
    (hreach : Nat.repeat round n (b.apply i (.call operation false)) = b') (hle : n ≤ 16) (hquiet : b'.Quiet)
    (hout : b'.outcome? i c.threads.length = some outcome) : b.call i operation = (b', some outcome) := by
  have hsettle := settle_eq hreach hquiet.round hle
  have hid : (b.conversation? i).elim 0 (·.threads.length) = c.threads.length := by
    rw [hc]
    rfl
  have hdone : b'.await (fun b => (b.outcome? i c.threads.length).isSome) = b' := by
    rw [await, hquiet.settle, patience]
    show awaitWithin (4 * b'.calls.length + 3 + 1) _ b' = b'
    rw [awaitWithin, if_pos (by rw [hout]; rfl)]
  simp only [call, start, finish, hid, hsettle, hdone, hout]

end Doip.Bench
