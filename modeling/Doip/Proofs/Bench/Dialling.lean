import Doip.Proofs.Bench.Time
import Doip.Proofs.Conversation.Connecting

/-! How a connect gets its stream. Up to the attempt itself nothing but the conversation changes (`Quiet.round_swap`);
then there is one wire and one session more (`opened`), and what the connect has taken out of the slot says goodbye at
the same time (`Parting.carry`). From there on the connect goes along a line of its own (`Vacant.opens`). -/

namespace Doip.Bench

variable {b : Bench} {i j conn : Nat} {c c' c₀ : Conversation} {k k' : Connection} {s s' : Stream} {wire : Wire}
variable {session session' : Session} {call : Call} {target : Address} {host : Option IpAddress} {endpoint : Endpoint}

/-! One conversation in the place of another. -/

/-- A bench with one conversation exchanged. -/
def swap (b : Bench) (i : Nat) (c : Conversation) : Bench :=
  b.withConversations (b.manager.conversations.set i c)

theorem conversation_swap (hi : b.conversation? i = some c) (c' : Conversation) :
    (b.swap i c').conversation? i = some c' := by
  obtain ⟨hlt, -⟩ := List.getElem?_eq_some_iff.1 (show b.manager.conversations[i]? = some c from hi)
  exact List.getElem?_set_self hlt

theorem conversation_swap_of_ne (hj : j ≠ i) (c : Conversation) : (b.swap i c).conversation? j = b.conversation? j :=
  List.getElem?_set_ne (Ne.symm hj)

theorem swap_swap (b : Bench) (i : Nat) (c c' : Conversation) : (b.swap i c).swap i c' = b.swap i c' := by
  simp only [swap, withConversations, List.set_set]

theorem swap_self (hi : b.conversation? i = some c) : b.swap i c = b := by
  have hget : b.manager.conversations[i]? = some c := hi
  obtain ⟨-, rfl⟩ := List.getElem?_eq_some_iff.1 hget
  rw [swap, List.set_getElem_self]
  rfl

theorem put_swap {l : Line} (hc : b.conversation? l.conversation = some c) (hwire : b.wires[l.wire]? = some wire)
    (hsession : b.entity.sessions[l.session]? = some session) (c₀ : Conversation) :
    l.put (b.swap l.conversation c₀) ⟨c, wire, session, []⟩ = b := by
  have hself := put_self hc hwire hsession
  simp only [Line.put, swap, withConversations, List.set_set] at hself ⊢
  exact hself

theorem apply_swap (hi : b.conversation? i = some c) (e : Conversation.Event) :
    b.apply i e = b.swap i (c.apply b.manager.worker e) := by
  have hmodify : b.manager.conversations.modify i (·.apply b.manager.worker e) =
      b.manager.conversations.set i (c.apply b.manager.worker e) := by
    refine List.ext_getElem? fun j => ?_
    rw [List.getElem?_modify, List.getElem?_set]
    by_cases hj : i = j
    · subst hj
      have hget : b.manager.conversations[i]? = some c := hi
      obtain ⟨hlt, rfl⟩ := List.getElem?_eq_some_iff.1 hget
      simp [hlt]
    · simp [hj]
  simp only [Bench.apply, Manager.apply, hmodify, swap, withConversations]

/-- A round in which nothing is on the wires lets the only call under way take a step. -/
theorem Quiet.round_swap (h : b.Quiet) (hi : b.conversation? i = some c) (c' : Conversation)
    (hthreads : c'.threads = c.threads ++ [{ call := call }]) (hcall : call.dialling? = none)
    (hstill : ∀ (j : Nat) (wire : Wire), b.wires[j]? = some wire → (b.swap i (noticed c')).Still wire) :
    (b.swap i c').round = b.swap i ((noticed c').advance b.manager.worker c.threads.length) := by
  have hnotice : (b.swap i c').notice = b.swap i (noticed c') := by
    have hone : (b.swap i c').notice = (b.swap i c').swap i (noticed c') :=
      notice_one (conversation_swap hi c') fun j c₁ hj hc₁ => by
        rw [conversation_swap_of_ne hj] at hc₁
        exact (h.conversations j c₁ hc₁).noticed
    rw [hone, swap_swap]
  have hdial : (b.swap i (noticed c')).dialAll = b.swap i (noticed c') := by
    refine dialAll_self fun j c₁ hj t ht => ?_
    by_cases hji : j = i
    · subst hji
      rw [conversation_swap hi, Option.some.injEq] at hj
      subst hj
      rw [show (noticed c').threads = _ from hthreads, List.mem_append, List.mem_singleton] at ht
      rcases ht with ht | rfl
      · exact dialling?_returned ((h.conversations j c hi).idle t ht)
      · exact hcall
    · rw [conversation_swap_of_ne hji] at hj
      exact dialling?_returned ((h.conversations j c₁ hj).idle t ht)
  have hcarry : (b.swap i (noticed c')).carryAll = b.swap i (noticed c') := carryAll_self hstill
  have hadvance : (b.swap i (noticed c')).advanceAll =
      (b.swap i (noticed c')).swap i ((noticed c').advance b.manager.worker c.threads.length) :=
    applyAll_one (conversation_swap hi _) (play_advance (h.conversations i c hi).idle hthreads) fun j c₁ hj hc₁ => by
      rw [conversation_swap_of_ne hj] at hc₁
      refine play_self fun e he => ?_
      obtain ⟨n, -, rfl⟩ := List.mem_map.1 he
      exact advance_idle (h.conversations j c₁ hc₁).idle _ n
  rw [Bench.round, hnotice, hdial, hcarry, hadvance, swap_swap]

/-- A connection on which a wire finds as much as on another. -/
def Alike (k k' : Connection) : Prop :=
  ∀ s' ∈ k'.stream? 0, ∃ s ∈ k.stream? 0, s'.written = s.written ∧ s'.shut = s.shut

theorem Alike.refl (k : Connection) : Alike k k := fun s hs => ⟨s, hs, rfl, rfl⟩

theorem alike_noticeClosed (k : Connection) : Alike k k.noticeClosed := by
  obtain ⟨settings, server, state, closed, dial, stream, former, early⟩ := k
  intro s hs
  cases closed with
  | false => exact ⟨s, hs, rfl, rfl⟩
  | true =>
    cases former with
    | nil =>
      cases stream with
      | none => cases hs
      | some s₀ =>
        obtain rfl := Option.some.inj hs
        exact ⟨s₀, rfl, rfl, rfl⟩
    | cons s₀ former =>
      obtain rfl := Option.some.inj hs
      exact ⟨s₀, rfl, rfl, rfl⟩

theorem still_swap (hi : b.conversation? i = some c) (hstill : b.Still wire)
    (halike : wire.conversation = i → ∀ k', c'.connections[wire.connection]? = some k' →
      ∃ k, c.connections[wire.connection]? = some k ∧ Alike k k') : (b.swap i c').Still wire := by
  by_cases hw : wire.conversation = i
  · intro s' hs'
    simp only [connection?, hw, conversation_swap hi, Option.bind_some] at hs'
    obtain ⟨k', hk', hs'⟩ := Option.bind_eq_some_iff.1 hs'
    obtain ⟨k, hk, hsame⟩ := halike hw k' hk'
    obtain ⟨s, hs, hwritten, hshut⟩ := hsame s' hs'
    have hcarried := hstill s (by simp only [connection?, hw, hi, Option.bind_some, hk]; exact hs)
    exact ⟨hwritten ▸ hcarried.forwarded, hcarried.delivered, hshut ▸ hcarried.hungUp, hcarried.ended⟩
  · intro s hs
    simp only [connection?, conversation_swap_of_ne hw] at hs
    exact hstill s hs

theorem Quiet.round_calling (h : b.Quiet) (hi : b.conversation? i = some c) (call : Call)
    (hcall : call.dialling? = none) :
    (b.swap i (c.calling call)).round =
      b.swap i ((c.calling call).advance b.manager.worker c.threads.length) := by
  have hsame : noticed (c.calling call) = c.calling call :=
    noticed_self (c := c.calling call) (h.conversations i c hi).noticed
  have hround := h.round_swap hi (c.calling call) rfl hcall fun j wire hj => by
    rw [hsame]
    exact still_swap hi (h.wires j wire hj) fun _ k' hk' => ⟨k', hk', .refl k'⟩
  rwa [hsame] at hround

/-! What is closed in passing. -/

/-- Every wire leads from a connection of its own to a session of its own. -/
structure Cabled (b : Bench) : Prop where
  connection : ∀ wire ∈ b.wires, (b.connection? wire.conversation wire.connection).isSome = true
  session : ∀ wire ∈ b.wires, wire.session < b.entity.sessions.length
  apart : b.wires.Pairwise fun wire wire' =>
    (wire.conversation, wire.connection) ≠ (wire'.conversation, wire'.connection) ∧ wire.session ≠ wire'.session

theorem Cabled.ends_ne (h : b.Cabled) {wire' : Wire} (hj : j ≠ i) (hwire : b.wires[j]? = some wire)
    (hwire' : b.wires[i]? = some wire') :
    (wire.conversation, wire.connection) ≠ (wire'.conversation, wire'.connection) ∧ wire.session ≠ wire'.session := by
  obtain ⟨hlt, rfl⟩ := List.getElem?_eq_some_iff.1 hwire
  obtain ⟨hlt', rfl⟩ := List.getElem?_eq_some_iff.1 hwire'
  rcases Nat.lt_or_gt_of_ne hj with hj | hj
  · exact List.pairwise_iff_getElem.1 h.apart _ _ hlt hlt' hj
  · obtain ⟨hends, hsession⟩ := List.pairwise_iff_getElem.1 h.apart _ _ hlt' hlt hj
    exact ⟨Ne.symm hends, Ne.symm hsession⟩

/-- A bench on which a wire is behind all that happened at both its ends. -/
def hangUp (b : Bench) (j : Nat) (wire : Wire) (s : Stream) (session : Session) : Bench :=
  { b with
    entity := { b.entity with sessions := b.entity.sessions.set wire.session session }
    wires := b.wires.set j (Wire.caughtUp wire s session) }

/-- A wire from a connection whose stream has been let go of, to a session that says nothing more. -/
structure Parting (b : Bench) (j : Nat) (wire : Wire) (s : Stream) (session session' : Session) : Prop where
  laid : b.wires[j]? = some wire
  released : ∃ k, b.connection? wire.conversation wire.connection = some k ∧ k.stream = none ∧ k.stream? 0 = some s
  reached : b.entity.sessions[wire.session]? = some session
  hears : hears b.entity.script session [] (s.shut && !wire.hungUp) = (session', [])
  forwarded : wire.forwarded = s.written.length
  delivered : wire.delivered = session'.written.length

theorem Parting.carry (h : b.Parting j wire s session session') : b.carry j = b.hangUp j wire s session' := by
  obtain ⟨hj, ⟨k, hk, hnone, hs⟩, hsession, hhears, hforwarded, hdelivered⟩ := h
  have hnothing : s.written.drop wire.forwarded = [] := by rw [hforwarded, List.drop_length]
  have hsilent : session'.written.drop wire.delivered = [] := by rw [hdelivered, List.drop_length]
  have hentity : (if (s.shut && !wire.hungUp) = true then b.entity.close wire.session else b.entity) =
      { b.entity with sessions := b.entity.sessions.set wire.session session' } := by
    refine (receive_hears hsession (by rfl) hhears).trans ?_
    rw [List.append_nil]
  have hlt := (List.getElem?_eq_some_iff.1 hsession).1
  have hnotice : ∀ (b' : Bench), b'.connection? wire.conversation wire.connection = some k →
      b'.apply wire.conversation (.arrive wire.connection .endOfStream) = b' := by
    intro b' hk'
    obtain ⟨c, hc, hk'⟩ := Option.bind_eq_some_iff.1 hk'
    have hsame : c.apply b'.manager.worker (.arrive wire.connection .endOfStream) = c :=
      Conversation.modifyConnection_same hk' (by rw [Connection.arrive, hnone])
    rw [apply_swap hc, hsame, swap_self hc]
  unfold Bench.carry hangUp
  rw [hj]
  simp only [hk, Option.bind_some, hs, hnothing, List.isEmpty_nil, if_true, hentity, List.getElem?_set_self hlt,
    Option.getD_some, hsilent, List.nil_append]
  cases session'.ended && !wire.ended with
  | false => rfl
  | true => exact hnotice _ hk

theorem Parting.carryAll (h : b.Parting j wire s session session')
    (hothers : ∀ (j' : Nat) (wire' : Wire), j' ≠ j → b.wires[j']? = some wire' →
      b.Still wire' ∧ wire'.session ≠ wire.session) :
    b.carryAll = b.hangUp j wire s session' ∧
      ∀ (j' : Nat) (wire' : Wire), (b.hangUp j wire s session').wires[j']? = some wire' →
        (b.hangUp j wire s session').Still wire' := by
  have hlt := (List.getElem?_eq_some_iff.1 h.laid).1
  have hsession := (List.getElem?_eq_some_iff.1 h.reached).1
  have hstill : ∀ (j' : Nat) (wire' : Wire), j' ≠ j → (b.hangUp j wire s session').wires[j']? = some wire' →
      (b.hangUp j wire s session').Still wire' := by
    intro j' wire' hj' hwire'
    have hbefore : b.wires[j']? = some wire' := (List.getElem?_set_ne (Ne.symm hj')).symm.trans hwire'
    obtain ⟨hstill, hne⟩ := hothers j' wire' hj' hbefore
    have hsame : (b.hangUp j wire s session').entity.sessions[wire'.session]? = b.entity.sessions[wire'.session]? :=
      List.getElem?_set_ne (Ne.symm hne)
    intro s' hs'
    rw [hsame]
    exact hstill s' hs'
  have hcarry := h.carry
  refine ⟨(carryAll_one hlt (fun j' wire' hj' hwire' => (hothers j' wire' hj' hwire').1)
    fun j' wire' hj' hwire' => ?_).trans hcarry, fun j' wire' hwire' => ?_⟩
  · rw [hcarry] at hwire' ⊢
    exact hstill j' wire' hj' hwire'
  · by_cases hj' : j' = j
    · obtain ⟨k, hk, -, hs⟩ := h.released
      have hself : (b.hangUp j wire s session').wires[j]? = some (Wire.caughtUp wire s session') :=
        List.getElem?_set_self hlt
      rw [hj', hself, Option.some.injEq] at hwire'
      subst hwire'
      intro s' hs'
      have hs' : (b.connection? wire.conversation wire.connection).bind (·.stream? 0) = some s' := hs'
      rw [hk, Option.bind_some, hs, Option.some.injEq] at hs'
      have hget : (b.hangUp j wire s session').entity.sessions[wire.session]? = some session' :=
        List.getElem?_set_self hsession
      show Carried _ _ (((b.hangUp j wire s session').entity.sessions[wire.session]?).getD {})
      rw [hget, ← hs']
      exact Wire.carried_caughtUp wire s session'
    · exact hstill j' wire' hj' hwire'

/-! The stream. -/

/-- The way from a connection to the session that is begun next. -/
def lineTo (b : Bench) (i conn : Nat) : Line := ⟨i, conn, b.wires.length, b.entity.sessions.length⟩

def Line.fresh (l : Line) : Wire := { conversation := l.conversation, connection := l.connection, session := l.session }

/-- A bench on which a connection has got its stream. -/
def opened (b : Bench) (l : Line) (c : Conversation) : Bench :=
  { b.swap l.conversation c with entity := b.entity.accept, wires := b.wires ++ [l.fresh] }

theorem wire_opened {l : Line} (h : (b.opened l c).wires[j]? = some wire) :
    (j = b.wires.length ∧ wire = l.fresh) ∨ b.wires[j]? = some wire := by
  have hlt : j < (b.wires ++ [l.fresh]).length := (List.getElem?_eq_some_iff.1 h).1
  rw [List.length_append, List.length_singleton] at hlt
  rcases Nat.lt_or_eq_of_le (Nat.lt_succ_iff.1 hlt) with hlt | rfl
  · exact .inr ((List.getElem?_append_left hlt).symm.trans h)
  · exact .inl ⟨rfl, (Option.some.inj (List.getElem?_concat_length.symm.trans h)).symm⟩

theorem opened_swap (b : Bench) (l : Line) (c c' : Conversation) :
    (b.swap l.conversation c).opened l c' = b.opened l c' := by
  simp only [opened, swap_swap]
  rfl

theorem dialAll_one {ts : List Thread} (hi : b.conversation? i = some c)
    (hthreads : c.threads = ts ++ [{ call := call }])
    (hts : ∀ t ∈ ts, ∃ outcome, t.call = .returned outcome) (hcall : call.dialling? = some (conn, endpoint))
    (hothers : ∀ j c₁, j ≠ i → b.conversation? j = some c₁ → c₁.Idle) (hk : c.connections[conn]? = some k)
    (hpending : k.dial = .pending) (hreach : b.network.dial (b.listener endpoint) = .established) :
    b.dialAll =
      b.opened (b.lineTo i conn) (c.modifyConnection conn fun k => { k with dial := .established }) := by
  have hattempts : c.threads.filterMap (·.call.dialling?) = [(conn, endpoint)] := by
    have hnone : ts.filterMap (·.call.dialling?) = [] :=
      List.filterMap_eq_nil_iff.2 fun t ht => dialling?_returned (hts t ht)
    rw [hthreads, List.filterMap_append, hnone]
    simp [hcall]
  have hdial : b.dial i conn endpoint =
      b.opened (b.lineTo i conn) (c.modifyConnection conn fun k => { k with dial := .established }) := by
    have hopen : (b.connection? i conn).map (·.dial) = some .pending := by
      simp only [connection?, hi, Option.bind_some, hk, Option.map_some, hpending]
    rw [dial, if_pos hopen]
    simp only [hreach, if_true, apply_swap hi]
    rfl
  have hlt := (List.getElem?_eq_some_iff.1 (show b.manager.conversations[i]? = some c from hi)).1
  refine (foldl_range_one hlt (fun j hj => ?_) fun j hj => ?_).trans ?_
  · cases hc₁ : b.conversation? j with
    | none => rfl
    | some c₁ =>
      have hnone : c₁.threads.filterMap (·.call.dialling?) = [] :=
        List.filterMap_eq_nil_iff.2 fun t ht => dialling?_returned (hothers j c₁ hj hc₁ t ht)
      simp only [Option.elim_some, hnone, List.foldl_nil]
  · simp only [hi, Option.elim_some, hattempts, List.foldl_cons, List.foldl_nil, hdial]
    have hsame : (b.opened (b.lineTo i conn)
        (c.modifyConnection conn fun k => { k with dial := .established })).conversation? j = b.conversation? j :=
      List.getElem?_set_ne (Ne.symm hj)
    rw [hsame]
    cases hc₁ : b.conversation? j with
    | none => rfl
    | some c₁ =>
      have hnone : c₁.threads.filterMap (·.call.dialling?) = [] :=
        List.filterMap_eq_nil_iff.2 fun t ht => dialling?_returned (hothers j c₁ hj hc₁ t ht)
      simp only [Option.elim_some, hnone, List.foldl_nil]
  · simp only [hi, Option.elim_some, hattempts, List.foldl_cons, List.foldl_nil, hdial]

/-- A bench with a new line along which nothing has gone. -/
structure Laid (b b' : Bench) (l : Line) (c : Conversation) : Prop where
  manager : b'.manager = (b.swap l.conversation c).manager
  script : b'.entity.script = b.entity.script
  observations : b'.entity.observations = b.entity.observations
  sessions : b'.entity.sessions.length = b.entity.sessions.length + 1
  wire : b'.wires[l.wire]? = some l.fresh
  session : b'.entity.sessions[l.session]? = some {}
  late : ∀ (j : Nat) (session : Session), b'.entity.sessions[j]? = some session → session.late = none
  apart : ∀ (j : Nat) (wire : Wire), j ≠ l.wire → b'.wires[j]? = some wire →
    (wire.conversation, wire.connection) ≠ (l.conversation, l.connection) ∧ wire.session ≠ l.session

theorem Laid.hangUp {b' : Bench} {l : Line} (h : Laid b b' l c) (hj : j ≠ l.wire) (hwire : b'.wires[j]? = some wire)
    (hlate : session'.late = none) (s : Stream) : Laid b (b'.hangUp j wire s session') l c := by
  have hne := (h.apart j wire hj hwire).2
  refine ⟨h.manager, h.script, h.observations, ?_, ?_, ?_, fun j' session hget => ?_, fun j' other hj' hother => ?_⟩
  · exact (List.length_set).trans h.sessions
  · exact (List.getElem?_set_ne hj).trans h.wire
  · exact (List.getElem?_set_ne hne).trans h.session
  · have hget : (b'.entity.sessions.set wire.session session')[j']? = some session := hget
    by_cases hj' : wire.session = j'
    · obtain ⟨hlt, hget⟩ := List.getElem?_eq_some_iff.1 hget
      rw [List.getElem_set, if_pos hj'] at hget
      exact hget ▸ hlate
    · exact h.late j' session ((List.getElem?_set_ne hj').symm.trans hget)
  · have hother : (b'.wires.set j (Wire.caughtUp wire s session'))[j']? = some other := hother
    by_cases heq : j = j'
    · obtain ⟨hlt, hother⟩ := List.getElem?_eq_some_iff.1 hother
      rw [List.getElem_set, if_pos heq] at hother
      exact hother ▸ h.apart j wire hj hwire
    · exact h.apart j' other hj' ((List.getElem?_set_ne heq).symm.trans hother)

/-- A bench on which a connect has got its stream and is about to ask for activation, and nothing else is under way. -/
structure Opened (b b' : Bench) (i : Nat) (c : Conversation) (call : Nat → Call) (target : Address) (l : Line)
    (c₀ c' : Conversation) (k : Connection) : Prop where
  around : b'.Around l c₀
  calm : b'.Calm
  script : b'.entity.script = b.entity.script
  observations : b'.entity.observations = b.entity.observations
  sessions : b'.entity.sessions.length = b.entity.sessions.length + 1
  threads : c₀.threads = c.threads
  conversation : l.conversation = i
  session : l.session = b.entity.sessions.length
  working : Conversation.Working c₀ c' l.connection k [] (call l.connection)
  wired : Wired k {}
  settings : k.settings = .of c.settings c.version
  server : k.server = target

/-! A conversation that can connect. -/

/-- A running conversation that has no connection on which routing is activated, on a bench where nothing is under
way. -/
structure Vacant (b : Bench) (i : Nat) (c : Conversation) : Prop where
  awake : b.manager.worker.cancelled = false
  conversation : b.conversation? i = some c
  quiet : b.Quiet
  calm : b.Calm
  cabled : b.Cabled
  /-- A session that goes on has answered every whole frame. -/
  read : ∀ session ∈ b.entity.sessions, session.ended = true ∨ Script.codec.splitFrame session.unread = .ok none
  running : c.running = true
  unconnected : c.state ≠ .activated
  free : c.holder = none
  line : c.line = []
  slot : ∀ stale ∈ c.slot, ∀ k ∈ c.connections[stale]?, k.state ≠ .activated

namespace Vacant

theorem of_unconnected (hawake : b.manager.worker.cancelled = false) (hi : b.conversation? i = some c)
    (hrunning : c.running = true) (hfree : c.holder = none) (hline : c.line = [])
    (hconversations : ∀ (j : Nat) (c' : Conversation), b.conversation? j = some c' →
      c'.Idle ∧ c'.connections = [] ∧ c'.timer.waits = [])
    (hwires : b.wires = []) (hsessions : b.entity.sessions = []) : b.Vacant i c where
  awake := hawake
  conversation := hi
  quiet := {
    conversations := fun j c' hj => ⟨(hconversations j c' hj).1, by simp [(hconversations j c' hj).2.1]⟩
    wires := by simp [hwires] }
  calm := {
    timers := fun j c' hj => (hconversations j c' hj).2.2
    sessions := by simp [hsessions] }
  cabled := { connection := by simp [hwires], session := by simp [hwires], apart := by simp [hwires] }
  read := by simp [hsessions]
  running := hrunning
  unconnected := by cases hlink : c.link <;> simp [Conversation.state, hlink, (hconversations i c hi).2.1]
  free := hfree
  line := hline
  slot := by simp [(hconversations i c hi).2.1]

/-- The conversation of a connect whose attempt is open. -/
def attempting (c : Conversation) (w : Worker) (target : Address) (host : Option IpAddress) (endpoint : Endpoint) :
    Conversation :=
  ((c.cleared c.threads.length).dialling w c.threads.length target).calling
    (.connect target host (.waiting endpoint c.connections.length .connect))

theorem noticed_dismissing (h : b.Vacant i c) {stale : Nat} (hslot : c.slot = some stale) :
    (noticed (c.dismissing c.threads.length stale)).modifyConnection stale Connection.finishDisconnect =
      c.cleared c.threads.length := by
  have hconnections : ((c.connections.modify stale Connection.beginDisconnect).map Connection.noticeClosed).modify stale
      Connection.finishDisconnect = c.connections.modify stale Connection.farewell := by
    refine List.ext_getElem? fun j => ?_
    rw [List.getElem?_modify, List.getElem?_map, List.getElem?_modify, List.getElem?_modify]
    cases hk : c.connections[j]? with
    | none => rfl
    | some k =>
      by_cases hj : stale = j
      · simp only [hj, if_true]
        rfl
      · have hk := (h.quiet.conversations i c h.conversation).noticed k (List.mem_of_getElem? hk)
        simp only [hj, if_false]
        exact congrArg some hk
  simp only [Conversation.cleared, hslot, Option.elim_some, ← hconnections]
  rfl

theorem queues (h : b.Vacant i c) (hto : c.resolve target host = some endpoint) :
    Nat.repeat Bench.round 3 (b.apply i (.call (.connect target host) false)) =
      b.swap i (c.calling (.connect target host (.queued endpoint))) := by
  have hstart : b.apply i (.call (.connect target host) false) =
      b.swap i (c.calling (.connect target host .entered)) := apply_swap h.conversation _
  have hround₁ := h.quiet.round_calling h.conversation (.connect target host .entered) rfl
  rw [Conversation.advance_entered h.running] at hround₁
  have hround₂ := h.quiet.round_calling h.conversation (.connect target host .checked) rfl
  rw [Conversation.advance_checked h.unconnected hto] at hround₂
  have hround₃ := h.quiet.round_calling h.conversation (.connect target host (.submitting endpoint)) rfl
  rw [Conversation.advance_submitting h.awake] at hround₃
  simp only [Nat.repeat, hstart, hround₁, hround₂, hround₃]

theorem alike_dismissing {stale id : Nat} (hk' : (noticed (c.dismissing id stale)).connections[j]? = some k') :
    ∃ k, c.connections[j]? = some k ∧ Alike k k' := by
  simp only [noticed, Conversation.dismissing, Conversation.modifyConnection, List.getElem?_map,
    List.getElem?_modify] at hk'
  cases hk : c.connections[j]? with
  | none =>
    rw [hk] at hk'
    cases hk'
  | some k =>
    rw [hk] at hk'
    refine ⟨k, rfl, ?_⟩
    by_cases hj : stale = j
    · simp only [hj, if_true] at hk'
      obtain rfl := Option.some.inj hk'
      exact alike_noticeClosed k.close
    · simp only [hj, if_false] at hk'
      obtain rfl := Option.some.inj hk'
      exact alike_noticeClosed k

theorem parts (h : b.Vacant i c) {stale : Nat} (hslot : c.slot = some stale) :
    (b.swap i ((c.dismissing c.threads.length stale).calling
        (.connect target host (.replacing endpoint stale)))).round =
      b.swap i (attempting c b.manager.worker target host endpoint) := by
  let dismissing := c.dismissing c.threads.length stale
  have hwaits := h.calm.timers i c h.conversation
  have hround := h.quiet.round_swap h.conversation
    (dismissing.calling (.connect target host (.replacing endpoint stale))) rfl rfl fun j wire hj =>
      still_swap h.conversation (h.quiet.wires j wire hj) fun _ _ => alike_dismissing
  have hrestart : ((noticed dismissing).calling (.connect target host (.replacing endpoint stale))).advance
      b.manager.worker c.threads.length = _ := Conversation.advance_restart h.awake hwaits
  have hlength : (noticed dismissing).connections.length = c.connections.length :=
    (List.length_map _).trans (List.length_modify _ _ _)
  rw [hround]
  refine congrArg (b.swap i) (hrestart.trans ?_)
  rw [h.noticed_dismissing hslot, hlength]
  rfl

theorem attempts (h : b.Vacant i c) (hto : c.resolve target host = some endpoint) :
    ∃ n ≤ 5, Nat.repeat Bench.round n (b.apply i (.call (.connect target host) false)) =
      b.swap i (attempting c b.manager.worker target host endpoint) := by
  have hqueued := h.queues hto
  have hround := h.quiet.round_calling h.conversation (.connect target host (.queued endpoint)) rfl
  have hwaits := h.calm.timers i c h.conversation
  cases hslot : c.slot with
  | none =>
    have hsame : { c with holder := some c.threads.length } = c.cleared c.threads.length := by
      simp only [Conversation.cleared, hslot, Option.elim_none]
    rw [Conversation.advance_start h.awake h.free hwaits hslot, hsame] at hround
    exact ⟨4, by decide, (repeat_succ 3 _).trans ((congrArg Bench.round hqueued).trans hround)⟩
  | some stale =>
    rw [Conversation.advance_part h.free hslot fun k hk => h.slot stale hslot k hk] at hround
    refine ⟨5, Nat.le_refl 5, ?_⟩
    rw [repeat_succ, repeat_succ, hqueued, hround, h.parts hslot]

/-! The round in which the stream is there. -/

/-- The conversation of a connect whose attempt has succeeded. -/
def reached (c : Conversation) (w : Worker) (target : Address) (host : Option IpAddress) (endpoint : Endpoint) :
    Conversation :=
  (attempting c w target host endpoint).modifyConnection c.connections.length fun k => { k with dial := .established }

def begun (c : Conversation) (w : Worker) (target : Address) : Connection where
  settings := .of c.settings c.version
  server := target
  state := .connecting
  closed := w.cancelled
  dial := .established

section Reached

variable {w : Worker}

theorem connection_attempting :
    (attempting c w target host endpoint).connections[c.connections.length]? =
      some { begun c w target with dial := .pending } := by
  rw [← c.length_cleared c.threads.length]
  exact List.getElem?_concat_length

theorem connection_reached :
    (reached c w target host endpoint).connections[c.connections.length]? = some (begun c w target) :=
  Conversation.getElem?_modifyConnection connection_attempting _

theorem earlier_reached (hj : j < c.connections.length) :
    (reached c w target host endpoint).connections[j]? = (c.cleared c.threads.length).connections[j]? := by
  have hlt : j < (c.cleared c.threads.length).connections.length := by rwa [Conversation.length_cleared]
  refine (Conversation.getElem?_modifyConnection_of_ne (Nat.ne_of_gt hj) _).trans ?_
  exact List.getElem?_append_left hlt

end Reached

variable {b' : Bench} {w : Worker}

theorem connection_lt (h : b.Vacant i c) (hwire : wire ∈ b.wires) (hi : wire.conversation = i) :
    wire.connection < c.connections.length := by
  have hsome := h.cabled.connection wire hwire
  rw [connection?, hi, h.conversation, Option.bind_some, Option.isSome_iff_exists] at hsome
  obtain ⟨k, hk⟩ := hsome
  exact (List.getElem?_eq_some_iff.1 hk).1

theorem laid (h : b.Vacant i c) (c' : Conversation) :
    Laid b (b.opened (b.lineTo i c.connections.length) c') (b.lineTo i c.connections.length) c' := by
  refine ⟨rfl, rfl, rfl, List.length_append, List.getElem?_concat_length, List.getElem?_concat_length,
    fun j session hget => ?_, fun j wire hj hwire => ?_⟩
  · rcases List.mem_append.1 (List.mem_of_getElem? hget) with hmem | hmem
    · obtain ⟨j', hget'⟩ := List.mem_iff_getElem?.1 hmem
      exact h.calm.sessions j' session hget'
    · rw [List.mem_singleton.1 hmem]
  · have hmem := List.mem_of_getElem? ((wire_opened hwire).resolve_left fun hlast => hj hlast.1)
    refine ⟨fun heq => ?_, Nat.ne_of_lt (h.cabled.session wire hmem)⟩
    obtain ⟨hi, hconn⟩ := Prod.mk.inj heq
    exact absurd hconn (Nat.ne_of_lt (h.connection_lt hmem hi))

theorem conversation_opened (h : b.Vacant i c) (conn : Nat) (c' : Conversation) :
    (b.opened (b.lineTo i conn) c').conversation? i = some c' := conversation_swap h.conversation c'

theorem still_elsewhere (h : b.Vacant i c) (hwire : wire ∈ b.wires)
    (helse : ¬(wire.conversation = i ∧ c.slot = some wire.connection)) :
    (b.opened (b.lineTo i c.connections.length) (reached c w target host endpoint)).Still wire := by
  obtain ⟨j, hj⟩ := List.mem_iff_getElem?.1 hwire
  have hsession : (b.entity.sessions ++ [({} : Session)])[wire.session]? = b.entity.sessions[wire.session]? :=
    List.getElem?_append_left (h.cabled.session wire hwire)
  have hconnection : (b.opened (b.lineTo i c.connections.length)
      (reached c w target host endpoint)).connection? wire.conversation wire.connection =
      b.connection? wire.conversation wire.connection := by
    by_cases hi : wire.conversation = i
    · simp only [connection?, hi, h.conversation_opened, h.conversation, Option.bind_some,
        earlier_reached (h.connection_lt hwire hi), Conversation.getElem?_cleared fun hslot => helse ⟨hi, hslot⟩]
    · exact congrArg (Option.bind · fun c => c.connections[wire.connection]?) (conversation_swap_of_ne hi _)
  intro s hs
  rw [hconnection] at hs
  show Carried wire s (((b.entity.sessions ++ [({} : Session)])[wire.session]?).getD {})
  rw [hsession]
  exact h.quiet.wires j wire hj s hs

theorem parting (h : b.Vacant i c) (hwire : b.wires[j]? = some wire) (hi : wire.conversation = i)
    (hslot : c.slot = some wire.connection)
    (hs : ((b.opened (b.lineTo i c.connections.length) (reached c w target host endpoint)).connection?
      wire.conversation wire.connection).bind (·.stream? 0) = some s) :
    ∃ session session', session'.late = none ∧
      (b.opened (b.lineTo i c.connections.length) (reached c w target host endpoint)).Parting j wire s session
        session' := by
  have hmem := List.mem_of_getElem? hwire
  have hlt := h.cabled.session wire hmem
  let session := b.entity.sessions[wire.session]
  have hsession : b.entity.sessions[wire.session]? = some session := List.getElem?_eq_getElem hlt
  have hlate := h.calm.sessions _ session hsession
  have hconnection : (b.opened (b.lineTo i c.connections.length)
      (reached c w target host endpoint)).connection? wire.conversation wire.connection =
      (c.connections[wire.connection]?).map Connection.farewell := by
    simp only [connection?, hi, h.conversation_opened, Option.bind_some, earlier_reached (h.connection_lt hmem hi),
      Conversation.getElem?_cleared_slot hslot]
  obtain ⟨k', hk', hs'⟩ := Option.bind_eq_some_iff.1 hs
  rw [hconnection] at hk'
  obtain ⟨k, hk, rfl⟩ := Option.map_eq_some_iff.1 hk'
  obtain ⟨s₀, hs₀, hwritten⟩ := Connection.stream?_farewell hs'
  have hcarried : Carried wire s₀ session := by
    have hstill := h.quiet.wires j wire hwire s₀
    simp only [connection?, hi, h.conversation, Option.bind_some, hk, hsession, Option.getD_some] at hstill
    exact hstill hs₀
  have hparting : ∀ session', session'.written = session.written →
      Bench.hears b.entity.script session [] (s.shut && !wire.hungUp) = (session', []) →
      (b.opened (b.lineTo i c.connections.length) (reached c w target host endpoint)).Parting j wire s session
        session' := fun session' hsame hhears =>
    ⟨(List.getElem?_append_left (List.getElem?_eq_some_iff.1 hwire).1).trans hwire,
      ⟨k.farewell, by rw [hconnection, hk, Option.map_some], rfl, hs'⟩,
      (List.getElem?_append_left hlt).trans hsession, hhears, by rw [hwritten, hcarried.forwarded],
      by rw [hsame, hcarried.delivered]⟩
  cases hcloses : s.shut && !wire.hungUp with
  | false =>
    refine ⟨session, session, hlate, hparting session rfl ?_⟩
    rw [hcloses]
    rfl
  | true =>
    refine ⟨session, { session with atEnd := true, ended := true }, hlate, hparting _ rfl ?_⟩
    have hclose := Session.close_read b.entity.script hlate
      (h.read session (List.mem_of_getElem? hsession))
    rw [hcloses]
    simp only [Bench.hears, if_true, reads, List.isEmpty_nil, hclose, List.append_nil]

theorem still_fresh (h : b.Vacant i c) :
    (b.opened (b.lineTo i c.connections.length) (reached c w target host endpoint)).Still
      (b.lineTo i c.connections.length).fresh := by
  have hk : (b.opened (b.lineTo i c.connections.length) (reached c w target host endpoint)).connection? i
      c.connections.length = some (begun c w target) := by
    rw [connection?, h.conversation_opened, Option.bind_some, connection_reached]
  intro s hs
  have hs : ((b.opened (b.lineTo i c.connections.length) (reached c w target host endpoint)).connection? i
      c.connections.length).bind (·.stream? 0) = some s := hs
  rw [hk] at hs
  cases hs

theorem carries (h : b.Vacant i c) (w : Worker) (target : Address) (host : Option IpAddress) (endpoint : Endpoint) :
    ∃ b', (b.opened (b.lineTo i c.connections.length) (reached c w target host endpoint)).carryAll = b' ∧
      Laid b b' (b.lineTo i c.connections.length) (reached c w target host endpoint) ∧
      ∀ (j : Nat) (wire : Wire), b'.wires[j]? = some wire → b'.Still wire := by
  let l := b.lineTo i c.connections.length
  let c' := reached c w target host endpoint
  have hlaid : Laid b (b.opened l c') l c' := h.laid c'
  by_cases hparts : ∃ (j : Nat) (wire : Wire) (s : Stream), b.wires[j]? = some wire ∧ wire.conversation = i ∧
      c.slot = some wire.connection ∧
      ((b.opened l c').connection? wire.conversation wire.connection).bind (·.stream? 0) = some s
  · obtain ⟨j, wire, s, hwire, hi, hslot, hs⟩ := hparts
    obtain ⟨session, session', hlate, hparting⟩ := h.parting hwire hi hslot hs
    have hlt := (List.getElem?_eq_some_iff.1 hwire).1
    obtain ⟨hcarry, hstill⟩ := hparting.carryAll fun j' wire' hj' hwire' => by
      rcases wire_opened hwire' with ⟨-, rfl⟩ | hwire'
      · exact ⟨h.still_fresh, Nat.ne_of_gt (h.cabled.session wire (List.mem_of_getElem? hwire))⟩
      · obtain ⟨hends, hsession⟩ := h.cabled.ends_ne hj' hwire' hwire
        refine ⟨h.still_elsewhere (List.mem_of_getElem? hwire') fun hsame => hends ?_, hsession⟩
        exact Prod.ext (hsame.1.trans hi.symm) (Option.some.inj (hsame.2.symm.trans hslot))
    exact ⟨_, hcarry, hlaid.hangUp (Nat.ne_of_lt hlt) hparting.laid hlate s, hstill⟩
  · have hstill : ∀ (j : Nat) (wire : Wire), (b.opened l c').wires[j]? = some wire → (b.opened l c').Still wire := by
      intro j wire hwire
      rcases wire_opened hwire with ⟨-, rfl⟩ | hwire
      · exact h.still_fresh
      · by_cases helse : wire.conversation = i ∧ c.slot = some wire.connection
        · exact fun s hs => absurd ⟨j, wire, s, hwire, helse.1, helse.2, hs⟩ hparts
        · exact h.still_elsewhere (List.mem_of_getElem? hwire) helse
    exact ⟨_, carryAll_self hstill, hlaid, hstill⟩

/-! From the call to the stream. -/

theorem noticeClosed_open (hopen : k.closed = false) : k.noticeClosed = k := by
  rw [Connection.noticeClosed, if_neg (by simp [hopen])]

theorem noticeClosed_attempting (h : b.Vacant i c)
    (hk : k ∈ (attempting c b.manager.worker target host endpoint).connections) : k.noticeClosed = k := by
  rcases List.mem_append.1 hk with hk | hk
  · exact Conversation.noticeClosed_cleared (h.quiet.conversations i c h.conversation).noticed hk
  · exact noticeClosed_open (by rw [List.mem_singleton.1 hk]; exact h.awake)

theorem noticeClosed_reached (h : b.Vacant i c)
    (hk : k ∈ (reached c b.manager.worker target host endpoint).connections) : k.noticeClosed = k := by
  obtain ⟨j, hj⟩ := List.mem_iff_getElem?.1 hk
  by_cases hlast : j = c.connections.length
  · subst hlast
    obtain rfl := Option.some.inj (connection_reached.symm.trans hj)
    exact noticeClosed_open h.awake
  · have hj := (Conversation.getElem?_modifyConnection_of_ne (Ne.symm hlast) _).symm.trans hj
    exact h.noticeClosed_attempting (List.mem_of_getElem? hj)

theorem around (h : b.Vacant i c) (hlaid : Laid b b' (b.lineTo i c.connections.length) c')
    (hstill : ∀ (j : Nat) (wire : Wire), b'.wires[j]? = some wire → b'.Still wire)
    (hnoticed : ∀ k ∈ c'.connections, k.noticeClosed = k) :
    (b'.swap i { c' with threads := c.threads, timer := c.timer }).Around (b.lineTo i c.connections.length)
        { c' with threads := c.threads, timer := c.timer } ∧
      (b'.swap i { c' with threads := c.threads, timer := c.timer }).Calm := by
  let c₀ : Conversation := { c' with threads := c.threads, timer := c.timer }
  have hi : b'.conversation? i = some c' := by
    rw [conversation?, hlaid.manager]
    exact conversation_swap h.conversation c'
  have hother : ∀ j, j ≠ i → (b'.swap i c₀).conversation? j = b.conversation? j := fun j hj => by
    rw [conversation_swap_of_ne hj, conversation?, hlaid.manager]
    exact conversation_swap_of_ne hj c'
  refine ⟨⟨?_, conversation_swap hi c₀, (List.getElem?_eq_some_iff.1 hlaid.wire).1,
    (List.getElem?_eq_some_iff.1 hlaid.session).1, ⟨fun j c₁ hj => ?_, fun j wire hj => ?_⟩, hlaid.apart⟩,
    fun j c₁ hj => ?_, hlaid.late⟩
  · show b'.manager.worker.cancelled = false
    rw [hlaid.manager]
    exact h.awake
  · by_cases hji : j = i
    · rw [hji, conversation_swap hi, Option.some.injEq] at hj
      exact hj ▸ ⟨(h.quiet.conversations i c h.conversation).idle, hnoticed⟩
    · rw [hother j hji] at hj
      exact h.quiet.conversations j c₁ hj
  · exact still_swap hi (hstill j wire hj) fun _ k' hk' => ⟨k', hk', .refl k'⟩
  · by_cases hji : j = i
    · rw [hji, conversation_swap hi, Option.some.injEq] at hj
      exact hj ▸ h.calm.timers i c h.conversation
    · rw [hother j hji] at hj
      exact h.calm.timers j c₁ hj

/-- At most six rounds bring a connect to a stream of its own. -/
theorem opens (h : b.Vacant i c) (hto : c.resolve target host = some endpoint) (htcp : b.tcp = some endpoint)
    (hreach : b.network.dial .accepting = .established) :
    ∃ n ≤ 6, ∃ b' l c₀ c' k,
      Nat.repeat Bench.round n (b.apply i (.call (.connect target host) false)) = l.put b' ⟨c', l.fresh, {}, []⟩ ∧
      Opened b b' i c (fun conn => .connect target host (.writing endpoint conn)) target l c₀ c' k := by
  let w := b.manager.worker
  let c₁ := attempting c w target host endpoint
  let c₂ := reached c w target host endpoint
  let c₀ : Conversation := { c₂ with threads := c.threads, timer := c.timer }
  let l := b.lineTo i c.connections.length
  obtain ⟨n, hn, hattempt⟩ := h.attempts hto
  have hnotice : (b.swap i c₁).notice = b.swap i c₁ := by
    refine notice_self fun j c' hj k hk => ?_
    by_cases hji : j = i
    · rw [hji, conversation_swap h.conversation, Option.some.injEq] at hj
      subst hj
      exact h.noticeClosed_attempting hk
    · rw [conversation_swap_of_ne hji] at hj
      exact (h.quiet.conversations j c' hj).noticed k hk
  have hlistener : (b.swap i c₁).network.dial ((b.swap i c₁).listener endpoint) = .established := by
    show b.network.dial (if b.tcp = some endpoint then .accepting else .refusing) = .established
    rw [if_pos htcp, hreach]
  have hdial : (b.swap i c₁).dialAll = b.opened l c₂ :=
    (dialAll_one (conversation_swap h.conversation c₁) rfl (h.quiet.conversations i c h.conversation).idle rfl
      (fun j c' hj hc' => by
        rw [conversation_swap_of_ne hj] at hc'
        exact (h.quiet.conversations j c' hc').idle)
      connection_attempting rfl hlistener).trans (b.opened_swap l c₁ c₂)
  obtain ⟨b', hcarry, hlaid, hstill⟩ := h.carries w target host endpoint
  obtain ⟨haround, hcalm⟩ := h.around hlaid hstill fun k => h.noticeClosed_reached
  have hi : b'.conversation? i = some c₂ := by
    rw [conversation?, hlaid.manager]
    exact conversation_swap h.conversation c₂
  have hput : l.put (b'.swap i c₀) ⟨c₂, l.fresh, {}, []⟩ = b' := put_swap hi hlaid.wire hlaid.session c₀
  have hworks : Conversation.Works c₀ c₂ c.connections.length (begun c w target)
      [{ key := c.threads.length, remaining := (ConnectionSettings.of c.settings c.version).connectTimeout }] := by
    refine ⟨rfl, rfl, h.running, rfl, h.line, ?_, connection_reached, fun _ _ => rfl⟩
    show c.timer.waits ++ _ = _
    rw [h.calm.timers i c h.conversation]
    rfl
  have hworking : Conversation.Working c₀ c₂ l.connection (begun c w target)
      [{ key := c.threads.length, remaining := (ConnectionSettings.of c.settings c.version).connectTimeout }]
      (.connect target host (.waiting endpoint l.connection .connect)) := ⟨hworks, rfl⟩
  have hadvance : b'.advanceAll =
      l.put (b'.swap i c₀) ⟨c₂.advance (b'.swap i c₀).manager.worker c.threads.length, l.fresh, {}, []⟩ :=
    (congrArg advanceAll hput).symm.trans (haround.advanceAll_put hworking.beside)
  have hround : (b.swap i c₁).round = b'.advanceAll := by rw [round, hnotice, hdial, hcarry]
  refine ⟨n + 1, Nat.succ_le_succ hn, b'.swap i c₀, l, c₀, _, _, ?_, haround, hcalm, hlaid.script, hlaid.observations,
    hlaid.sessions, rfl, rfl, rfl, hworking.adopt rfl rfl rfl haround.awake, ⟨rfl, rfl, h.awake, rfl⟩, rfl, rfl⟩
  rw [repeat_succ, hattempt, hround]
  exact hadvance

end Vacant
end Doip.Bench
