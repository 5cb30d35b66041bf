import Doip.Proofs.Bench.Rounds
import Doip.Proofs.Conversation.Transact
import Doip.Proofs.Entity.Session

/-! One call on a bench at rest. Only the conversation it was made on, the wire from there and the session at the other
end change (`Line.put`), and a round carries what was written along the wire and lets the call take a step
(`Around.round_put`). -/

namespace Doip.Bench

/-- The way from a conversation to a session of the entity, each piece by its number. -/
structure Line where
  conversation : Nat
  connection : Nat
  wire : Nat
  session : Nat
deriving DecidableEq

/-- What stands along a line, with what the entity has noted down meanwhile. -/
structure Ends where
  conversation : Conversation
  wire : Wire
  session : Session
  seen : List Observation

/-- A bench with something else along one line. -/
def Line.put (l : Line) (b : Bench) (e : Ends) : Bench :=
  { b with
    manager := { b.manager with conversations := b.manager.conversations.set l.conversation e.conversation }
    entity := { b.entity with
      sessions := b.entity.sessions.set l.session e.session
      observations := b.entity.observations ++ e.seen }
    wires := b.wires.set l.wire e.wire }

variable {b : Bench} {l : Line} {e : Ends} {c₀ c : Conversation} {k k' : Connection} {s : Stream}
variable {wire : Wire} {session session' : Session} {seen seen' : List Observation} {holder : Option Nat}
variable {waits : List Wait} {call : Call} {inbound : Bytes}

/-- A line of a bench on which nothing else is under way. -/
structure Around (b : Bench) (l : Line) (c₀ : Conversation) : Prop where
  awake : b.manager.worker.cancelled = false
  conversation : b.conversation? l.conversation = some c₀
  wire : l.wire < b.wires.length
  session : l.session < b.entity.sessions.length
  quiet : b.Quiet
  /-- No other wire leads from the same connection or to the same session. -/
  apart : ∀ (j : Nat) (wire : Wire), j ≠ l.wire → b.wires[j]? = some wire →
    (wire.conversation, wire.connection) ≠ (l.conversation, l.connection) ∧ wire.session ≠ l.session

/-- A wire between the ends of a line. -/
structure Joins (l : Line) (wire : Wire) : Prop where
  conversation : wire.conversation = l.conversation
  connection : wire.connection = l.connection
  session : wire.session = l.session

/-- A wire that leads along a line and that neither end has closed. -/
structure Leads (l : Line) (wire : Wire) : Prop extends Joins l wire where
  unshut : wire.hungUp = false
  lasting : wire.ended = false

instance (l : Line) (wire : Wire) : Decidable (Leads l wire) :=
  decidable_of_iff
    (wire.conversation = l.conversation ∧ wire.connection = l.connection ∧ wire.session = l.session ∧
      wire.hungUp = false ∧ wire.ended = false)
    ⟨fun ⟨hv, hc, hs, ho, hg⟩ => ⟨⟨hv, hc, hs⟩, ho, hg⟩,
      fun h => ⟨h.conversation, h.connection, h.session, h.unshut, h.lasting⟩⟩

theorem apply_put (b : Bench) (l : Line) (e : Ends) (event : Conversation.Event) :
    (l.put b e).apply l.conversation event =
      l.put b { e with conversation := e.conversation.apply b.manager.worker event } := by
  have hmodify : (b.manager.conversations.set l.conversation e.conversation).modify l.conversation
      (·.apply b.manager.worker event) =
      b.manager.conversations.set l.conversation (e.conversation.apply b.manager.worker event) := by
    refine List.ext_getElem? fun j => ?_
    rw [List.getElem?_modify, List.getElem?_set, List.getElem?_set]
    by_cases hj : l.conversation = j <;> simp [hj]
  simp only [Bench.apply, Manager.apply, Line.put, hmodify]

namespace Around

theorem conversation_put (h : Around b l c₀) (e : Ends) :
    (l.put b e).conversation? l.conversation = some e.conversation := by
  have hget : b.manager.conversations[l.conversation]? = some c₀ := h.conversation
  obtain ⟨hlt, -⟩ := List.getElem?_eq_some_iff.1 hget
  exact List.getElem?_set_self hlt

theorem conversation_other {j : Nat} (hj : j ≠ l.conversation) (e : Ends) :
    (l.put b e).conversation? j = b.conversation? j := List.getElem?_set_ne (Ne.symm hj)

theorem session_put (h : Around b l c₀) (e : Ends) : (l.put b e).entity.sessions[l.session]? = some e.session :=
  List.getElem?_set_self h.session

theorem wire_put (h : Around b l c₀) (e : Ends) : (l.put b e).wires[l.wire]? = some e.wire :=
  List.getElem?_set_self h.wire

theorem still_put (h : Around b l c₀)
    (hothers : ∀ j, j ≠ l.connection → e.conversation.connections[j]? = c₀.connections[j]?) {j : Nat} (hj : j ≠ l.wire)
    (hwire : (l.put b e).wires[j]? = some wire) : (l.put b e).Still wire := by
  have hbefore : b.wires[j]? = some wire := by
    rw [← hwire]
    exact (List.getElem?_set_ne (Ne.symm hj)).symm
  obtain ⟨hend, hsession⟩ := h.apart j wire hj hbefore
  have hconnection : (l.put b e).connection? wire.conversation wire.connection =
      b.connection? wire.conversation wire.connection := by
    by_cases hi : wire.conversation = l.conversation
    · have hconn : wire.connection ≠ l.connection := fun heq => hend (Prod.ext hi heq)
      simp only [connection?, hi, h.conversation_put, h.conversation, Option.bind_some, hothers _ hconn]
    · simp only [connection?, conversation_other hi]
  have hentity : (l.put b e).entity.sessions[wire.session]? = b.entity.sessions[wire.session]? :=
    List.getElem?_set_ne (Ne.symm hsession)
  intro stream hstream
  rw [hconnection] at hstream
  rw [hentity]
  exact h.quiet.wires j wire hbefore stream hstream

theorem idle (h : Around b l c₀) : c₀.Idle := (h.quiet.conversations _ _ h.conversation).idle

theorem noticed_put (h : Around b l c₀) (hc : Conversation.Beside c₀ c l.connection k call) (hk : k.noticeClosed = k)
    (hk' : k' ∈ c.connections) : k'.noticeClosed = k' := by
  obtain ⟨j, hj⟩ := List.mem_iff_getElem?.1 hk'
  by_cases hconn : j = l.connection
  · subst hconn
    obtain rfl : k = k' := Option.some.inj (hc.connection.symm.trans hj)
    exact hk
  · rw [hc.others j hconn] at hj
    exact (h.quiet.conversations _ _ h.conversation).noticed k' (List.mem_of_getElem? hj)

theorem notice_put (h : Around b l c₀) (hc : Conversation.Beside c₀ e.conversation l.connection k call) :
    (l.put b e).notice =
      l.put b { e with conversation := e.conversation.modifyConnection l.connection Connection.noticeClosed } := by
  have hconnections : e.conversation.connections.map Connection.noticeClosed =
      e.conversation.connections.modify l.connection Connection.noticeClosed := by
    refine List.ext_getElem? fun j => ?_
    rw [List.getElem?_map, List.getElem?_modify]
    by_cases hj : l.connection = j
    · simp only [hj, if_true]
      rfl
    · simp only [hj, if_false, hc.others j (Ne.symm hj)]
      cases hk : c₀.connections[j]? with
      | none => rfl
      | some k' =>
        have hk' := (h.quiet.conversations _ _ h.conversation).noticed k' (List.mem_of_getElem? hk)
        rw [Option.map_some, hk']
        rfl
  have hone : (l.put b e).notice = _ := notice_one (h.conversation_put e) fun j c₁ hj hc₁ => by
    rw [conversation_other hj] at hc₁
    exact (h.quiet.conversations j c₁ hc₁).noticed
  rw [hone]
  simp only [Line.put, withConversations, List.set_set, noticed, hconnections]
  rfl

theorem dialAll_put (h : Around b l c₀) (hc : Conversation.Beside c₀ e.conversation l.connection k call)
    (hcall : call.dialling? = none) : (l.put b e).dialAll = l.put b e := by
  refine dialAll_self fun j c hj t ht => ?_
  by_cases hi : j = l.conversation
  · subst hi
    rw [h.conversation_put, Option.some.injEq] at hj
    subst hj
    rw [hc.threads, List.mem_append, List.mem_singleton] at ht
    rcases ht with ht | rfl
    · exact dialling?_returned (h.idle t ht)
    · exact hcall
  · rw [conversation_other hi] at hj
    exact dialling?_returned ((h.quiet.conversations j c hj).idle t ht)

theorem advanceAll_put (h : Around b l c₀) (hc : Conversation.Beside c₀ e.conversation l.connection k call) :
    (l.put b e).advanceAll =
      l.put b { e with conversation := e.conversation.advance b.manager.worker c₀.threads.length } := by
  let advanced := e.conversation.advance b.manager.worker c₀.threads.length
  have hone : (l.put b e).advanceAll =
      (l.put b e).withConversations ((l.put b e).manager.conversations.set l.conversation advanced) := by
    refine applyAll_one (h.conversation_put e) (play_advance h.idle hc.threads) fun j c hj hget => ?_
    rw [conversation_other hj] at hget
    refine play_self fun event hevent => ?_
    obtain ⟨n, -, rfl⟩ := List.mem_map.1 hevent
    exact advance_idle (h.quiet.conversations j c hget).idle _ n
  rw [hone]
  simp only [Line.put, withConversations, List.set_set, advanced]

end Around

/-! What a wire carries. -/

/-- What a session makes of everything that was written to it. -/
def reads (script : Script) (session : Session) (outbound : Bytes) : Session × List Observation :=
  if outbound.isEmpty then (session, []) else session.receive script outbound

theorem reads_eq_receive {script : Script} (h : session.receive script [] = (session, [])) (outbound : Bytes) :
    reads script session outbound = session.receive script outbound := by
  unfold reads
  split
  · rename_i hempty
    rw [List.isEmpty_iff.1 hempty, h]
  · rfl

theorem reads_frame {script : Script} {m : Message} (hs : session.Ready) (hm : Script.codec.Admits m)
    (hcloses : (script.answer m).closes = false) (hlate : (script.answer m).late = none) :
    reads script session m.toBytes =
      ({ session with written := session.written ++ (script.answer m).output }, (script.answer m).observed.toList) := by
  have hsome : m.toBytes.isEmpty = false := rfl
  simp only [reads, hsome, Bool.false_eq_true, if_false]
  exact hs.receive hm hcloses hlate

theorem reads_genericNack {script : Script} (hs : session.Ready) (codec : Codec) (code : UInt8) :
    reads script session (codec.encodePayload (.genericNack code)) = (session, [.genericNack code]) := by
  have hanswer := script.answer_genericNack codec.version code
  have hcanonical : PayloadType.Canonical .genericNack := rfl
  have hone : [code].length ≤ Script.codec.limit.toNat := Nat.one_le_iff_ne_zero.2 (by decide)
  have hadmits := Codec.admits_of Script.codec hcanonical hone codec.version
  have hread := reads_frame hs hadmits (by rw [hanswer]) (by rw [hanswer])
  rw [hanswer] at hread
  simp only [List.append_nil] at hread
  exact hread

/-- A session behind all that was written to it, and behind the end of it. -/
def hears (script : Script) (session : Session) (outbound : Bytes) (closed : Bool) : Session × List Observation :=
  if closed then
    (((reads script session outbound).1.close script).1,
      (reads script session outbound).2 ++ ((reads script session outbound).1.close script).2)
  else reads script session outbound

/-- What comes back over a wire in one go. -/
def arrivals (inbound : Bytes) (ends : Bool) : List Arrival :=
  (if inbound.isEmpty then [] else [.bytes inbound]) ++ if ends then [.endOfStream] else []

/-- A connection behind everything that came back. -/
def receives (inbound : Bytes) (k : Connection) : Connection :=
  if inbound.isEmpty then k else k.arrive (.bytes inbound)

/-- A connection behind everything that came back, and behind the end of it. -/
def receivesAll (inbound : Bytes) (ends : Bool) (k : Connection) : Connection :=
  (arrivals inbound ends).foldl Connection.arrive k

theorem receivesAll_lasting (inbound : Bytes) : receivesAll inbound false = receives inbound := by
  funext k
  simp only [receivesAll, arrivals, receives, Bool.false_eq_true, if_false, List.append_nil]
  split <;> rfl

theorem receives_frames (hk : k.stream = some s) (hs : s.Clear) {ms : List Message}
    (hms : ∀ m ∈ ms, k.settings.codec.Admits m) :
    receives (ms.flatMap Message.toBytes) k =
      { k with
        stream := some { s with
          queue := (ms.filter Stream.forwards).take queueDepth
          written := s.written ++ ms.flatMap (Stream.answer k.settings.codec k.settings.client) } } := by
  cases ms with
  | nil =>
    obtain ⟨settings, server, state, closed, dial, stream, former, early⟩ := k
    obtain ⟨buffer, queue, receiving, attended, written, broken, shut⟩ := s
    obtain rfl : stream = some _ := hk
    obtain rfl : queue = [] := hs.queue
    simp [receives]
  | cons m ms =>
    have hsome : ((m :: ms).flatMap Message.toBytes).isEmpty = false := rfl
    simp only [receives, hsome, Bool.false_eq_true, if_false, Connection.arrive, hk, hs.arrive_frames hms,
      Bool.false_and]

/-- The end comes behind everything else, and a receiver on an open connection takes it for its loss. -/
theorem receivesAll_eq (hk : (receives inbound k).stream = some s) (hr : s.receiving = true)
    (hopen : (receives inbound k).closed = false) (ends : Bool) :
    receivesAll inbound ends k =
      if ends then { receives inbound k with stream := some { s with receiving := false }, state := .faulted }
      else receives inbound k := by
  cases ends with
  | false => rw [receivesAll_lasting, if_neg Bool.false_ne_true]
  | true =>
    have hend : (receives inbound k).arrive .endOfStream =
        { receives inbound k with stream := some { s with receiving := false }, state := .faulted } := by
      simp [Connection.arrive, hk, Stream.arrive, hr, hopen]
    rw [if_pos rfl, ← hend]
    simp only [receivesAll, arrivals, receives, if_true, List.foldl_append, List.foldl_cons, List.foldl_nil]
    split <;> rfl

theorem modifyConnection_receives (c : Conversation) (conn : Nat) (inbound : Bytes) :
    c.modifyConnection conn (receives inbound) =
      if inbound.isEmpty then c else c.modifyConnection conn (·.arrive (.bytes inbound)) := by
  cases hempty : inbound.isEmpty with
  | true =>
    have hsame : receives inbound = fun k => k := by
      funext k
      simp only [receives, hempty, if_true]
    have hid : c.connections.modify conn (fun k => k) = c.connections := List.modify_id _ _
    rw [hsame, Conversation.modifyConnection, hid]
    rfl
  | false =>
    have hsame : receives inbound = (·.arrive (.bytes inbound)) := by
      funext k
      simp only [receives, hempty, Bool.false_eq_true, if_false]
    rw [hsame]
    rfl

/-- A wire behind everything that was written at both its ends. -/
def Wire.upTo (wire : Wire) (s : Stream) (session : Session) : Wire :=
  { wire with forwarded := s.written.length, delivered := session.written.length }

/-- A wire behind everything that happened at both its ends. -/
def Wire.caughtUp (wire : Wire) (s : Stream) (session : Session) : Wire :=
  { wire with
    forwarded := s.written.length
    delivered := session.written.length
    hungUp := s.shut
    ended := session.ended }

theorem Wire.carried_caughtUp (wire : Wire) (s : Stream) (session : Session) :
    Carried (Wire.caughtUp wire s session) s session := ⟨rfl, rfl, rfl, rfl⟩

theorem Joins.caughtUp (h : Joins l wire) (s : Stream) (session : Session) : Joins l (Wire.caughtUp wire s session) :=
  ⟨h.conversation, h.connection, h.session⟩

theorem Leads.caughtUp (h : Leads l wire) (hs : s.shut = false) (hsession : session.ended = false) :
    Wire.caughtUp wire s session = Wire.upTo wire s session := by
  rw [Wire.caughtUp, Wire.upTo, hs.trans h.unshut.symm, hsession.trans h.lasting.symm]

theorem Leads.upTo (h : Leads l wire) (s : Stream) (session : Session) : Leads l (Wire.upTo wire s session) :=
  { h with }

theorem Leads.carried_upTo (h : Leads l wire) (hs : s.shut = false) (hsession : session.ended = false) :
    Carried (Wire.upTo wire s session) s session :=
  ⟨rfl, rfl, h.unshut.trans hs.symm, h.lasting.trans hsession.symm⟩

theorem receive_reads {entity : Entity} {i : Nat} {outbound : Bytes} (hi : entity.sessions[i]? = some session)
    (hreads : reads entity.script session outbound = (session', seen')) :
    (if outbound.isEmpty then entity else entity.receive i outbound) =
      { entity with sessions := entity.sessions.set i session', observations := entity.observations ++ seen' } := by
  cases hempty : outbound.isEmpty with
  | true =>
    obtain ⟨hlt, heq⟩ := List.getElem?_eq_some_iff.1 hi
    simp only [reads, hempty, if_true, Prod.mk.injEq] at hreads
    obtain ⟨rfl, rfl⟩ := hreads
    simp only [if_true, ← heq, List.set_getElem_self, List.append_nil]
  | false =>
    simp only [reads, hempty, Bool.false_eq_true, if_false] at hreads
    simp only [Bool.false_eq_true, if_false, Entity.receive, Entity.withSession, hi, hreads]

theorem receive_hears {entity entity' : Entity} {i : Nat} {outbound : Bytes} {closed : Bool}
    (hi : entity.sessions[i]? = some session)
    (hentity : (if outbound.isEmpty then entity else entity.receive i outbound) = entity')
    (hhears : hears entity.script session outbound closed = (session', seen')) :
    (if closed then entity'.close i else entity') =
      { entity with sessions := entity.sessions.set i session', observations := entity.observations ++ seen' } := by
  obtain ⟨read, seen, hreads⟩ : ∃ read seen, reads entity.script session outbound = (read, seen) := ⟨_, _, rfl⟩
  have hread := receive_reads hi hreads
  rw [hentity] at hread
  subst hread
  obtain ⟨hlt, -⟩ := List.getElem?_eq_some_iff.1 hi
  simp only [hears, hreads] at hhears
  cases closed with
  | false =>
    simp only [Bool.false_eq_true, if_false, Prod.mk.injEq] at hhears ⊢
    rw [hhears.1, hhears.2]
  | true =>
    simp only [if_true, Prod.mk.injEq] at hhears
    obtain ⟨rfl, rfl⟩ := hhears
    simp only [if_true, Entity.close, Entity.withSession, List.getElem?_set_self hlt, List.set_set, List.append_assoc]

theorem foldl_apply_put (b : Bench) (l : Line) (e : Ends) (as : List Arrival) :
    as.foldl (fun b a => b.apply l.conversation (.arrive l.connection a)) (l.put b e) =
      l.put b { e with
        conversation := e.conversation.modifyConnection l.connection fun k => as.foldl Connection.arrive k } := by
  induction as generalizing e with
  | nil =>
    have hid : e.conversation.connections.modify l.connection (fun k => k) = e.conversation.connections :=
      List.modify_id _ _
    simp only [List.foldl_nil, Conversation.modifyConnection, hid]
  | cons a as ih =>
    rw [List.foldl_cons, apply_put, ih]
    simp only [Conversation.apply, Conversation.modifyConnection, List.modify_modify_eq]
    rfl

/-- A connection with the one stream that a wire leads from. -/
structure Wired (k : Connection) (s : Stream) : Prop where
  stream : k.stream = some s
  first : k.former = []
  unclosed : k.closed = false
  unshut : s.shut = false

instance (k : Connection) (s : Stream) : Decidable (Wired k s) :=
  decidable_of_iff (k.stream = some s ∧ k.former = [] ∧ k.closed = false ∧ s.shut = false)
    ⟨fun ⟨hs, hf, hc, hu⟩ => ⟨hs, hf, hc, hu⟩, fun h => ⟨h.stream, h.first, h.unclosed, h.unshut⟩⟩

theorem Wired.stream? (h : Wired k s) : k.stream? 0 = some s := by
  simp only [Connection.stream?, h.first, List.length_nil, if_true, h.stream]

theorem Wired.noticed (h : Wired k s) : k.noticeClosed = k := by
  simp only [Connection.noticeClosed, h.unclosed, Bool.false_eq_true, if_false]

theorem Around.carry_put (h : Around b l c₀) (hc : Conversation.Beside c₀ c l.connection k call)
    (hs : k.stream? 0 = some s) (hwire : Joins l wire)
    (hhears : hears b.entity.script session (s.written.drop wire.forwarded) (s.shut && !wire.hungUp) =
      (session', seen')) (seen : List Observation) :
    (l.put b ⟨c, wire, session, seen⟩).carry l.wire =
      l.put b ⟨c.modifyConnection l.connection
          (receivesAll (session'.written.drop wire.delivered) (session'.ended && !wire.ended)),
        Wire.caughtUp wire s session', session', seen ++ seen'⟩ := by
  have hget : (l.put b ⟨c, wire, session, seen⟩).wires[l.wire]? = some wire := h.wire_put _
  have hconversation : (l.put b ⟨c, wire, session, seen⟩).conversation? l.conversation = some c :=
    h.conversation_put _
  have hstream : ((l.put b ⟨c, wire, session, seen⟩).connection? wire.conversation wire.connection).bind
      (·.stream? 0) = some s := by
    simp only [connection?, hwire.conversation, hconversation, hwire.connection, Option.bind_some, hc.connection, hs]
  have hentity := receive_hears (h.session_put ⟨c, wire, session, seen⟩) rfl hhears
  have hsession : ((l.put b ⟨c, wire, session, seen⟩).entity.sessions.set l.session session')[l.session]? =
      some session' :=
    List.getElem?_set_self (List.getElem?_eq_some_iff.1 (h.session_put ⟨c, wire, session, seen⟩)).1
  unfold carry
  rw [hget]
  simp only [hstream, hwire.session]
  simp only [hentity, hsession, Option.getD_some, hwire.conversation, hwire.connection]
  have hwire' : ({
      conversation := l.conversation
      connection := l.connection
      session := l.session
      forwarded := s.written.length
      delivered := session'.written.length
      hungUp := s.shut
      ended := session'.ended } : Wire) = Wire.caughtUp wire s session' := by
    rw [Wire.caughtUp, hwire.conversation, hwire.connection, hwire.session]
  have hput : ({ l.put b ⟨c, wire, session, seen⟩ with
      entity := { (l.put b ⟨c, wire, session, seen⟩).entity with
        sessions := (l.put b ⟨c, wire, session, seen⟩).entity.sessions.set l.session session'
        observations := (l.put b ⟨c, wire, session, seen⟩).entity.observations ++ seen' }
      wires := (l.put b ⟨c, wire, session, seen⟩).wires.set l.wire (Wire.caughtUp wire s session') } : Bench) =
      l.put b ⟨c, Wire.caughtUp wire s session', session', seen ++ seen'⟩ := by
    simp only [Line.put, List.set_set, List.append_assoc]
  rw [hwire', hput]
  exact foldl_apply_put b l _ _

theorem Around.carryAll_put (h : Around b l c₀) (hc : Conversation.Beside c₀ c l.connection k call)
    (hs : k.stream? 0 = some s) (hwire : Joins l wire)
    (hhears : hears b.entity.script session (s.written.drop wire.forwarded) (s.shut && !wire.hungUp) =
      (session', seen')) (seen : List Observation) :
    (l.put b ⟨c, wire, session, seen⟩).carryAll =
      l.put b ⟨c.modifyConnection l.connection
          (receivesAll (session'.written.drop wire.delivered) (session'.ended && !wire.ended)),
        Wire.caughtUp wire s session', session', seen ++ seen'⟩ := by
  have hcarry := h.carry_put hc hs hwire hhears seen
  have hc' := hc.put (f := receivesAll (session'.written.drop wire.delivered) (session'.ended && !wire.ended)) rfl
  have hlt : l.wire < (l.put b ⟨c, wire, session, seen⟩).wires.length := by
    rw [Line.put, List.length_set]
    exact h.wire
  rw [← hcarry]
  refine carryAll_one hlt (fun j other hj hother => h.still_put hc.others hj hother) fun j other hj hother => ?_
  rw [hcarry] at hother ⊢
  exact h.still_put hc'.others hj hother

theorem Around.round_all (h : Around b l c₀) (hc : Conversation.Beside c₀ c l.connection k call)
    (hcall : call.dialling? = none) (hs : k.noticeClosed.stream? 0 = some s) (hwire : Joins l wire)
    (hhears : hears b.entity.script session (s.written.drop wire.forwarded) (s.shut && !wire.hungUp) =
      (session', seen')) (seen : List Observation) :
    (l.put b ⟨c, wire, session, seen⟩).round =
      l.put b ⟨((c.modifyConnection l.connection Connection.noticeClosed).modifyConnection l.connection
          (receivesAll (session'.written.drop wire.delivered) (session'.ended && !wire.ended))).advance
          b.manager.worker c₀.threads.length,
        Wire.caughtUp wire s session', session', seen ++ seen'⟩ := by
  have hnoticed := hc.put (f := Connection.noticeClosed) rfl
  have hc' :=
    hnoticed.put (f := receivesAll (session'.written.drop wire.delivered) (session'.ended && !wire.ended)) rfl
  rw [round, h.notice_put hc, h.dialAll_put hnoticed hcall, h.carryAll_put hnoticed hs hwire hhears seen]
  exact h.advanceAll_put hc'

theorem Around.round_put (h : Around b l c₀) (hc : Conversation.Beside c₀ c l.connection k call)
    (hcall : call.dialling? = none) (hk : Wired k s) (hwire : Leads l wire)
    (hreads : reads b.entity.script session (s.written.drop wire.forwarded) = (session', seen'))
    (hended : session'.ended = false) (seen : List Observation) :
    (l.put b ⟨c, wire, session, seen⟩).round =
      l.put b ⟨(c.modifyConnection l.connection (receives (session'.written.drop wire.delivered))).advance
          b.manager.worker c₀.threads.length,
        Wire.upTo wire s session', session', seen ++ seen'⟩ := by
  have hhears : hears b.entity.script session (s.written.drop wire.forwarded) (s.shut && !wire.hungUp) =
      (session', seen') := by
    rw [hears, hk.unshut, Bool.false_and, if_neg Bool.false_ne_true, hreads]
  have hsame : c.modifyConnection l.connection Connection.noticeClosed = c := by
    rw [Conversation.modifyConnection_eq hc.connection, hk.noticed]
    exact Conversation.modifyConnection_self hc.connection
  have hround := h.round_all hc hcall (by rw [hk.noticed]; exact hk.stream?) hwire.toJoins hhears seen
  rwa [hsame, hended, Bool.false_and, receivesAll_lasting, hwire.caughtUp hk.unshut hended] at hround

theorem Around.round_inbound (h : Around b l c₀) (hc : Conversation.Beside c₀ c l.connection k call)
    (hcall : call.dialling? = none) (hk : Wired k s) (hwire : Leads l wire) (hcarried : Carried wire s session)
    {inbound : Bytes} (hwritten : session'.written = session.written ++ inbound) (hended : session'.ended = false)
    (seen : List Observation) :
    (l.put b ⟨c, wire, session', seen⟩).round =
      l.put b ⟨(c.modifyConnection l.connection (receives inbound)).advance b.manager.worker c₀.threads.length,
        Wire.upTo wire s session', session', seen⟩ := by
  have hreads : reads b.entity.script session' (s.written.drop wire.forwarded) = (session', []) := by
    rw [hcarried.forwarded, List.drop_length]
    rfl
  have hinbound : session'.written.drop wire.delivered = inbound := by
    rw [hcarried.delivered, hwritten]
    exact List.drop_left
  rw [h.round_put hc hcall hk hwire hreads hended seen, hinbound, List.append_nil]

theorem Wire.upTo_carried (hcarried : Carried wire s session) : Wire.upTo wire s session = wire := by
  rw [Wire.upTo, ← hcarried.forwarded, ← hcarried.delivered]

theorem Around.round_still (h : Around b l c₀) (hc : Conversation.Beside c₀ c l.connection k call)
    (hcall : call.dialling? = none) (hk : Wired k s) (hwire : Leads l wire) (hcarried : Carried wire s session)
    (seen : List Observation) :
    (l.put b ⟨c, wire, session, seen⟩).round =
      l.put b ⟨c.advance b.manager.worker c₀.threads.length, wire, session, seen⟩ := by
  have hended : session.ended = false := hcarried.ended.symm.trans hwire.lasting
  have hround := h.round_inbound hc hcall hk hwire hcarried (List.append_nil _).symm hended seen
  rwa [modifyConnection_receives, Wire.upTo_carried hcarried] at hround

/-! Where a line comes to rest. -/

theorem put_self (hc : b.conversation? l.conversation = some c) (hwire : b.wires[l.wire]? = some wire)
    (hsession : b.entity.sessions[l.session]? = some session) : l.put b ⟨c, wire, session, []⟩ = b := by
  have hget : b.manager.conversations[l.conversation]? = some c := hc
  obtain ⟨-, rfl⟩ := List.getElem?_eq_some_iff.1 hget
  obtain ⟨-, rfl⟩ := List.getElem?_eq_some_iff.1 hwire
  obtain ⟨-, rfl⟩ := List.getElem?_eq_some_iff.1 hsession
  simp only [Line.put, List.set_getElem_self, List.append_nil]

variable {outcome : Outcome}

theorem Around.quiet_put (h : Around b l c₀) (hc : Conversation.Beside c₀ c l.connection k (.returned outcome))
    (hk : k.noticeClosed = k) (hs : k.stream? 0 = some s) (hwire : Joins l wire) (hcarried : Carried wire s session)
    (seen : List Observation) : (l.put b ⟨c, wire, session, seen⟩).Quiet := by
  have hresting : Resting c := by
    refine ⟨fun t ht => ?_, fun k' hk' => h.noticed_put hc hk hk'⟩
    rw [hc.threads, List.mem_append, List.mem_singleton] at ht
    rcases ht with ht | rfl
    · exact h.idle t ht
    · exact ⟨outcome, rfl⟩
  refine ⟨fun j c' hj => ?_, fun j other hother => ?_⟩
  · by_cases hi : j = l.conversation
    · rw [hi, h.conversation_put, Option.some.injEq] at hj
      exact hj ▸ hresting
    · rw [conversation_other hi] at hj
      exact h.quiet.conversations j c' hj
  · by_cases hi : j = l.wire
    · rw [hi, h.wire_put, Option.some.injEq] at hother
      subst hother
      intro stream hstream
      simp only [connection?, hwire.conversation, h.conversation_put, Option.bind_some, hwire.connection,
        hc.connection, hs, Option.mem_some] at hstream
      rw [hwire.session, h.session_put, ← hstream]
      exact hcarried
    · exact h.still_put hc.others hi hother

theorem Around.put (h : Around b l c₀) (hquiet : (l.put b e).Quiet) : Around (l.put b e) l e.conversation where
  awake := h.awake
  conversation := h.conversation_put e
  wire := by
    rw [Line.put, List.length_set]
    exact h.wire
  session := by
    show l.session < (b.entity.sessions.set l.session e.session).length
    rw [List.length_set]
    exact h.session
  quiet := hquiet
  apart := fun j wire hj hwire => by
    refine h.apart j wire hj ?_
    rw [← hwire]
    exact (List.getElem?_set_ne (Ne.symm hj)).symm

theorem Around.outcome_put_iff (h : Around b l c₀) (hc : Conversation.Beside c₀ c l.connection k call) :
    (l.put b ⟨c, wire, session, seen⟩).outcome? l.conversation c₀.threads.length = some outcome ↔
      call = .returned outcome := by
  have hthread : c.threads[c₀.threads.length]? = some { call := call } := by
    rw [hc.threads]
    exact List.getElem?_concat_length
  rw [outcome?, h.conversation_put]
  exact Conversation.outcome?_eq_some_iff hthread

theorem Around.outcome_put (h : Around b l c₀) (hc : Conversation.Beside c₀ c l.connection k (.returned outcome)) :
    (l.put b ⟨c, wire, session, seen⟩).outcome? l.conversation c₀.threads.length = some outcome :=
  (h.outcome_put_iff hc).2 rfl

theorem Around.outcome_open (h : Around b l c₀) (hc : Conversation.Beside c₀ c l.connection k call)
    (hopen : ∀ outcome, call ≠ .returned outcome) :
    (l.put b ⟨c, wire, session, seen⟩).outcome? l.conversation c₀.threads.length = none :=
  Option.eq_none_iff_forall_ne_some.2 fun outcome hout => hopen outcome ((h.outcome_put_iff hc).1 hout)

end Doip.Bench
