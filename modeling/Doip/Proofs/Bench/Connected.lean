import Doip.Bench.Scenario
import Doip.Proofs.Bench.Line

/-! A conversation that is connected to a scripted entity (`Connected`), and what all its requests have in common: they
are written in four rounds and read in the fifth (`Connected.takes`), and a call that has returned with everything
carried has left the bench at rest (`Connected.returns`). -/

namespace Doip.Bench

variable {b : Bench} {l : Line} {c c' : Conversation} {k : Connection} {s : Stream} {wire : Wire}
variable {session : Session} {p : Bytes}

/-- A connection on which routing is activated and nothing has gone wrong. -/
structure Usable (c : Conversation) (server : Address) (k : Connection) (s : Stream) : Prop where
  wired : Wired k s
  settings : k.settings = .of c.settings c.version
  server : k.server = server
  state : k.state = .activated
  buffer : s.buffer = []
  receiving : s.receiving = true
  attended : s.attended = true
  whole : s.broken = false

instance (c : Conversation) (server : Address) (k : Connection) (s : Stream) : Decidable (Usable c server k s) :=
  decidable_of_iff
    (Wired k s ∧ k.settings = .of c.settings c.version ∧ k.server = server ∧ k.state = .activated ∧ s.buffer = [] ∧
      s.receiving = true ∧ s.attended = true ∧ s.broken = false)
    ⟨fun ⟨hw, hc, hs, ha, hb, hr, ht, hu⟩ => ⟨hw, hc, hs, ha, hb, hr, ht, hu⟩,
      fun h => ⟨h.wired, h.settings, h.server, h.state, h.buffer, h.receiving, h.attended, h.whole⟩⟩

def asked (k : Connection) (s : Stream) (p : Bytes) : Stream :=
  { s with queue := [], written := s.written ++ Conversation.requestOn k p }

namespace Usable

variable {script : Script}

theorem clear (h : Usable c script.address k s) (p : Bytes) : (asked k s p).Clear :=
  ⟨h.buffer, rfl, h.receiving, h.attended, h.whole⟩

theorem client (h : Usable c script.address k s) : k.settings.client = c.settings.source := by
  rw [h.settings]
  rfl

end Usable

/-- What stands along a line over which requests go. -/
structure Joined (b : Bench) (l : Line) (c : Conversation) (k : Connection) (s : Stream) (wire : Wire)
    (session : Session) : Prop where
  connection : c.connections[l.connection]? = some k
  usable : Usable c b.entity.script.address k s
  leads : Leads l wire
  ready : session.Ready
  wire : b.wires[l.wire]? = some wire
  session : b.entity.sessions[l.session]? = some session

/-- A conversation that is connected to a session of the entity, on a bench where nothing is under way. -/
structure Connected (b : Bench) (l : Line) (c : Conversation) : Prop where
  around : Around b l c
  running : c.running = true
  link : c.link = some ⟨l.connection, b.entity.script.address⟩
  slot : c.slot = some l.connection
  free : c.holder = none
  line : c.line = []
  waits : c.timer.waits = []
  joined : ∃ k s wire session, Joined b l c k s wire session

namespace Connected

theorem carried (h : b.Connected l c) (hj : Joined b l c k s wire session) : Carried wire s session := by
  have hstill := h.around.quiet.wires l.wire wire hj.wire s
  rw [hj.leads.session, hj.session] at hstill
  refine hstill ?_
  simp only [connection?, hj.leads.conversation, h.around.conversation, Option.bind_some, hj.leads.connection,
    hj.connection, Connection.stream?, hj.usable.wired.first, List.length_nil, if_true, hj.usable.wired.stream,
    Option.mem_some]

theorem holds (h : b.Connected l c) (hj : Joined b l c k s wire session) :
    Conversation.Holds c c l.connection k none [] :=
  ⟨⟨rfl, rfl, h.running, rfl, h.line, h.waits, hj.connection, fun _ _ => rfl⟩, h.slot, h.free⟩

theorem asks (h : b.Connected l c) (hj : Joined b l c k s wire session) (hp : p ≠ [])
    (hfits : 4 + p.length ≤ c.settings.limit.toNat) :
    ∃ c', Nat.repeat round 4 (b.apply l.conversation (.call (.request p) false)) = l.put b ⟨c', wire, session, []⟩ ∧
      Conversation.Engaged c c' l.connection { k with early := [], stream := some (asked k s p) }
        (some c.threads.length) [{ key := c.threads.length, remaining := c.settings.ackTimeout.toNat }]
        (.request p (.waiting l.connection (.acknowledgement []))) := by
  let k' : Connection := { k with early := [], stream := some { s with queue := [] } }
  have hk := hj.usable.wired
  have hdiscard : k.discardPending.1 = k' := by simp only [Connection.discardPending, hk.stream, Option.map_some, k']
  have hcodec : 4 + p.length ≤ k.settings.codec.limit.toNat := by
    rw [hj.usable.settings]
    exact hfits
  have hcarried := h.carried hj
  have hk' : Wired k' { s with queue := [] } := ⟨rfl, hk.first, hk.unclosed, hk.unshut⟩
  have hcarried' : Carried wire { s with queue := [] } session := { hcarried with }
  obtain ⟨c₁, hstart, h₁⟩ : ∃ c₁, b.apply l.conversation (.call (.request p) false) =
      l.put b ⟨c₁, wire, session, []⟩ ∧ Conversation.Engaged c c₁ l.connection k none [] (.request p .entered) := by
    refine ⟨c.apply b.manager.worker (.call (.request p) false), ?_, { h.holds hj with }, rfl⟩
    rw [← apply_put b l ⟨c, wire, session, []⟩, put_self h.around.conversation hj.wire hj.session]
  obtain ⟨c₂, hround₁, h₂⟩ : ∃ c₂, (l.put b ⟨c₁, wire, session, []⟩).round = l.put b ⟨c₂, wire, session, []⟩ ∧
      Conversation.Engaged c c₂ l.connection k none [] (.request p .submitting) :=
    ⟨_, h.around.round_still h₁.beside rfl hk hj.leads hcarried [], h₁.enter hp _⟩
  obtain ⟨c₃, hround₂, h₃⟩ : ∃ c₃, (l.put b ⟨c₂, wire, session, []⟩).round = l.put b ⟨c₃, wire, session, []⟩ ∧
      Conversation.Engaged c c₃ l.connection k none [] (.request p .queued) :=
    ⟨_, h.around.round_still h₂.beside rfl hk hj.leads hcarried [], h₂.submit h.around.awake⟩
  obtain ⟨c₄, hround₃, h₄⟩ : ∃ c₄, (l.put b ⟨c₃, wire, session, []⟩).round = l.put b ⟨c₄, wire, session, []⟩ ∧
      Conversation.Engaged c c₄ l.connection k' (some c.threads.length) []
        (.request p (.writing l.connection (Conversation.requestOn k p))) :=
    ⟨_, h.around.round_still h₃.beside rfl hk hj.leads hcarried [], hdiscard ▸ h₃.frame hj.usable.state hcodec _⟩
  have hround₄ := h.around.round_still h₄.beside rfl hk' hj.leads hcarried' []
  have h₅ := h₄.write rfl rfl hj.usable.whole rfl hj.usable.receiving h.around.awake
  rw [h₄.holds.settings] at h₅
  refine ⟨_, ?_, h₅⟩
  simp only [Nat.repeat, hstart, hround₁, hround₂, hround₃, hround₄]

theorem takes (h : b.Connected l c) (hj : Joined b l c k s wire session) (hp : p ≠ [])
    (hfits : 4 + p.length ≤ c.settings.limit.toNat) {session' : Session} {inbound : Bytes} {seen : List Observation}
    (hread : session.receive b.entity.script
      (b.entity.script.requestOf k.settings.codec.version c.settings.source p).toBytes = (session', seen))
    (hwritten : session'.written = session.written ++ inbound) (hended : session'.ended = false) :
    ∃ c', Nat.repeat round 5 (b.apply l.conversation (.call (.request p) false)) =
        l.put b ⟨c'.advance b.manager.worker c.threads.length, Wire.upTo wire (asked k s p) session', session', seen⟩ ∧
      Conversation.Engaged c c' l.connection (receives inbound { k with early := [], stream := some (asked k s p) })
        (some c.threads.length) [{ key := c.threads.length, remaining := c.settings.ackTimeout.toNat }]
        (.request p (.waiting l.connection (.acknowledgement []))) := by
  obtain ⟨c', hreach, hwait⟩ := h.asks hj hp hfits
  have hk : Wired { k with early := [], stream := some (asked k s p) } (asked k s p) :=
    ⟨rfl, hj.usable.wired.first, hj.usable.wired.unclosed, hj.usable.wired.unshut⟩
  have hframe : Conversation.requestOn k p =
      (b.entity.script.requestOf k.settings.codec.version c.settings.source p).toBytes := by
    rw [Conversation.requestOn, hj.usable.server, hj.usable.settings]
    rfl
  have hsent : (asked k s p).written.drop wire.forwarded = Conversation.requestOn k p := by
    rw [(h.carried hj).forwarded]
    exact List.drop_left
  have hreads : reads b.entity.script session ((asked k s p).written.drop wire.forwarded) = (session', seen) := by
    rw [hsent, hframe]
    exact hread
  have hround := h.around.round_put hwait.beside rfl hk hj.leads hreads hended []
  have hinbound : session'.written.drop wire.delivered = inbound := by
    rw [(h.carried hj).delivered, hwritten]
    exact List.drop_left
  rw [hinbound] at hround
  refine ⟨_, ?_, hwait.put (f := receives inbound) rfl⟩
  rw [repeat_succ, hreach]
  exact hround

/-- A call that has returned, with everything it wrote carried, has left the bench at rest. -/
theorem returns {n : Nat} {k' : Connection} {s' : Stream} {wire' : Wire} {session' : Session}
    {seen : List Observation} {operation : Operation} {outcome : Outcome} (h : b.Connected l c)
    (hreach : Nat.repeat round n (b.apply l.conversation (.call operation false)) =
      l.put b ⟨c', wire', session', seen⟩) (hle : n ≤ 16)
    (hc : Conversation.Engaged c c' l.connection k' none [] (.returned outcome)) (hk : Wired k' s')
    (hleads : Leads l wire') (hcarried : Carried wire' s' session') :
    b.call l.conversation operation = (l.put b ⟨c', wire', session', seen⟩, some outcome) ∧
      Around (l.put b ⟨c', wire', session', seen⟩) l c' := by
  have hquiet := h.around.quiet_put hc.beside hk.noticed hk.stream? hleads.toJoins hcarried seen
  exact ⟨call_eq h.around.conversation hreach hle hquiet (h.around.outcome_put hc.beside), h.around.put hquiet⟩

theorem again {k' : Connection} {s' : Stream} {wire' : Wire} {session' : Session} {seen : List Observation}
    (h : b.Connected l c) (haround : Around (l.put b ⟨c', wire', session', seen⟩) l c')
    (hc : Conversation.Holds c c' l.connection k' none []) (hk : Usable c' b.entity.script.address k' s')
    (hleads : Leads l wire') (hready : session'.Ready) : (l.put b ⟨c', wire', session', seen⟩).Connected l c' where
  around := haround
  running := hc.running
  link := hc.link.trans h.link
  slot := hc.slot
  free := hc.holder
  line := hc.line
  waits := hc.waits
  joined := ⟨k', s', wire', session', hc.connection, hk, hleads, hready, h.around.wire_put _,
    h.around.session_put _⟩

theorem state (h : b.Connected l c) : c.state = .activated := by
  obtain ⟨k, s, wire, session, hj⟩ := h.joined
  simp only [Conversation.state, h.link, Option.bind_some, hj.connection, hj.usable.state]

end Connected

theorem connected_alone (hc : b.conversation? 0 = some c)
    (hbench : b.manager.worker.cancelled = false ∧ b.wires.length = 1 ∧ b.entity.sessions ≠ [] ∧ b.Quiet)
    (hstands : c.running = true ∧ c.link = some ⟨0, b.entity.script.address⟩ ∧ c.slot = some 0 ∧ c.holder = none ∧
      c.line = [] ∧ c.timer.waits = [])
    (hjoined : ∃ k ∈ c.connections[0]?, ∃ s ∈ k.stream, ∃ wire ∈ b.wires[0]?, ∃ session ∈ b.entity.sessions[0]?,
      Usable c b.entity.script.address k s ∧ Leads ⟨0, 0, 0, 0⟩ wire ∧ session.Ready) :
    b.Connected ⟨0, 0, 0, 0⟩ c := by
  obtain ⟨hawake, hwires, hsessions, hquiet⟩ := hbench
  obtain ⟨hrunning, hlink, hslot, hfree, hline, hwaits⟩ := hstands
  obtain ⟨k, hk, s, -, wire, hwire, session, hsession, husable, hleads, hready⟩ := hjoined
  refine ⟨⟨hawake, hc, by rw [hwires]; exact Nat.one_pos, List.length_pos_iff.2 hsessions, hquiet, ?_⟩, hrunning,
    hlink, hslot, hfree, hline, hwaits, k, s, wire, session, hk, husable, hleads, hready, hwire, hsession⟩
  intro j other hj hother
  obtain ⟨hlt, -⟩ := List.getElem?_eq_some_iff.1 hother
  exact absurd (show j = 0 by omega) hj

def narrowTester : ConversationSettings := { name := "T", source := 1, limit := 9 }

def narrow : Bench where
  network := .transparent
  manager := {
    config := config 2 [narrowTester] [{ address := 0xFA25 }]
    lifecycle := .running
    conversations := [
      { settings := narrowTester, version := 2, running := true, servers := mapServer [] { address := 0xFA25 } }] }
  entity := { script := { address := 0xFA25 } }
  tcp := some entityTcp
  udp := some entityUdp

end Doip.Bench
