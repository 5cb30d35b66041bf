import Doip.Proofs.Bench.Connected
import Doip.Proofs.Bench.Continues
import Doip.Proofs.Bench.Time
import Doip.Proofs.Entity.Replies

/-! A request to a scripted entity comes to the meaning of the reply to it (`request_comes_to_meaning`), however deep
the leaf lies. In the fifth round everything that is sent at once is heard (`Connected.hears`), and the leaf decides
whether the call returns there or waits for a response (`Connected.waits_for_response`); in the sixth the entity reads
what the client's receiver has answered by itself (`Connected.notes`). A call that waits returns when its time is over
or the response is due, whichever is first (`Connected.returns_later`). A response that is due later is still held back
when the call has returned, and the entity reads nothing before (`Underway.pass_before`, `Underway.pass_behind`). -/

namespace Doip

namespace Bench

variable {b : Bench} {l : Line} {c c' : Conversation} {k : Connection} {s : Stream} {wire : Wire}
variable {session session' : Session} {p : Bytes} {between : List Message}

/-- A request, and a reply to it that a conversation can take in. -/
structure Fitting (c : Conversation) (server : Address) (p : Bytes) (reply : Reply) (between : List Message) : Prop where
  nonempty : p ≠ []
  limit : c.settings.limit.toNat ≤ 0xFFFF
  echo : 5 + p.length ≤ c.settings.limit.toNat
  body : ∀ d ∈ reply.body?, 4 + d.length ≤ c.settings.limit.toNat
  /-- Every frame on the way to the leaf is one whole message, -/
  frames : reply.frames = between.map Message.toBytes
  admits : ∀ m ∈ between, Codec.Admits { version := c.version, limit := c.settings.limit } m
  /-- none of them an acknowledgement or a diagnostic message from the server to this client. -/
  silent : ∀ m ∈ between, m.sign? server c.settings.source = none
  /-- There is room in the queue for an acknowledgement and a response beside them. -/
  room : (between.filter Stream.forwards).length ≤ 62
  /-- The response is not due at the very moment when the time for it is over. -/
  delay : reply.delay? ≠ some c.settings.responseTimeout.toNat

instance (c : Conversation) (server : Address) (p : Bytes) (reply : Reply) (between : List Message) :
    Decidable (Fitting c server p reply between) :=
  decidable_of_iff
    (p ≠ [] ∧ c.settings.limit.toNat ≤ 0xFFFF ∧ 5 + p.length ≤ c.settings.limit.toNat ∧
      (∀ d ∈ reply.body?, 4 + d.length ≤ c.settings.limit.toNat) ∧ reply.frames = between.map Message.toBytes ∧
      (∀ m ∈ between, Codec.Admits { version := c.version, limit := c.settings.limit } m) ∧
      (∀ m ∈ between, m.sign? server c.settings.source = none) ∧
      (between.filter Stream.forwards).length ≤ 62 ∧ reply.delay? ≠ some c.settings.responseTimeout.toNat)
    ⟨fun ⟨hn, hl, he, hb, hf, ha, hs, hr, hd⟩ => ⟨hn, hl, he, hb, hf, ha, hs, hr, hd⟩,
      fun h => ⟨h.nonempty, h.limit, h.echo, h.body, h.frames, h.admits, h.silent, h.room, h.delay⟩⟩

def replies (k : Connection) (between : List Message) : Bytes :=
  between.flatMap (Stream.answer k.settings.codec k.settings.client)

def noted (client : Address) (p : Bytes) (between : List Message) : List Observation :=
  .request client p :: between.filterMap (Message.noted client)

/-- The stream of a request that has been answered, before the client looks. -/
def heard (k : Connection) (s : Stream) (script : Script) (p : Bytes) (between : List Message) : Stream :=
  { asked k s p with
    queue := script.openingOf k.settings.client p (script.handler p) ::
      (between.filter Stream.forwards ++ ((script.handler p).prompt?.map (script.responseOf k.settings.client)).toList)
    written := (asked k s p).written ++ replies k between }

theorem Usable.codec {server : Address} (h : Usable c server k s) :
    k.settings.codec = { version := c.version, limit := c.settings.limit } := by
  rw [h.settings]
  rfl

theorem Usable.receives_promptly {script : Script} (h : Usable c script.address k s)
    (hfit : Fitting c script.address p (script.handler p) between) :
    receives ((script.promptly k.settings.client p (script.handler p) between).flatMap Message.toBytes)
      { k with early := [], stream := some (asked k s p) } =
      { k with early := [], stream := some (heard k s script p between) } := by
  let reply := script.handler p
  have hadmits : ∀ m ∈ script.promptly k.settings.client p reply between, k.settings.codec.Admits m := by
    rw [h.codec]
    exact script.admits_promptly _ hfit.echo hfit.body hfit.admits
  have hqueue := script.filter_promptly k.settings.client p reply between
  have hanswers := script.flatMap_promptly k.settings.client p reply between k.settings.codec
  have hroom : ((script.promptly k.settings.client p reply between).filter Stream.forwards).length ≤ queueDepth := by
    have hone : (reply.prompt?.map (script.responseOf k.settings.client)).toList.length ≤ 1 := by
      cases reply.prompt? <;> simp
    have hnoise := hfit.room
    rw [hqueue, List.length_cons, List.length_append, queueDepth]
    omega
  have harrive := (h.clear p).arrive_all hadmits hroom k.settings.client
  have hsome : ((script.promptly k.settings.client p reply between).flatMap Message.toBytes).isEmpty = false := rfl
  rw [receives, hsome]
  simp only [Connection.arrive]
  rw [harrive, hqueue, hanswers]
  rfl

theorem Usable.renewed {server : Address} (h : Usable c server k s) (early : List Bytes) (queue : List Message)
    (written : Bytes) :
    Usable c server { k with early, stream := some { s with queue, written } } { s with queue, written } :=
  { h with wired := ⟨rfl, h.wired.first, h.wired.unclosed, h.wired.unshut⟩ }

theorem Usable.response {server : Address} (h : Usable c server k s) (d : Bytes) :
    (⟨k.server, k.settings.client, d⟩ : Response) = ⟨server, c.settings.source, d⟩ := by
  rw [h.server, h.settings]
  rfl

theorem Usable.noise {server : Address} {reply : Reply} (h : Usable c server k s)
    (hfit : Fitting c server p reply between) : Conversation.Engaged.Noise k (between.filter Stream.forwards) := by
  intro m hm
  rw [h.server, h.settings]
  exact hfit.silent m (List.mem_filter.1 hm).1

theorem Usable.receives_response {script : Script} {d : Bytes} (h : Usable c script.address k s) (hq : s.queue = [])
    (hd : 4 + d.length ≤ c.settings.limit.toNat) :
    receives (script.responseOf k.settings.client d).toBytes k =
      { k with stream := some { s with queue := [script.responseOf k.settings.client d] } } := by
  have hclear : s.Clear := ⟨h.buffer, hq, h.receiving, h.attended, h.whole⟩
  have hadmits : k.settings.codec.Admits (script.responseOf k.settings.client d) := by
    rw [h.codec]
    exact script.admits_responseOf _ hd
  have hroom : ([script.responseOf k.settings.client d].filter Stream.forwards).length ≤ queueDepth :=
    Nat.le_add_left 1 63
  have harrive := hclear.arrive_all (List.forall_mem_singleton.2 hadmits) hroom k.settings.client
  have hone : [script.responseOf k.settings.client d].flatMap Message.toBytes =
      (script.responseOf k.settings.client d).toBytes := List.flatMap_singleton _ _
  have hnothing : [script.responseOf k.settings.client d].flatMap
      (Stream.answer k.settings.codec k.settings.client) = [] := rfl
  have hall : [script.responseOf k.settings.client d].filter Stream.forwards =
      [script.responseOf k.settings.client d] := rfl
  have hsome : (script.responseOf k.settings.client d).toBytes.isEmpty = false := rfl
  rw [hone, hnothing, hall, List.append_nil] at harrive
  rw [receives, hsome]
  simp only [Connection.arrive, h.wired.stream]
  rw [harrive]
  rfl

/-- A call on a line where everything that was written has been carried. -/
structure Underway (b : Bench) (l : Line) (c c' : Conversation) (k : Connection) (s : Stream) (wire : Wire)
    (session : Session) (holder : Option Nat) (waits : List Wait) (call : Call) : Prop where
  engaged : Conversation.Engaged c c' l.connection k holder waits call
  usable : Usable c b.entity.script.address k s
  leads : Leads l wire
  carried : Carried wire s session

variable {holder : Option Nat} {waits : List Wait} {wait : Wait} {call : Call} {outcome : Outcome}
variable {seen seen' : List Observation} {wire' : Wire} {k' : Connection} {s' : Stream} {ms : Nat} {inbound : Bytes}

/-- What a request leaves behind when it has returned: the connection stays activated, and once the entity holds nothing
back any more, which may take a rest, it has noted everything and the bench is as before. -/
structure Concluded (b b' : Bench) (l : Line) (c : Conversation) (seen : List Observation) (rest : Nat) : Prop where
  state : ∃ c', b'.conversation? l.conversation = some c' ∧ c'.state = .activated
  stays : ∀ ms, ∃ c', (b'.pass ms).conversation? l.conversation = some c' ∧ c'.state = .activated
  noted : rest = 0 → b'.entity.observations = b.entity.observations ++ seen
  later : ∀ ms, rest ≤ ms → (b'.pass ms).entity.observations = b.entity.observations ++ seen ∧ (b'.pass ms).Calm ∧
    ∃ c', (b'.pass ms).Connected l c' ∧ c'.settings = c.settings

namespace Underway

theorem activated (h : b.Connected l c) (hu : Underway b l c c' k s wire session holder waits call) :
    c'.state = .activated := by
  simp only [Conversation.state, hu.engaged.holds.link, h.link, Option.bind_some, hu.engaged.holds.connection,
    hu.usable.state]

theorem quiet (h : b.Connected l c) (hu : Underway b l c c' k s wire session holder waits (.returned outcome))
    (seen : List Observation) : (l.put b ⟨c', wire, session, seen⟩).Quiet :=
  h.around.quiet_put hu.engaged.beside hu.usable.wired.noticed hu.usable.wired.stream? hu.leads.toJoins hu.carried seen

theorem connected (h : b.Connected l c) (hu : Underway b l c c' k s wire session none [] (.returned outcome))
    (hready : session.Ready) (seen : List Observation) : (l.put b ⟨c', wire, session, seen⟩).Connected l c' := by
  have husable : Usable c' b.entity.script.address k s :=
    { hu.usable with
      settings := by
        rw [hu.engaged.holds.settings, hu.engaged.holds.version]
        exact hu.usable.settings }
  exact h.again (h.around.put (hu.quiet h seen)) hu.engaged.holds husable hu.leads hready

theorem calm (h : b.Connected l c) (hcalm : b.Calm) (hu : Underway b l c c' k s wire session holder [] call)
    (hready : session.Ready) (seen : List Observation) : (l.put b ⟨c', wire, session, seen⟩).Calm :=
  h.around.calm_put hcalm hu.engaged.holds.waits hready.late wire seen

theorem concluded (h : b.Connected l c) (hcalm : b.Calm)
    (hu : Underway b l c c' k s wire session none [] (.returned outcome)) (hready : session.Ready)
    (seen : List Observation) (rest : Nat) : Concluded b (l.put b ⟨c', wire, session, seen⟩) l c seen rest := by
  have hcalm' := hu.calm h hcalm hready seen
  have hpass := hcalm'.pass (hu.quiet h seen)
  have hactivated := hu.activated h
  refine ⟨⟨c', h.around.conversation_put _, hactivated⟩, fun ms => ?_, fun _ => rfl, fun ms _ => ?_⟩
  · rw [hpass]
    exact ⟨c', h.around.conversation_put _, hactivated⟩
  · rw [hpass]
    exact ⟨rfl, hcalm', c', hu.connected h hready seen, hu.engaged.holds.settings⟩

section Held

variable {rest : Nat} {d : Bytes} (h : b.Connected l c) (hcalm : b.Calm)
    (hu : Underway b l c c' k s wire session none [] (.returned outcome))
    (hheld : session.Holding rest (b.entity.script.responseOf k.settings.client d).toBytes (replies k between))

include h hcalm hu hheld

theorem next?_held (seen : List Observation) : (l.put b ⟨c', wire, session, seen⟩).next? = some rest := by
  rw [h.around.next?_put hcalm c' wire session seen]
  simp [Timer.nextExpiry?, hu.engaged.holds.waits, hheld.late]

/-- Before a response is due that nobody waits for any more, nothing happens. -/
theorem pass_before (hms : ms < rest) (seen : List Observation) :
    ∃ c'' session', (l.put b ⟨c', wire, session, seen⟩).pass ms = l.put b ⟨c'', wire, session', seen⟩ ∧
      Underway b l c c'' k s wire session' none [] (.returned outcome) := by
  obtain ⟨session', helapse, hheld', hwritten⟩ := hheld.elapse_early b.entity.script hms
  have hcarried : Carried wire s session' :=
    ⟨hu.carried.forwarded, hu.carried.delivered.trans (congrArg _ hwritten.symm), hu.carried.hungUp,
      hu.leads.lasting.trans hheld'.ended.symm⟩
  have hu' : Underway b l c _ k s wire session' none [] (.returned outcome) :=
    ⟨hu.engaged.elapse b.manager.worker ms, hu.usable, hu.leads, hcarried⟩
  have hpassed := h.around.elapse_put hcalm c' wire seen helapse
  rw [List.append_nil] at hpassed
  have hpass := pass_early (hu.quiet h seen) (hu.next?_held h hcalm hheld seen) hms (hpassed ▸ hu'.quiet h seen)
  exact ⟨_, session', hpass.trans hpassed, hu'⟩

theorem pass_behind (hq : s.queue = []) (hd : 4 + d.length ≤ c.settings.limit.toNat) (hms : rest ≤ ms)
    (seen : List Observation) :
    ∃ c'' k' s' wire' session', (l.put b ⟨c', wire, session, seen⟩).pass ms =
        l.put b ⟨c'', wire', session', seen ++ between.filterMap (Message.noted k.settings.client)⟩ ∧
      Underway b l c c'' k' s' wire' session' none [] (.returned outcome) ∧ session'.Ready := by
  obtain ⟨session', helapse, hready, hwritten⟩ := hheld.elapse_due b.entity.script (Nat.le_refl rest)
  let wire' := Wire.upTo wire s session'
  let s' : Stream := { s with queue := [b.entity.script.responseOf k.settings.client d] }
  have hpassed := hu.engaged.elapse b.manager.worker rest
  have hround := h.around.round_inbound hpassed.beside rfl hu.usable.wired hu.leads hu.carried hwritten hready.ended
    (seen ++ between.filterMap (Message.noted k.settings.client))
  have hc := hpassed.put (f := receives (b.entity.script.responseOf k.settings.client d).toBytes) rfl
  rw [← h.around.elapse_put hcalm c' wire seen helapse, hc.returned] at hround
  -- nobody takes the response out of the queue before the next request does
  rw [hu.usable.receives_response hq hd] at hc
  have husable : Usable c b.entity.script.address { k with stream := some s' } s' := hu.usable.renewed _ _ _
  have hu' : Underway b l c _ _ _ wire' session' none [] (.returned outcome) :=
    ⟨hc, husable, hu.leads.upTo s session', hu.leads.carried_upTo husable.wired.unshut hready.ended⟩
  have hpass := pass_due (hu.quiet h seen) (hu.next?_held h hcalm hheld seen) hms ((repeat_one _).trans hround)
    (by decide) (hu'.quiet h _) (hu'.calm h hcalm hready _)
  exact ⟨_, _, _, wire', session', hpass, hu', hready⟩

theorem concluded_held (hq : s.queue = []) (hd : 4 + d.length ≤ c.settings.limit.toNat) (hrest : rest ≠ 0)
    (seen : List Observation) :
    Concluded b (l.put b ⟨c', wire, session, seen⟩) l c
      (seen ++ between.filterMap (Message.noted k.settings.client)) rest := by
  refine ⟨⟨c', h.around.conversation_put _, hu.activated h⟩, fun ms => ?_, fun hzero => absurd hzero hrest,
    fun ms hms => ?_⟩
  · rcases Nat.lt_or_ge ms rest with hms | hms
    · obtain ⟨c'', session', hpass, hu'⟩ := hu.pass_before h hcalm hheld hms seen
      rw [hpass]
      exact ⟨c'', h.around.conversation_put _, hu'.activated h⟩
    · obtain ⟨c'', k', s', wire', session', hpass, hu', -⟩ := hu.pass_behind h hcalm hheld hq hd hms seen
      rw [hpass]
      exact ⟨c'', h.around.conversation_put _, hu'.activated h⟩
  · obtain ⟨c'', k', s', wire', session', hpass, hu', hready⟩ := hu.pass_behind h hcalm hheld hq hd hms seen
    rw [hpass]
    exact ⟨rfl, hu'.calm h hcalm hready _, c'', hu'.connected h hready _, hu'.engaged.holds.settings⟩

end Held
end Underway

namespace Connected

theorem hears (h : b.Connected l c) (hj : Joined b l c k s wire session)
    (hfit : Fitting c b.entity.script.address p (b.entity.script.handler p) between) :
    ∃ c', Nat.repeat round 5 (b.apply l.conversation (.call (.request p) false)) =
        l.put b ⟨c'.advance b.manager.worker c.threads.length,
          Wire.upTo wire (asked k s p) (session.opened b.entity.script k.settings.client p between),
          session.opened b.entity.script k.settings.client p between, [.request k.settings.client p]⟩ ∧
      Conversation.Engaged c c' l.connection
        { k with early := [], stream := some (heard k s b.entity.script p between) } (some c.threads.length)
        [{ key := c.threads.length, remaining := c.settings.ackTimeout.toNat }]
        (.request p (.waiting l.connection (.acknowledgement []))) := by
  have hfits : 4 + p.length ≤ c.settings.limit.toNat := by
    have hecho := hfit.echo
    omega
  have hread := hj.ready.receive_request hfit.frames k.settings.codec.version k.settings.client
    (Nat.le_trans hfits hfit.limit)
  nth_rewrite 1 [hj.usable.client] at hread
  obtain ⟨c', hreach, hwait⟩ := h.takes hj hfit.nonempty hfits hread rfl hj.ready.ended
  rw [hj.usable.receives_promptly hfit] at hwait
  exact ⟨c', hreach, hwait⟩

theorem notes (h : b.Connected l c) (hj : Joined b l c k s wire session)
    (hreach : Nat.repeat round 5 (b.apply l.conversation (.call (.request p) false)) =
      l.put b ⟨c', Wire.upTo wire (asked k s p) session', session', seen⟩)
    {queue : List Message} (hc : Conversation.Engaged c c' l.connection
      { k with early := [], stream := some { heard k s b.entity.script p between with queue } } holder waits call)
    (hcall : call.dialling? = none) (hstay : c'.advance b.manager.worker c.threads.length = c')
    {session'' : Session} (hnothing : session'.receive b.entity.script [] = (session', []))
    (hread : session'.receive b.entity.script (replies k between) = (session'', seen'))
    (hwritten : session''.written = session'.written) (hended : session''.ended = false) :
    ∃ wire', Nat.repeat round 6 (b.apply l.conversation (.call (.request p) false)) =
        l.put b ⟨c', wire', session'', seen ++ seen'⟩ ∧
      Underway b l c c' { k with early := [], stream := some { heard k s b.entity.script p between with queue } }
        { heard k s b.entity.script p between with queue } wire' session'' holder waits call := by
  let s' : Stream := { heard k s b.entity.script p between with queue }
  have husable : Usable c b.entity.script.address { k with early := [], stream := some s' } s' :=
    hj.usable.renewed [] queue _
  have hleads := hj.leads.upTo (asked k s p) session'
  have hreads : reads b.entity.script session'
      (s'.written.drop (Wire.upTo wire (asked k s p) session').forwarded) = (session'', seen') := by
    have hsent : s'.written.drop (Wire.upTo wire (asked k s p) session').forwarded = replies k between :=
      List.drop_left
    rw [hsent, reads_eq_receive hnothing, hread]
  have hround := h.around.round_put hc.beside hcall husable.wired hleads hreads hended seen
  have hsilent : session''.written.drop (Wire.upTo wire (asked k s p) session').delivered = [] := by
    rw [hwritten]
    exact List.drop_length
  rw [hsilent, modifyConnection_receives] at hround
  simp only [List.isEmpty_nil, if_true, hstay] at hround
  refine ⟨_, (repeat_succ 5 _).trans ((congrArg round hreach).trans hround), hc, husable, hleads.upTo s' session'', ?_⟩
  exact hleads.carried_upTo husable.wired.unshut hended

/-- A call that still waits for its response returns when the next thing happens by itself. -/
theorem returns_later (h : b.Connected l c) (hcalm : b.Calm)
    (hreach : Nat.repeat round 6 (b.apply l.conversation (.call (.request p) false)) =
      l.put b ⟨c', wire, session, seen⟩)
    (hu : Underway b l c c' k s wire session (some c.threads.length) [wait]
      (.request p (.waiting l.connection .response)))
    (hstay : c'.advance b.manager.worker c.threads.length = c') (hexp : wait.expired = false)
    (hnext : (wait.remaining :: (session.late.map (·.1)).toList).min? = some ms)
    (helapse : session.elapse b.entity.script ms = (session', seen'))
    (hwritten : session'.written = session.written ++ inbound) (hended : session'.ended = false)
    (hlook : ∀ c', Conversation.Engaged c c' l.connection (receives inbound k) (some c.threads.length)
        [wait.elapse ms] (.request p (.waiting l.connection .response)) →
      Conversation.Engaged c (c'.advance b.manager.worker c.threads.length) l.connection k' none []
        (.returned outcome))
    (husable : Usable c b.entity.script.address k' s') (hsilent : s'.written = s.written) :
    ∃ c'' wire',
      b.call l.conversation (.request p) = (l.put b ⟨c'', wire', session', seen ++ seen'⟩, some outcome) ∧
      Underway b l c c'' k' s' wire' session' none [] (.returned outcome) := by
  have hopen : (l.put b ⟨c', wire, session, seen⟩).outcome? l.conversation c.threads.length = none :=
    h.around.outcome_open hu.engaged.beside nofun
  -- a look at the empty queue leaves everything as it is, so the bench settles and time passes
  have hstill : (l.put b ⟨c', wire, session, seen⟩).round = l.put b ⟨c', wire, session, seen⟩ := by
    rw [h.around.round_still hu.engaged.beside rfl hu.usable.wired hu.leads hu.carried seen, hstay]
  have hnext' : (l.put b ⟨c', wire, session, seen⟩).next? = some ms := by
    rw [h.around.next?_put hcalm c' wire session seen, ← hnext]
    simp [Timer.nextExpiry?, hu.engaged.holds.waits, hexp]
  have hpassed := hu.engaged.elapse b.manager.worker ms
  have hround := h.around.round_inbound hpassed.beside rfl hu.usable.wired hu.leads hu.carried hwritten hended
    (seen ++ seen')
  rw [← h.around.elapse_put hcalm c' wire seen helapse] at hround
  have hc := hlook _ (hpassed.put (f := receives inbound) rfl)
  have hleads := hu.leads.upTo s session'
  have hcarried : Carried (Wire.upTo wire s session') s' session' := by
    have hup : Wire.upTo wire s session' = Wire.upTo wire s' session' := by rw [Wire.upTo, Wire.upTo, hsilent]
    rw [hup]
    exact hu.leads.carried_upTo husable.wired.unshut hended
  have hquiet := h.around.quiet_put hc.beside husable.wired.noticed husable.wired.stream? hleads.toJoins hcarried
    (seen ++ seen')
  have hreach' := (repeat_one _).trans hround
  exact ⟨_, _, call_eq_later h.around.conversation hreach (by decide) hstill hopen hnext' hreach' (by decide) hquiet
    (h.around.outcome_put hc.beside), hc, husable, hleads, hcarried⟩

theorem times_out (h : b.Connected l c) (hcalm : b.Calm)
    (hreach : Nat.repeat round 6 (b.apply l.conversation (.call (.request p) false)) =
      l.put b ⟨c', wire, session, seen⟩)
    (hu : Underway b l c c' k s wire session (some c.threads.length)
      [{ key := c.threads.length, remaining := ms }] (.request p (.waiting l.connection .response)))
    (hstay : c'.advance b.manager.worker c.threads.length = c') (hq : s.queue = [])
    (hnext : (ms :: (session.late.map (·.1)).toList).min? = some ms)
    (helapse : session.elapse b.entity.script ms = (session', [])) (hwritten : session'.written = session.written)
    (hended : session'.ended = false) :
    ∃ c'' wire', b.call l.conversation (.request p) =
        (l.put b ⟨c'', wire', session', seen⟩, some (.request (.error .timeout))) ∧
      Underway b l c c'' k s wire' session' none [] (.returned (.request (.error .timeout))) := by
  have hreturns := h.returns_later hcalm hreach hu hstay rfl hnext helapse
    (hwritten.trans (List.append_nil _).symm) hended
    (fun c' hc' => hc'.expire rfl rfl rfl hu.usable.wired.stream h.around.awake hq hu.usable.receiving
      (by simp [Wait.elapse]))
    hu.usable rfl
  rwa [List.append_nil] at hreturns

end Connected

def Completes (b : Bench) (l : Line) (c : Conversation) (p : Bytes) (outcome : Outcome) (seen : List Observation) :
    Prop :=
  ∃ c' k s wire session, b.call l.conversation (.request p) = (l.put b ⟨c', wire, session, seen⟩, some outcome) ∧
    Underway b l c c' k s wire session none [] (.returned outcome) ∧ session.Ready

namespace Connected

/-! What the leaf of the reply makes of a request. -/

theorem completes (h : b.Connected l c) (hj : Joined b l c k s wire session)
    (hreach : Nat.repeat round 5 (b.apply l.conversation (.call (.request p) false)) =
      l.put b ⟨c', Wire.upTo wire (asked k s p) session', session', [.request k.settings.client p]⟩)
    {queue : List Message} (hc : Conversation.Engaged c c' l.connection
      { k with early := [], stream := some { heard k s b.entity.script p between with queue } } none []
      (.returned outcome))
    (hready : session'.Ready) :
    Completes b l c p outcome (noted c.settings.source p between) := by
  have hnothing : session'.receive b.entity.script [] = (session', []) :=
    hready.receive_answers b.entity.script k.settings.codec k.settings.client []
  have hread := hready.receive_answers b.entity.script k.settings.codec k.settings.client between
  obtain ⟨wire', hreach', hu⟩ := h.notes hj hreach hc rfl (hc.returned _) hnothing hread rfl hready.ended
  obtain ⟨hcall, -⟩ := h.returns hreach' (by decide) hu.engaged hu.usable.wired hu.leads hu.carried
  rw [hj.usable.client] at hcall
  exact ⟨c', _, _, wire', session', hcall, hu, hready⟩

section Leaves

variable (h : b.Connected l c) (hfit : Fitting c b.entity.script.address p (b.entity.script.handler p) between)

include h hfit

theorem completes_answered {d : Bytes} (hprompt : (b.entity.script.handler p).prompt? = some d) :
    Completes b l c p (.request (.ok ⟨b.entity.script.address, c.settings.source, d⟩))
      (noted c.settings.source p between) := by
  obtain ⟨k, s, wire, session, hj⟩ := h.joined
  obtain ⟨c₁, hreach, hwait⟩ := h.hears hj hfit
  let k₂ : Connection := { k with early := [], stream := some (heard k s b.entity.script p between) }
  have hcore : ∀ code, (b.entity.script.handler p).core ≠ .refuse code := by
    rcases Reply.core_of_prompt hprompt with hcore | hcore <;> simp [hcore]
  have hheld : (b.entity.script.handler p).held? = none := by
    rcases Reply.core_of_prompt hprompt with hcore | hcore <;> rw [Reply.held?, hcore]
  have hack := b.entity.script.sign?_openingOf k.settings.client p hcore
  have hresponse := b.entity.script.sign?_responseOf k.settings.client d
  have hqueue : (heard k s b.entity.script p between).queue =
      b.entity.script.openingOf k.settings.client p (b.entity.script.handler p) ::
        (between.filter Stream.forwards ++ [b.entity.script.responseOf k.settings.client d]) := by
    rw [heard, hprompt]
    rfl
  rw [← hj.usable.server] at hack hresponse
  have hfound := hwait.find (k := k₂) rfl rfl rfl rfl rfl h.around.awake (hj.usable.noise hfit) hqueue hj.usable.state
    hack hresponse
  rw [← hj.usable.response d]
  exact h.completes hj hreach hfound (hj.ready.opened_ready hheld)

theorem completes_refused {code : UInt8} (hcore : (b.entity.script.handler p).core = .refuse code) :
    Completes b l c p (.request (.error (.negativeAck code))) (noted c.settings.source p between) := by
  obtain ⟨k, s, wire, session, hj⟩ := h.joined
  obtain ⟨c₁, hreach, hwait⟩ := h.hears hj hfit
  let k₂ : Connection := { k with early := [], stream := some (heard k s b.entity.script p between) }
  have hack := b.entity.script.sign?_openingOf_refused k.settings.client p hcore
  have hheld : (b.entity.script.handler p).held? = none := by rw [Reply.held?, hcore]
  rw [← hj.usable.server] at hack
  have hrefused := hwait.refuse (k := k₂) rfl rfl rfl rfl rfl h.around.awake rfl hack
  exact h.completes hj hreach hrefused (hj.ready.opened_ready hheld)

/-- Without a response the request waits for one. -/
theorem waits_for_response (hj : Joined b l c k s wire session)
    (hcore : ∀ code, (b.entity.script.handler p).core ≠ .refuse code)
    (hprompt : (b.entity.script.handler p).prompt? = none)
    (hopened : session.opened b.entity.script k.settings.client p between = session')
    (hnothing : session'.receive b.entity.script [] = (session', [])) {session'' : Session}
    (hread : session'.receive b.entity.script (replies k between) = (session'', seen))
    (hwritten : session''.written = session'.written) (hended : session''.ended = false) :
    ∃ c' wire', Nat.repeat round 6 (b.apply l.conversation (.call (.request p) false)) =
        l.put b ⟨c', wire', session'', .request c.settings.source p :: seen⟩ ∧
      Underway b l c c' { k with early := [], stream := some { heard k s b.entity.script p between with queue := [] } }
        { heard k s b.entity.script p between with queue := [] } wire' session'' (some c.threads.length)
        [{ key := c.threads.length, remaining := c.settings.responseTimeout.toNat }]
        (.request p (.waiting l.connection .response)) ∧
      c'.advance b.manager.worker c.threads.length = c' := by
  obtain ⟨c₁, hreach, hwait⟩ := h.hears hj hfit
  rw [hopened] at hreach
  let k₂ : Connection := { k with early := [], stream := some (heard k s b.entity.script p between) }
  have hack := b.entity.script.sign?_openingOf k.settings.client p hcore
  have hqueue : (heard k s b.entity.script p between).queue =
      b.entity.script.openingOf k.settings.client p (b.entity.script.handler p) ::
        between.filter Stream.forwards := by
    rw [heard, hprompt]
    exact congrArg _ (List.append_nil _)
  rw [← hj.usable.server] at hack
  have hc := hwait.await (k := k₂) rfl rfl rfl rfl rfl h.around.awake (hj.usable.noise hfit) hqueue
    hj.usable.receiving hj.usable.state hack
  have hstay := hc.idle rfl rfl rfl rfl h.around.awake rfl hj.usable.receiving rfl
  obtain ⟨wire', hreach₆, hu⟩ := h.notes hj hreach hc rfl hstay hnothing hread hwritten hended
  rw [hj.usable.client] at hreach₆
  exact ⟨_, wire', hreach₆, hu, hstay⟩

theorem completes_silent (hcalm : b.Calm) (hcore : (b.entity.script.handler p).core = .silent) :
    Completes b l c p (.request (.error .timeout)) (noted c.settings.source p between) := by
  obtain ⟨k, s, wire, session, hj⟩ := h.joined
  have hprompt : (b.entity.script.handler p).prompt? = none := by rw [Reply.prompt?, hcore]
  have hheld : (b.entity.script.handler p).held? = none := by rw [Reply.held?, hcore]
  have hready : (session.opened b.entity.script k.settings.client p between).Ready := hj.ready.opened_ready hheld
  have hnothing := hready.receive_answers b.entity.script k.settings.codec k.settings.client []
  have hread := hready.receive_answers b.entity.script k.settings.codec k.settings.client between
  obtain ⟨c₂, wire₂, hreach, hu, hstay⟩ := h.waits_for_response hfit hj (fun code => by simp [hcore])
    hprompt rfl hnothing hread rfl hready.ended
  have hnext : (c.settings.responseTimeout.toNat ::
      ((session.opened b.entity.script k.settings.client p between).late.map (·.1)).toList).min? =
        some c.settings.responseTimeout.toNat := by
    rw [hready.late]
    rfl
  obtain ⟨c₃, wire₃, hcall, hu₃⟩ := h.times_out hcalm hreach hu hstay rfl hnext (Session.elapse_self hready.late _) rfl
    hready.ended
  rw [← hj.usable.client] at hcall
  rw [← hj.usable.client]
  exact ⟨c₃, _, _, wire₃, _, hcall, hu₃, hready⟩

theorem holds_back (hj : Joined b l c k s wire session) {delay : Nat} {d : Bytes}
    (hheld : (b.entity.script.handler p).held? = some (delay, d)) :
    ∃ c' wire' session', Nat.repeat round 6 (b.apply l.conversation (.call (.request p) false)) =
        l.put b ⟨c', wire', session', [.request c.settings.source p]⟩ ∧
      Underway b l c c' { k with early := [], stream := some { heard k s b.entity.script p between with queue := [] } }
        { heard k s b.entity.script p between with queue := [] } wire' session' (some c.threads.length)
        [{ key := c.threads.length, remaining := c.settings.responseTimeout.toNat }]
        (.request p (.waiting l.connection .response)) ∧
      c'.advance b.manager.worker c.threads.length = c' ∧
      session'.Holding delay (b.entity.script.responseOf k.settings.client d).toBytes (replies k between) := by
  obtain ⟨hcore, hdelay⟩ := Reply.core_of_held hheld
  have hprompt : (b.entity.script.handler p).prompt? = none := by
    obtain ⟨ms, rfl⟩ := Nat.exists_eq_succ_of_ne_zero hdelay
    rw [Reply.prompt?, hcore]
    exact rfl
  have hholding := hj.ready.opened_holding k.settings.client between hheld
  obtain ⟨c', wire', hreach, hu, hstay⟩ := h.waits_for_response hfit hj (fun code => by simp [hcore])
    hprompt rfl hholding.receive_nil (hholding.receive (replies k between)) rfl hholding.ended
  exact ⟨c', wire', _, hreach, hu, hstay, hholding.more (replies k between)⟩

theorem completes_delayed (hcalm : b.Calm) {delay : Nat} {d : Bytes}
    (hheld : (b.entity.script.handler p).held? = some (delay, d)) (htime : delay < c.settings.responseTimeout.toNat) :
    Completes b l c p (.request (.ok ⟨b.entity.script.address, c.settings.source, d⟩))
      (noted c.settings.source p between) := by
  obtain ⟨k, s, wire, session, hj⟩ := h.joined
  obtain ⟨c₂, wire₂, session₂, hreach, hu, hstay, hholding⟩ := h.holds_back hfit hj hheld
  obtain ⟨session₃, helapse, hready, hwritten⟩ := hholding.elapse_due b.entity.script (Nat.le_refl delay)
  have hnext : (c.settings.responseTimeout.toNat :: (session₂.late.map (·.1)).toList).min? = some delay := by
    rw [hholding.late]
    exact congrArg some (Nat.min_eq_right (Nat.le_of_lt htime))
  have hd := hfit.body d (Reply.body?_of_held hheld)
  have hresponse := b.entity.script.sign?_responseOf k.settings.client d
  rw [← hj.usable.server] at hresponse
  have hheard := hu.usable.receives_response rfl hd
  let s₃ : Stream :=
    { heard k s b.entity.script p between with queue := [b.entity.script.responseOf k.settings.client d] }
  obtain ⟨c₃, wire₃, hcall, hu₃⟩ := h.returns_later hcalm hreach hu hstay rfl hnext helapse hwritten hready.ended
    (fun c' hc' => by
      rw [hheard] at hc'
      exact hc'.respond (s := s₃) rfl rfl rfl rfl h.around.awake rfl hresponse)
    (hj.usable.renewed [] [] _) rfl
  rw [← hj.usable.response d]
  rw [← hj.usable.client] at hcall ⊢
  exact ⟨c₃, _, _, wire₃, session₃, hcall, hu₃, hready⟩

theorem concludes_overdue (hcalm : b.Calm) {delay : Nat} {d : Bytes}
    (hheld : (b.entity.script.handler p).held? = some (delay, d)) (htime : c.settings.responseTimeout.toNat < delay) :
    ∃ b', b.call l.conversation (.request p) = (b', some (.request (.error .timeout))) ∧
      Concluded b b' l c (noted c.settings.source p between)
        (delay - c.settings.responseTimeout.toNat) := by
  obtain ⟨k, s, wire, session, hj⟩ := h.joined
  obtain ⟨c₂, wire₂, session₂, hreach, hu, hstay, hholding⟩ := h.holds_back hfit hj hheld
  obtain ⟨session₃, helapse, hholding₃, hwritten⟩ := hholding.elapse_early b.entity.script htime
  have hnext : (c.settings.responseTimeout.toNat :: (session₂.late.map (·.1)).toList).min? =
      some c.settings.responseTimeout.toNat := by
    rw [hholding.late]
    exact congrArg some (Nat.min_eq_left (Nat.le_of_lt htime))
  have hd := hfit.body d (Reply.body?_of_held hheld)
  obtain ⟨c₃, wire₃, hcall, hu₃⟩ := h.times_out hcalm hreach hu hstay rfl hnext helapse hwritten hholding₃.ended
  have hconcluded := hu₃.concluded_held h hcalm hholding₃ rfl hd (Nat.sub_ne_zero_of_lt htime)
    [.request c.settings.source p]
  rw [← hj.usable.client] at hcall hconcluded ⊢
  exact ⟨_, hcall, hconcluded⟩

end Leaves
end Connected

theorem Completes.concluded (hcompletes : Completes b l c p outcome seen) (h : b.Connected l c) (hcalm : b.Calm)
    (rest : Nat) :
    ∃ b', b.call l.conversation (.request p) = (b', some outcome) ∧ Concluded b b' l c seen rest := by
  obtain ⟨c', k, s, wire, session, hcall, hu, hready⟩ := hcompletes
  exact ⟨_, hcall, hu.concluded h hcalm hready seen rest⟩

/-- A request comes to what the reply to it means, whatever lies between, and the connection stays activated. Each frame
on the way that the client's receiver answers by itself is noted once, in their order, and nothing else is. -/
theorem request_comes_to_meaning (h : b.Connected l c) (hcalm : b.Calm)
    (hfit : Fitting c b.entity.script.address p (b.entity.script.handler p) between) :
    let reply := b.entity.script.handler p
    let timeout := c.settings.responseTimeout.toNat
    ∃ b', b.call l.conversation (.request p) =
        (b', some (.request ((reply.meaning timeout).map fun d =>
          ⟨b.entity.script.address, c.settings.source, d⟩))) ∧
      Concluded b b' l c (noted c.settings.source p between)
        (reply.delay?.getD 0 - timeout) := by
  intro reply timeout
  have hdue := hfit.delay
  rw [← reply.meaning_core, ← reply.delay?_core]
  rw [← Reply.delay?_core] at hdue
  cases hcore : reply.core with
  | respond d =>
    have hprompt : reply.prompt? = some d := by rw [Reply.prompt?, hcore]
    exact (h.completes_answered hfit hprompt).concluded h hcalm _
  | refuse code => exact (h.completes_refused hfit hcore).concluded h hcalm _
  | silent => exact (h.completes_silent hfit hcalm hcore).concluded h hcalm _
  | after frames inner => exact absurd hcore (Reply.core_ne_after reply inner frames)
  | delayed delay d =>
    have hne : delay ≠ timeout := fun heq => hdue (by rw [hcore, heq, Reply.delay?])
    rw [Reply.meaning, Reply.delay?, Option.getD_some]
    rcases Nat.lt_or_gt_of_ne hne with htime | htime
    · rw [if_pos htime]
      -- a response with no delay is sent at once
      cases delay with
      | zero =>
        have hprompt : reply.prompt? = some d := by
          rw [Reply.prompt?, hcore]
          exact rfl
        exact (h.completes_answered hfit hprompt).concluded h hcalm _
      | succ ms =>
        have hheld : reply.held? = some (ms + 1, d) := by rw [Reply.held?, hcore]
        exact (h.completes_delayed hfit hcalm hheld htime).concluded h hcalm _
    · obtain ⟨ms, rfl⟩ := Nat.exists_eq_succ_of_ne_zero (Nat.ne_zero_of_lt htime)
      have hheld : reply.held? = some (ms + 1, d) := by rw [Reply.held?, hcore]
      rw [if_neg (Nat.lt_asymm htime)]
      exact h.concludes_overdue hfit hcalm hheld htime

/-- An alive check, a frame of no type, and a response from elsewhere. -/
def strays : List Message :=
  [.of 2 .aliveCheckRequest [], .of 2 (.unknown 0xF000) [1], .of 2 .diagnosticMessage [0, 9, 0, 1, 0x7F]]

/-- An entity whose only response lies behind strays, in two layers, and comes late. -/
def layered : Bench where
  network := narrow.network
  manager := narrow.manager
  entity := {
    script := {
      address := 0xFA25
      handler := fun _ =>
        .after ((strays.take 2).map Message.toBytes)
          (.after ((strays.drop 2).map Message.toBytes) (.delayed 5 [0x62, 1])) } }
  tcp := narrow.tcp
  udp := narrow.udp

def layeredConnected : Bench := (layered.call 0 (.connect 0xFA25 none)).1

def layeredConversation : Conversation := (layeredConnected.conversation? 0).get (by decide +kernel)

theorem layered_script : layeredConnected.entity.script = layered.entity.script := by
  have hconnected : layeredConnected = (layered.call 0 (.connect 0xFA25 none)).1 := rfl
  rw [hconnected, (Continues.call _ _ _).entity.script]

theorem layered_connected : layeredConnected.Connected ⟨0, 0, 0, 0⟩ layeredConversation :=
  connected_alone (Option.some_get _).symm (by decide +kernel) (by decide +kernel) (by decide +kernel)

/-- The response is found behind all strays, and two of these are noted. -/
theorem strays_passed :
    layeredConnected.Connected ⟨0, 0, 0, 0⟩ layeredConversation ∧ layeredConnected.Calm ∧
      (layeredConnected.call 0 (.request [0x22, 1])).2 = some (.request (.ok ⟨0xFA25, 1, [0x62, 1]⟩)) ∧
      (layeredConnected.call 0 (.request [0x22, 1])).1.entity.observations =
        layeredConnected.entity.observations ++
          [.request 1 [0x22, 1], .aliveCheck 1, .genericNack unknownPayloadType] := by
  have hsettings : layeredConversation.settings = narrowTester := by decide +kernel
  have hcalm : layeredConnected.Calm := by decide +kernel
  have hfit : Fitting layeredConversation layeredConnected.entity.script.address [0x22, 1]
      (layeredConnected.entity.script.handler [0x22, 1]) strays := by
    rw [layered_script]
    decide +kernel
  have hcomes := request_comes_to_meaning layered_connected hcalm hfit
  simp only [layered_script, hsettings] at hcomes
  obtain ⟨b', hcall, hconcluded⟩ := hcomes
  refine ⟨layered_connected, hcalm, congrArg Prod.snd hcall, ?_⟩
  rw [hcall]
  exact hconcluded.noted rfl

end Bench
end Doip
