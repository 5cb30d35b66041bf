import Doip.Proofs.Bench.Connected
import Doip.Proofs.Bench.Dialling
import Doip.Proofs.Entity.Welcome

/-! A connect to a scripted entity, from the call to its return. With the second round on its stream the request for
activation is at the entity, all that the entity says to it has come back, and the connect looks (`Opened.hears`). It
has been welcomed, or it has nothing to wait for, or it waits in vain until its time is up; whichever it is, what its
receiver answered meanwhile reaches the entity before the stream is closed. -/

namespace Doip.Bench

variable {b b' : Bench} {i : Nat} {c c₀ c' : Conversation} {k : Connection} {s : Stream} {l : Line} {wire : Wire}
variable {session session' : Session} {seen seen' : List Observation} {target : Address} {host : Option IpAddress}
variable {endpoint : Endpoint} {script : Script} {call : Call} {outcome : Outcome}

/-! What is said on both sides. -/

/-- A stream over which activation was asked for. -/
def asking (k : Connection) : Stream := { written := k.activationRequest }

/-- A session that has read the request for activation. -/
def greeted (script : Script) (tester : Address) : Session where
  written := (script.greetingFrames tester).flatMap Message.toBytes
  ended := script.turnsAway

/-- What the receiver of the tester answers by itself. -/
def retorts (script : Script) (k : Connection) : Bytes :=
  (script.greetingFrames k.settings.client).flatMap (Stream.answer k.settings.codec k.settings.client)

/-- The stream when all that the session said has come. -/
def attending (script : Script) (k : Connection) : Stream where
  queue := ((script.greetingFrames k.settings.client).filter Stream.forwards).take queueDepth
  receiving := !script.turnsAway
  written := k.activationRequest ++ retorts script k

def attends (script : Script) (k : Connection) : Connection :=
  { k with stream := some (attending script k), state := if script.turnsAway then .faulted else k.state }

/-- The session when the answers of the tester have come; one that has ended does not look at them. -/
def regreeted (script : Script) (k : Connection) : Session :=
  { greeted script k.settings.client with unread := if script.turnsAway then retorts script k else [] }

def answered (script : Script) (tester : Address) : List Observation :=
  if script.turnsAway then []
  else List.replicate (Script.probes (script.greetingFrames tester)) (.aliveCheck tester)

/-- The wire behind the request and what is said to it. -/
def greetedOver (script : Script) (k : Connection) (l : Line) : Wire :=
  Wire.caughtUp l.fresh (asking k) (greeted script k.settings.client)

theorem answered_aliveCheck {tester : Address} {o : Observation} (ho : o ∈ answered script tester) :
    o = .aliveCheck tester := by
  unfold answered at ho
  split at ho
  · cases ho
  · exact List.eq_of_mem_replicate ho

theorem reads_activation (ht : k.settings.activationType.Canonical) (script : Script) :
    reads script {} k.activationRequest = (greeted script k.settings.client, [.activation k.settings.client]) := by
  let r : ActivationRequest := { source := k.settings.client, type := k.settings.activationType }
  let m : Message := .of k.settings.codec.version .routingActivationRequest r.encode
  have hcanonical : PayloadType.Canonical .routingActivationRequest := rfl
  have hadmits : Script.codec.Admits m := Codec.admits_of _ hcanonical (Nat.le_of_ble_eq_true rfl) _
  have hanswer := script.answer_activation (r := r) ht k.settings.codec.version
  have hready : Session.Ready {} := ⟨rfl, rfl, rfl, rfl⟩
  have hsome : k.activationRequest.isEmpty = false := rfl
  have hreads : reads script {} k.activationRequest = Session.receive script m.toBytes {} := by
    rw [reads, hsome, if_neg Bool.false_ne_true]
    rfl
  rw [hreads]
  cases haway : script.turnsAway with
  | true =>
    rw [hready.receive_last hadmits (by rw [hanswer]; exact haway), hanswer, greeted, haway]
    rfl
  | false =>
    rw [hready.receive hadmits (by rw [hanswer]; exact haway) (by rw [hanswer]), hanswer, greeted, haway]
    rfl

theorem receivesAll_greeting (script : Script) (hlimit : 9 ≤ k.settings.codec.limit.toNat) (hopen : k.closed = false) :
    receivesAll (greeted script k.settings.client).written script.turnsAway { k with stream := some (asking k) } =
      attends script k := by
  have hadmits : ∀ m ∈ script.greetingFrames k.settings.client, k.settings.codec.Admits m := fun m =>
    Script.admits_greeting hlimit
  have hframes := receives_frames (k := { k with stream := some (asking k) }) (s := asking k) rfl
    ⟨rfl, rfl, rfl, rfl, rfl⟩ hadmits
  have hwritten : (greeted script k.settings.client).written =
      (script.greetingFrames k.settings.client).flatMap Message.toBytes := rfl
  rw [hwritten, receivesAll_eq (by rw [hframes]) rfl (by rw [hframes]; exact hopen), hframes]
  unfold attends attending
  cases script.turnsAway <;> rfl

theorem reads_retorts (script : Script) (k : Connection) :
    reads script (greeted script k.settings.client) (retorts script k) =
      (regreeted script k, answered script k.settings.client) := by
  unfold regreeted answered
  cases haway : script.turnsAway with
  | true =>
    have hended : (greeted script k.settings.client).ended = true := haway
    rw [reads_eq_receive (Session.receive_ended hended []), Session.receive_ended hended]
    rfl
  | false =>
    have hready : (greeted script k.settings.client).Ready := ⟨rfl, rfl, rfl, haway⟩
    have hempty := hready.receive_answers script k.settings.codec k.settings.client []
    rw [reads_eq_receive hempty, retorts, hready.receive_answers, script.noted_greeting]
    rfl

theorem reads_behind (script : Script) (k : Connection) (l : Line) :
    reads script (greeted script k.settings.client)
        ((attending script k).written.drop (greetedOver script k l).forwarded) =
      (regreeted script k, answered script k.settings.client) := by
  have hbehind : (attending script k).written.drop (greetedOver script k l).forwarded = retorts script k :=
    List.drop_left
  rw [hbehind, reads_retorts]

theorem read_regreeted (script : Script) (k : Connection) :
    (regreeted script k).ended = true ∨ Script.codec.splitFrame (regreeted script k).unread = .ok none := by
  unfold regreeted
  cases haway : script.turnsAway with
  | true => exact .inl haway
  | false => exact .inr rfl

/-! Where a call has returned. -/

theorem Around.round_returned (h : Around b l c₀)
    (hc : Conversation.Beside c₀ c l.connection k (.returned outcome)) (hk : k.noticeClosed = k)
    (hs : k.stream? 0 = some s) (hwire : Joins l wire)
    (hhears : hears b.entity.script session (s.written.drop wire.forwarded) (s.shut && !wire.hungUp) =
      (session', seen'))
    (hdelivered : wire.delivered = session'.written.length)
    (hdeaf : receivesAll [] (session'.ended && !wire.ended) k = k) (seen : List Observation) :
    (l.put b ⟨c, wire, session, seen⟩).round = l.put b ⟨c, Wire.caughtUp wire s session', session', seen ++ seen'⟩ ∧
      (l.put b ⟨c, Wire.caughtUp wire s session', session', seen ++ seen'⟩).Quiet := by
  have hround := h.round_all hc rfl (by rw [hk]; exact hs) hwire hhears seen
  have hsilent : session'.written.drop wire.delivered = [] := by rw [hdelivered, List.drop_length]
  rw [Conversation.modifyConnection_same hc.connection hk, hsilent,
    Conversation.modifyConnection_same hc.connection hdeaf, hc.returned] at hround
  exact ⟨hround, h.quiet_put hc hk hs (hwire.caughtUp s session') (Wire.carried_caughtUp wire s session') _⟩

/-- A call that has given up its connection, and the session that it was connected to. -/
structure Left (b : Bench) (l : Line) (c₀ c : Conversation) (wire : Wire) (session : Session)
    (seen : List Observation) : Prop where
  quiet : (l.put b ⟨c, wire, session, seen⟩).Quiet
  beside : ∃ k, Conversation.Beside c₀ c l.connection k (.returned (.connect .failed))
  link : c.link = none

theorem Around.leaves {conn : Nat} (h : Around b l c₀) (hconn : conn = l.connection)
    (hc : Conversation.Working c₀ c l.connection k.close [] (.connect target host (.failing conn)))
    (hs : k.stream = some s) (hfirst : k.former = []) (hunshut : s.shut = false) (hwire : Joins l wire)
    (hreads : reads b.entity.script session (s.written.drop wire.forwarded) = (session', seen'))
    (hdelivered : wire.delivered = session'.written.length) (hended : wire.ended = session'.ended)
    (hlate : session'.late = none)
    (hread : session'.ended = true ∨ Script.codec.splitFrame session'.unread = .ok none) (seen : List Observation) :
    ∃ c' wire', Nat.repeat round 2 (l.put b ⟨c, wire, session, seen⟩) =
        l.put b ⟨c', wire', { session' with atEnd := true, ended := true }, seen ++ seen'⟩ ∧
      Left b l c₀ c' wire' { session' with atEnd := true, ended := true } (seen ++ seen') := by
  subst hconn
  let s₁ : Stream := { s with receiving := false }
  have hnoticed : k.close.noticeClosed.stream? 0 = some s₁ := by
    simp only [Connection.close, Connection.noticeClosed, if_true, Connection.stream?, hfirst, List.map_nil,
      List.length_nil, hs, Option.map_some, s₁]
  have hhears : hears b.entity.script session (s₁.written.drop wire.forwarded) (s₁.shut && !wire.hungUp) =
      (session', seen') := by
    rw [hears, show s₁.shut = false from hunshut, Bool.false_and, if_neg Bool.false_ne_true]
    exact hreads
  have hround₁ := h.round_all hc.beside rfl hnoticed hwire hhears seen
  have hc₁ := hc.put (f := Connection.noticeClosed) rfl
  have hsilent : session'.written.drop wire.delivered = [] := by rw [hdelivered, List.drop_length]
  have hlasting : (session'.ended && !wire.ended) = false := by rw [hended, Bool.and_not_self]
  rw [hsilent, hlasting, Conversation.modifyConnection_same hc₁.works.connection rfl] at hround₁
  obtain ⟨hbeside, hlink, -⟩ := hc₁.leave b.manager.worker
  have hfarewell : k.close.noticeClosed.finishDisconnect = k.farewell := rfl
  rw [hfarewell] at hbeside
  let wire₁ := Wire.caughtUp wire s₁ session'
  have hs₂ : k.farewell.stream? 0 = some s₁.release := by
    simp only [Connection.farewell, Connection.beginDisconnect, Connection.close, Connection.noticeClosed, if_true,
      Connection.finishDisconnect, Connection.stream?, hfirst, hs, Option.map_some, s₁]
    rfl
  have hclose := Session.close_read b.entity.script hlate hread
  have hgoodbye : hears b.entity.script session' (s₁.release.written.drop wire₁.forwarded)
      (s₁.release.shut && !wire₁.hungUp) = ({ session' with atEnd := true, ended := true }, []) := by
    have hnothing : s₁.release.written.drop wire₁.forwarded = [] := List.drop_length
    have hshut : wire₁.hungUp = false := hunshut
    rw [hnothing, hshut]
    simp only [hears, reads, Stream.release, List.isEmpty_nil, Bool.not_false, Bool.and_self, if_true, hclose,
      List.append_nil]
  have hdeaf : ∀ ends, receivesAll [] ends k.farewell = k.farewell := fun ends => by cases ends <;> rfl
  obtain ⟨hround₂, hquiet⟩ := h.round_returned hbeside k.noticeClosed_farewell hs₂ (hwire.caughtUp s₁ session')
    hgoodbye rfl (hdeaf _) (seen ++ seen')
  rw [List.append_nil] at hround₂ hquiet
  refine ⟨_, _, ?_, hquiet, ⟨_, hbeside⟩, hlink⟩
  rw [repeat_succ, repeat_one, hround₁, hround₂]

/-! From the stream to the return. -/

theorem fresh_leads (l : Line) : Leads l l.fresh := ⟨⟨rfl, rfl, rfl⟩, rfl, rfl⟩

namespace Opened

def waitOf (c : Conversation) (k : Connection) : Wait :=
  { key := c.threads.length, remaining := k.settings.activationTimeout }

variable (h : Opened b b' i c (fun conn => .connect target host (.writing endpoint conn)) target l c₀ c' k)
  (hlimit : 9 ≤ c.settings.limit.toNat)

include h

theorem number : c.threads.length = c₀.threads.length := (congrArg List.length h.threads).symm

theorem client : k.settings.client = c.settings.source := by
  rw [h.settings]
  rfl

theorem asks :
    ∃ c₁, (l.put b' ⟨c', l.fresh, {}, []⟩).round = l.put b' ⟨c₁, l.fresh, {}, []⟩ ∧
      Conversation.Working c₀ c₁ l.connection { k with stream := some (asking k) } [waitOf c k]
        (.connect target host (.waiting endpoint l.connection .activation)) := by
  have hcarried : Carried l.fresh {} {} := ⟨rfl, rfl, rfl, rfl⟩
  have hround := h.around.round_still h.working.beside rfl h.wired (fresh_leads l) hcarried []
  have hask := h.working.ask rfl h.wired.stream rfl rfl rfl h.around.awake
  rw [h.threads] at hround hask
  exact ⟨_, hround, hask⟩

include hlimit

theorem hears :
    ∃ c₂, Nat.repeat round 2 (l.put b' ⟨c', l.fresh, {}, []⟩) =
        l.put b' ⟨c₂.advance b'.manager.worker c.threads.length,
          greetedOver b.entity.script k l, greeted b.entity.script k.settings.client,
          [.activation k.settings.client]⟩ ∧
      Conversation.Working c₀ c₂ l.connection (attends b.entity.script k) [waitOf c k]
        (.connect target host (.waiting endpoint l.connection .activation)) := by
  obtain ⟨c₁, hround₁, hwait⟩ := h.asks
  have hk : Wired { k with stream := some (asking k) } (asking k) := ⟨rfl, h.wired.first, h.wired.unclosed, rfl⟩
  have htype : k.settings.activationType.Canonical := by
    rw [h.settings]
    exact ActivationType.canonical_ofRaw _
  have hadmits : 9 ≤ k.settings.codec.limit.toNat := by
    rw [h.settings]
    exact hlimit
  have hhears : Bench.hears b'.entity.script {} ((asking k).written.drop l.fresh.forwarded)
      ((asking k).shut && !l.fresh.hungUp) =
      (greeted b.entity.script k.settings.client, [.activation k.settings.client]) := by
    rw [h.script]
    exact reads_activation htype b.entity.script
  have hround₂ := h.around.round_all hwait.beside rfl (by rw [hk.noticed]; exact hk.stream?) (fresh_leads l).toJoins
    hhears []
  have hgreeting := receivesAll_greeting b.entity.script hadmits h.wired.unclosed
  rw [Conversation.modifyConnection_same hwait.works.connection hk.noticed, h.threads] at hround₂
  refine ⟨_, ?_, hwait.put (f := receivesAll _ _) hgreeting⟩
  rw [repeat_succ, repeat_one, hround₁, hround₂]
  have hends : ((greeted b.entity.script k.settings.client).ended && !l.fresh.ended) = b.entity.script.turnsAway :=
    Bool.and_true _
  rw [hends]
  rfl

omit hlimit in
theorem verdict :
    (attends b.entity.script k).heard (attending b.entity.script k).queue =
      if b.entity.script.ignoresActivation = false ∧ b.entity.script.address = target then
        some (.ofRaw b.entity.script.activationCode.raw)
      else none := by
  have hheard := Script.heard_greeting b.entity.script (attends b.entity.script k)
  rw [show (attends b.entity.script k).server = target from h.server] at hheard
  exact hheard

theorem welcomes
    (hheard : (attends b.entity.script k).heard (attending b.entity.script k).queue = some .routingSuccessful) :
    ∃ c₃ k₃ wire, Nat.repeat round 3 (l.put b' ⟨c', l.fresh, {}, []⟩) =
        l.put b' ⟨c₃, wire, regreeted b.entity.script k,
          [.activation k.settings.client] ++ answered b.entity.script k.settings.client⟩ ∧
      (l.put b' ⟨c₃, wire, regreeted b.entity.script k,
          [.activation k.settings.client] ++ answered b.entity.script k.settings.client⟩).Quiet ∧
      Conversation.Beside c₀ c₃ l.connection k₃ (.returned (.connect .success)) := by
  obtain ⟨c₂, hreach, hwait⟩ := h.hears hlimit
  let s₂ : Stream := { attending b.entity.script k with
    queue := (Stream.search (attends b.entity.script k).selectActivation (attending b.entity.script k).queue).2.2 }
  let k₃ : Connection := { attends b.entity.script k with stream := some s₂, state := .activated }
  have hc₃ := (hwait.welcome h.number rfl rfl rfl h.around.awake hheard).beside
  have hk₃ : Wired k₃ s₂ := ⟨rfl, h.wired.first, h.wired.unclosed, rfl⟩
  have hhears : Bench.hears b'.entity.script (greeted b.entity.script k.settings.client)
      (s₂.written.drop (greetedOver b.entity.script k l).forwarded)
      (s₂.shut && !(greetedOver b.entity.script k l).hungUp) =
      (regreeted b.entity.script k, answered b.entity.script k.settings.client) := by
    rw [h.script]
    exact reads_behind b.entity.script k l
  have hdeaf : receivesAll [] ((regreeted b.entity.script k).ended && !(greetedOver b.entity.script k l).ended) k₃ =
      k₃ := by
    have hlasting : ((regreeted b.entity.script k).ended && !(greetedOver b.entity.script k l).ended) = false :=
      Bool.and_not_self _
    rw [hlasting]
    rfl
  obtain ⟨hround, hquiet⟩ := h.around.round_returned hc₃ hk₃.noticed hk₃.stream?
    ((fresh_leads l).toJoins.caughtUp _ _) hhears rfl hdeaf [.activation k.settings.client]
  refine ⟨_, k₃, _, ?_, hquiet, hc₃⟩
  rw [repeat_succ, hreach]
  exact hround

theorem turnedDown
    (hvain : (attends b.entity.script k).Hopeless (attending b.entity.script k) (waitOf c k)) :
    ∃ c₃ wire, Nat.repeat round 4 (l.put b' ⟨c', l.fresh, {}, []⟩) =
        l.put b' ⟨c₃, wire, { regreeted b.entity.script k with atEnd := true, ended := true },
          [.activation k.settings.client] ++ answered b.entity.script k.settings.client⟩ ∧
      Left b' l c₀ c₃ wire { regreeted b.entity.script k with atEnd := true, ended := true }
        ([.activation k.settings.client] ++ answered b.entity.script k.settings.client) := by
  obtain ⟨c₂, hreach, hwait⟩ := h.hears hlimit
  have hc₃ := hwait.giveUp h.number rfl rfl rfl h.around.awake hvain
  have hreads : reads b'.entity.script (greeted b.entity.script k.settings.client)
      ((attending b.entity.script k).written.drop (greetedOver b.entity.script k l).forwarded) =
      (regreeted b.entity.script k, answered b.entity.script k.settings.client) := by
    rw [h.script]
    exact reads_behind b.entity.script k l
  obtain ⟨c₃, wire, hleave, hleft⟩ := h.around.leaves rfl hc₃ rfl h.wired.first rfl
    ((fresh_leads l).toJoins.caughtUp _ _) hreads rfl rfl rfl (read_regreeted b.entity.script k)
    [.activation k.settings.client]
  refine ⟨c₃, wire, ?_, hleft⟩
  rw [repeat_add 2 2, hreach]
  exact hleave

theorem waits (hnothing : (attends b.entity.script k).heard (attending b.entity.script k).queue = none)
    (hstays : b.entity.script.turnsAway = false) :
    ∃ b₁ c₃ wire, Nat.repeat round 3 (l.put b' ⟨c', l.fresh, {}, []⟩) = b₁ ∧ b₁.round = b₁ ∧
      b₁.outcome? l.conversation c₀.threads.length = none ∧ b₁.next? = some k.settings.activationTimeout ∧
      Nat.repeat round 3 (b₁.elapse k.settings.activationTimeout) =
        l.put b' ⟨c₃, wire, { regreeted b.entity.script k with atEnd := true, ended := true },
          [.activation k.settings.client] ++ answered b.entity.script k.settings.client⟩ ∧
      Left b' l c₀ c₃ wire { regreeted b.entity.script k with atEnd := true, ended := true }
        ([.activation k.settings.client] ++ answered b.entity.script k.settings.client) := by
  let script := b.entity.script
  let s₃ : Stream := { attending script k with queue := [] }
  let k₃ : Connection := { attends script k with stream := some s₃ }
  let wire₃ := Wire.upTo (greetedOver script k l) s₃ (regreeted script k)
  let seen := [.activation k.settings.client] ++ answered script k.settings.client
  obtain ⟨c₂, hreach, hwait⟩ := h.hears hlimit
  have hr : (attending script k).receiving = true := by
    show (!script.turnsAway) = true
    rw [hstays]
    rfl
  have hc₃ : Conversation.Working c₀ (c₂.advance b'.manager.worker c.threads.length) l.connection k₃ [waitOf c k]
      (.connect target host (.waiting endpoint l.connection .activation)) :=
    hwait.await h.number rfl rfl rfl h.around.awake hnothing hr rfl
  generalize c₂.advance b'.manager.worker c.threads.length = c₃ at hreach hc₃
  have hidle := hc₃.idle h.number rfl rfl rfl h.around.awake rfl hr rfl
  rw [h.number] at hidle
  have hk₃ : Wired k₃ s₃ := ⟨rfl, h.wired.first, h.wired.unclosed, rfl⟩
  have hleads : Leads l (greetedOver script k l) := ⟨⟨rfl, rfl, rfl⟩, rfl, hstays⟩
  have hreads : reads b'.entity.script (greeted script k.settings.client)
      (s₃.written.drop (greetedOver script k l).forwarded) =
      (regreeted script k, answered script k.settings.client) := by
    rw [h.script]
    exact reads_behind script k l
  have hround := h.around.round_put hc₃.beside rfl hk₃ hleads hreads hstays [.activation k.settings.client]
  have hsilent : (regreeted script k).written.drop (greetedOver script k l).delivered = [] := List.drop_length
  rw [hsilent, modifyConnection_receives] at hround
  simp only [List.isEmpty_nil, if_true, hidle] at hround
  have hleads₃ : Leads l wire₃ := hleads.upTo s₃ (regreeted script k)
  have hcarried : Carried wire₃ s₃ (regreeted script k) := hleads.carried_upTo rfl hstays
  have hstill := h.around.round_still hc₃.beside rfl hk₃ hleads₃ hcarried seen
  rw [hidle] at hstill
  have hnext : (l.put b' ⟨c₃, wire₃, regreeted script k, seen⟩).next? = some k.settings.activationTimeout := by
    rw [h.around.next?_put h.calm, Timer.nextExpiry?, hc₃.works.waits]
    rfl
  have helapse := h.around.elapse_put h.calm c₃ wire₃ seen
    (Session.elapse_self rfl _ :
      (regreeted script k).elapse b'.entity.script k.settings.activationTimeout = _)
  rw [List.append_nil] at helapse
  have hlate := hc₃.elapse b'.manager.worker k.settings.activationTimeout
  have hround₄ := h.around.round_still hlate.beside rfl hk₃ hleads₃ hcarried seen
  have hexpired : ((waitOf c k).elapse k.settings.activationTimeout).expired = true := by
    simp [Wait.elapse, waitOf]
  have hfailing := hlate.giveUp h.number rfl rfl rfl h.around.awake (.inr hexpired)
  have hnone : reads b'.entity.script (regreeted script k)
      ((attending script k).written.drop wire₃.forwarded) = (regreeted script k, []) := by
    have hnone : (attending script k).written.drop wire₃.forwarded = [] := List.drop_length
    rw [hnone]
    rfl
  rw [h.number] at hfailing
  obtain ⟨c₅, wire, hleave, hleft⟩ := h.around.leaves rfl hfailing rfl h.wired.first rfl hleads₃.toJoins hnone rfl
    (hstays.trans hstays.symm) rfl (read_regreeted script k) seen
  rw [List.append_nil] at hleave hleft
  refine ⟨_, c₅, wire, ?_, hstill, h.around.outcome_open hc₃.beside (by rintro _ ⟨⟩), hnext, ?_, hleft⟩
  · rw [repeat_succ, hreach]
    exact hround
  · rw [repeat_add 1 2, repeat_one, helapse, hround₄]
    exact hleave

/-! The return. -/

variable {n : Nat} (hc : b.conversation? i = some c) (hn : n ≤ 6)
  (hopens : Nat.repeat round n (b.apply i (.call (.connect target host) false)) = l.put b' ⟨c', l.fresh, {}, []⟩)

include hc hn hopens

theorem succeeds
    (hheard : (attends b.entity.script k).heard (attending b.entity.script k).queue = some .routingSuccessful) :
    ∃ c₃ wire, b.call i (.connect target host) =
      (l.put b' ⟨c₃, wire, regreeted b.entity.script k,
        [.activation k.settings.client] ++ answered b.entity.script k.settings.client⟩,
        some (.connect .success)) := by
  obtain ⟨c₃, k₃, wire, hreach, hquiet, hbeside⟩ := h.welcomes hlimit hheard
  refine ⟨c₃, wire, call_eq (n := n + 3) hc ?_ (Nat.le_trans (Nat.add_le_add_right hn 3) (by decide)) hquiet ?_⟩
  · rw [repeat_add, hopens, hreach]
  · rw [h.number, ← h.conversation]
    exact h.around.outcome_put hbeside

theorem fails
    (hheard : (attends b.entity.script k).heard (attending b.entity.script k).queue ≠ some .routingSuccessful) :
    ∃ c₃ wire, b.call i (.connect target host) =
        (l.put b' ⟨c₃, wire, { regreeted b.entity.script k with atEnd := true, ended := true },
          [.activation k.settings.client] ++ answered b.entity.script k.settings.client⟩,
          some (.connect .failed)) ∧
      c₃.link = none := by
  let Undecided : Prop :=
    (attends b.entity.script k).heard (attending b.entity.script k).queue = none ∧ b.entity.script.turnsAway = false
  by_cases hwaits : Undecided
  · obtain ⟨b₁, c₃, wire, hreach, hstill, hopen, hnext, hreach', hleft⟩ := h.waits hlimit hwaits.1 hwaits.2
    obtain ⟨k₃, hbeside⟩ := hleft.beside
    refine ⟨c₃, wire, call_eq_later (n := n + 3) hc ?_
      (Nat.le_trans (Nat.add_le_add_right hn 3) (by decide)) hstill ?_ hnext hreach' (by decide) hleft.quiet ?_,
      hleft.link⟩
    · rw [repeat_add, hopens, hreach]
    · rw [h.number, ← h.conversation]
      exact hopen
    · rw [h.number, ← h.conversation]
      exact h.around.outcome_put hbeside
  · have hvain : (attends b.entity.script k).Hopeless (attending b.entity.script k) (waitOf c k) := by
      unfold Connection.Hopeless
      cases hcode : (attends b.entity.script k).heard (attending b.entity.script k).queue with
      | some code => exact fun heq => hheard (hcode.trans (congrArg some heq))
      | none =>
        have haway : b.entity.script.turnsAway = true := eq_true_of_ne_false fun hstays => hwaits ⟨hcode, hstays⟩
        refine .inl ?_
        show (!b.entity.script.turnsAway) = false
        rw [haway]
        rfl
    obtain ⟨c₃, wire, hreach, hleft⟩ := h.turnedDown hlimit hvain
    obtain ⟨k₃, hbeside⟩ := hleft.beside
    refine ⟨c₃, wire, call_eq (n := n + 4) hc ?_ (Nat.le_trans (Nat.add_le_add_right hn 4) (by decide)) hleft.quiet ?_,
      hleft.link⟩
    · rw [repeat_add, hopens, hreach]
    · rw [h.number, ← h.conversation]
      exact h.around.outcome_put hbeside

omit hlimit hc hn hopens

theorem notes (session : Session) (hwritten : session.written = (greeted b.entity.script k.settings.client).written)
    (c₃ : Conversation) (wire : Wire) :
    let b₃ := l.put b' ⟨c₃, wire, session,
      [.activation k.settings.client] ++ answered b.entity.script k.settings.client⟩
    b₃.entity.sessions.length = b.entity.sessions.length + 1 ∧
      b₃.entity.sessions[b.entity.sessions.length]? = some session ∧
      b₃.entity.activationRequests = b.entity.activationRequests ++ [c.settings.source] ∧
      (b.entity.script.activationCode = .routingSuccessful →
        b₃.entity.aliveChecks = b.entity.aliveChecks ++
          List.replicate (Script.probes (Script.codec.drain session.written).frames) c.settings.source) := by
  intro b₃
  have hobservations : b₃.entity.observations = b.entity.observations ++
      ([.activation c.settings.source] ++ answered b.entity.script c.settings.source) := by
    show b'.entity.observations ++ _ = _
    rw [h.observations, h.client]
  have hframes : (Script.codec.drain session.written).frames = b.entity.script.greetingFrames c.settings.source := by
    have hadmits : ∀ m ∈ b.entity.script.greetingFrames c.settings.source, Script.codec.Admits m := fun m =>
      Script.admits_greeting (Nat.le_of_ble_eq_true rfl)
    rw [hwritten, h.client]
    show (Script.codec.drain ((b.entity.script.greetingFrames c.settings.source).flatMap Message.toBytes)).frames = _
    rw [Codec.drain_frames hadmits]
  refine ⟨List.length_set.trans h.sessions, ?_, ?_, fun hcode => ?_⟩
  · rw [← h.session]
    exact h.around.session_put _
  · have hnone : ({ b.entity with observations := answered b.entity.script c.settings.source }).activationRequests =
        [] := by
      refine List.filterMap_eq_nil_iff.2 fun o ho => ?_
      obtain rfl := answered_aliveCheck ho
      rfl
    rw [Entity.activationRequests, hobservations, List.filterMap_append, List.filterMap_append]
    exact congrArg (fun rest => b.entity.activationRequests ++ ([c.settings.source] ++ rest)) hnone
  · have hstays : b.entity.script.turnsAway = false := by simp [Script.turnsAway, hcode]
    rw [Entity.aliveChecks, hobservations, List.filterMap_append, List.filterMap_append, hframes, answered, hstays,
      if_neg Bool.false_ne_true, List.filterMap_replicate]
    rfl

end Opened

/-- A connect to a scripted entity succeeds iff it asks for the address that the entity has, and the entity answers,
with the code for success. Any other connect fails and leaves the conversation disconnected. Whichever it is, the entity
has one session more and one request for activation from the tester's address; and if its code is the one for success,
it has as many answers to alive checks from there as it sent alive checks on that session. -/
theorem connect_succeeds_iff_welcome (h : b.Vacant i c) (hlimit : 9 ≤ c.settings.limit.toNat)
    (hto : c.resolve target host = some endpoint) (htcp : b.tcp = some endpoint)
    (hreach : b.network.dial .accepting = .established) :
    ∃ b' c' session result, b.call i (.connect target host) = (b', some (.connect result)) ∧
      (result = .success ↔ target = b.entity.script.address ∧ b.entity.script.ignoresActivation = false ∧
        b.entity.script.activationCode.raw = 0x10) ∧
      b'.conversation? i = some c' ∧
      (result ≠ .success → result = .failed ∧ c'.state = .disconnected) ∧
      b'.entity.sessions.length = b.entity.sessions.length + 1 ∧
      b'.entity.sessions[b.entity.sessions.length]? = some session ∧
      b'.entity.activationRequests = b.entity.activationRequests ++ [c.settings.source] ∧
      (b.entity.script.activationCode = .routingSuccessful →
        b'.entity.aliveChecks = b.entity.aliveChecks ++
          List.replicate (Script.probes (Script.codec.drain session.written).frames) c.settings.source) := by
  obtain ⟨n, hn, b₁, l, c₀, c₁, k, hopens, ho⟩ := h.opens hto htcp hreach
  have hverdict := ho.verdict
  by_cases hwelcome : target = b.entity.script.address ∧ b.entity.script.ignoresActivation = false ∧
      b.entity.script.activationCode.raw = 0x10
  · obtain ⟨haddress, hanswers, hcode⟩ := hwelcome
    rw [if_pos ⟨hanswers, haddress.symm⟩, ActivationCode.ofRaw_eq_routingSuccessful_iff.2 hcode] at hverdict
    obtain ⟨c₂, wire, hcall⟩ := ho.succeeds hlimit h.conversation hn hopens hverdict
    exact ⟨_, c₂, regreeted b.entity.script k, .success, hcall, ⟨fun _ => ⟨haddress, hanswers, hcode⟩, fun _ => rfl⟩,
      ho.conversation ▸ ho.around.conversation_put _, fun hne => absurd rfl hne,
      ho.notes (regreeted b.entity.script k) rfl c₂ wire⟩
  · have hunwelcome : (attends b.entity.script k).heard (attending b.entity.script k).queue ≠
        some .routingSuccessful := by
      rw [hverdict]
      split
      · rename_i hanswers
        intro heq
        exact hwelcome ⟨hanswers.2.symm, hanswers.1,
          ActivationCode.ofRaw_eq_routingSuccessful_iff.1 (Option.some.inj heq)⟩
      · rintro ⟨⟩
    obtain ⟨c₂, wire, hcall, hlink⟩ := ho.fails hlimit h.conversation hn hopens hunwelcome
    have hstate : c₂.state = .disconnected := by rw [Conversation.state, hlink, Option.bind_none]
    exact ⟨_, c₂, { regreeted b.entity.script k with atEnd := true, ended := true }, .failed, hcall,
      ⟨by rintro ⟨⟩, fun hwelcome' => absurd hwelcome' hwelcome⟩, ho.conversation ▸ ho.around.conversation_put _,
      fun _ => ⟨rfl, hstate⟩,
      ho.notes { regreeted b.entity.script k with atEnd := true, ended := true } rfl c₂ wire⟩

/-- An entity that says all that it can before and behind the welcome, more than a queue holds. -/
def crowded : Bench :=
  { narrow with
    entity := { script := { address := 0xFA25, mismatchedFirst := true, aliveCheckFirst := true, unsolicited := 70 } } }

theorem crowded_vacant :
    crowded.Vacant 0
      { settings := narrowTester, version := 2, running := true, servers := mapServer [] { address := 0xFA25 } } := by
  refine .of_unconnected rfl rfl rfl rfl rfl (fun j c' hj => ?_) rfl rfl
  obtain rfl := List.mem_singleton.1 (List.mem_of_getElem? hj)
  exact ⟨by rintro t ⟨⟩, rfl, rfl⟩

theorem welcomed_in_crowd :
    ∃ b' session, crowded.call 0 (.connect 0xFA25 none) = (b', some (.connect .success)) ∧
      b'.entity.sessions[0]? = some session ∧ b'.entity.activationRequests = [1] ∧
      b'.entity.aliveChecks = List.replicate (Script.probes (Script.codec.drain session.written).frames) 1 := by
  obtain ⟨b', c', session, result, hcall, hsuccess, -, -, -, hsession, hrequests, hchecks⟩ :=
    connect_succeeds_iff_welcome crowded_vacant (by decide)
      (show Conversation.resolve _ 0xFA25 none = some entityTcp from rfl) rfl rfl
  obtain rfl := hsuccess.2 ⟨rfl, rfl, rfl⟩
  exact ⟨b', session, hcall, hsession, hrequests, hchecks rfl⟩

end Doip.Bench
