import Doip.Proofs.Conversation.Activation
import Doip.Proofs.Conversation.Exchange
import Doip.Proofs.Payload.Layout

/-! The routing activation on a connection, looked at whenever something has happened (`Handshake`). The first response
for this pair of addresses that comes in time decides it, and without one its time does (`activation_verdict`). At
every stage the responses noted so far are those that still wait in the queue, for one that has been looked at is the
end of it (`Stage`). -/

namespace Doip

namespace Connection

/-- What a connection can come to by the calls of its owner, by the network and by the receivers of its streams. -/
inductive Reachable : Connection → Prop
  | fresh (settings : ConnectionSettings) (server : Address) : Reachable { settings, server }
  | beginConnect {k : Connection} : Reachable k → Reachable k.beginConnect
  | owner {k k' : Connection} : Reachable k → OwnerStep k k' → Reachable k'
  | outside {k k' : Connection} : Reachable k → OutsideStep k k' → Reachable k'
  | former {k : Connection} (i : Nat) (a : Arrival) : Reachable k → Reachable (k.arriveFormer i a)

theorem Reachable.kept {k : Connection} (h : k.Reachable) : k.Kept := by
  induction h with
  | fresh settings server => exact Kept.without_stream rfl
  | beginConnect _ ih => exact ih.same_stream rfl rfl
  | owner _ hstep ih => exact hstep.kept ih
  | outside _ hstep ih => exact hstep.kept ih
  | @former k i a _ ih =>
    unfold arriveFormer
    split
    · exact ih
    · exact ih.same_stream rfl rfl

variable {k : Connection} {m : Message} {r : ActivationResponse}

theorem routingSuccessful_iff_of_activationIn (h : k.activationIn? m = some r) :
    r.code = .routingSuccessful ↔ r.code.raw = 0x10 := by
  obtain ⟨version, inverse, type, body⟩ := m
  have hread : Payload.ofBody type body = .ok (.activationResponse r) := by
    unfold activationIn? at h
    split at h
    next hparse =>
      split_ifs at h
      cases h
      exact hparse
    next => cases h
  obtain ⟨code, hcode⟩ : ∃ code, r.code = .ofRaw code := by
    cases Payload.ofBody_eq_ok_iff.1 hread with
    | activationResponse _ _ code => exact ⟨code, rfl⟩
    | manufacturerResponse _ _ code => exact ⟨code, rfl⟩
  rw [hcode, ActivationCode.raw_ofRaw]
  exact ActivationCode.ofRaw_eq_routingSuccessful_iff

theorem activationIn?_of_answered (k : Connection) (hm : Stream.forwards m = false) : k.activationIn? m = none := by
  obtain ⟨version, inverse, type, payload⟩ := m
  rcases Stream.forwards_eq_false_iff.1 hm with ⟨raw, rfl⟩ | rfl <;> rfl

theorem filterMap_forwards (k : Connection) (ms : List Message) :
    (ms.filter Stream.forwards).filterMap k.activationIn? = ms.filterMap k.activationIn? := by
  induction ms with
  | nil => rfl
  | cons m ms ih =>
    cases hm : Stream.forwards m with
    | true => rw [List.filter_cons_of_pos hm, List.filterMap_cons, List.filterMap_cons, ih]
    | false =>
      rw [List.filter_cons_of_neg (by simp [hm]), List.filterMap_cons_none (activationIn?_of_answered k hm), ih]

end Connection

/-- An activation under way, or over. -/
structure Handshake where
  connection : Connection
  timer : Timer
  progress : Waiting ⊕ Settled

namespace Handshake

def begin (k : Connection) : Handshake :=
  match k.beginActivation.writeActivation with
  | .error k => ⟨k, {}, .inr (.activation (.error .connectionLost))⟩
  | .ok k => ⟨k, Timer.arm {} 0 k.settings.activationTimeout, .inl .activation⟩

/-- The caller's look at its queue and at the clock. -/
def look (h : Handshake) : Handshake :=
  match h.progress, h.timer.wait? 0 with
  | .inl waiting, some wait =>
    match h.connection.resume "" wait false waiting with
    | (k, .inl waiting) => ⟨k, h.timer, .inl waiting⟩
    | (k, .inr settled) => ⟨k, h.timer.finish 0, .inr settled⟩
  | _, _ => h

def step (h : Handshake) : Happening → Handshake
  | .arrive a => { h with connection := h.connection.arrive a }
  | .pass ms => { h with timer := h.timer.elapse ms }
  | .look => h.look

def run (h : Handshake) (hs : List Happening) : Handshake := hs.foldl step h

def result? (h : Handshake) : Option (Except ActivationError Unit) :=
  match h.progress with
  | .inr (.activation result) => some result
  | _ => none

/-- What an activation comes to: the first response before the deadline decides. -/
def verdict (timeout : Nat) (responses : List (Nat × ActivationResponse)) : Except ActivationError Unit :=
  match responses.find? (·.1 < timeout) with
  | none => .error .timeout
  | some (_, r) => if r.code.raw = 0x10 then .ok () else .error (.rejected r.code)

def stateOf : Except ActivationError Unit → ConnectionState
  | .ok () => .activated
  | .error _ => .faulted

/-- The responses among the frames that waited when the activation began and those that have come since. -/
def responses (k : Connection) (s : Stream) (log : Log) : List (Nat × ActivationResponse) :=
  (s.queue.map (0, ·) ++ log.frames).filterMap fun (t, m) => (k.activationIn? m).map (t, ·)

variable {timeout time : Nat} {rs later : List (Nat × ActivationResponse)} {result : Except ActivationError Unit}

/-- The verdict up to a time stays the same whatever comes from then on. -/
def Decided (timeout time : Nat) (rs : List (Nat × ActivationResponse)) (result : Except ActivationError Unit) : Prop :=
  ∀ later : List (Nat × ActivationResponse), (∀ p ∈ later, time ≤ p.1) → verdict timeout (rs ++ later) = result

theorem Decided.verdict_eq (h : Decided timeout time rs result) : verdict timeout rs = result := by
  have hnil := h [] fun p hp => absurd hp List.not_mem_nil
  rwa [List.append_nil] at hnil

theorem Decided.append (h : Decided timeout time rs result) (hlater : ∀ p ∈ later, time ≤ p.1) :
    Decided timeout time (rs ++ later) result := by
  intro more hmore
  rw [List.append_assoc]
  exact h _ fun p hp => (List.mem_append.1 hp).elim (hlater p) (hmore p)

theorem Decided.after (h : Decided timeout time rs result) (ms : Nat) : Decided timeout (time + ms) rs result :=
  fun later hlater => h later fun p hp => Nat.le_trans (Nat.le_add_right _ _) (hlater p hp)

theorem decided_late (hnone : rs.find? (·.1 < timeout) = none) (hover : timeout ≤ time) :
    Decided timeout time rs (.error .timeout) := by
  intro later hlater
  have hlate : later.find? (·.1 < timeout) = none := by
    refine List.find?_eq_none.2 fun p hp => ?_
    have hle := hlater p hp
    simp only [decide_eq_true_eq]
    omega
  rw [verdict, List.find?_append, hnone, hlate]
  rfl

theorem decided_heard {t : Nat} {r : ActivationResponse} (hfirst : rs.find? (·.1 < timeout) = some (t, r)) :
    Decided timeout time rs (if r.code.raw = 0x10 then .ok () else .error (.rejected r.code)) := by
  intro later _
  rw [verdict, List.find?_append, hfirst]
  rfl

/-! The stages. -/

/-- The wait of an activation. It is over as soon as its time is, unless nothing has passed since it began. -/
structure Clock (timeout : Nat) (log : Log) (wait : Wait) : Prop extends Exchange.Clock timeout log wait where
  ends : timeout ≤ log.time → 0 < log.time → wait.expired = true

/-- A connection `k` that has not lost its stream since the activation of `k₀` on `s₀` began: beside the request its
receiver alone has written. -/
structure Wired (k₀ : Connection) (s₀ : Stream) (log : Log) (k : Connection) (s : Stream) : Prop where
  settings : k.settings = k₀.settings
  server : k.server = k₀.server
  stream : k.stream = some s
  receiving : s.receiving = true
  whole : s.broken = false
  kept : s.Kept k₀.settings.codec
  buffer : s.buffer = log.buffer
  written : s.written = s₀.written ++ k₀.activationRequest ++
    log.frames.flatMap fun f => Stream.answer k₀.settings.codec k₀.settings.client f.2

/-- Where an activation stands, given what was noted. -/
inductive Stage (k₀ : Connection) (s₀ : Stream) (log : Log) : Handshake → Prop
  | waiting {k : Connection} {s : Stream} {timer : Timer} {wait : Wait} (hwired : Wired k₀ s₀ log k s)
      (hw : timer.wait? 0 = some wait) (hclock : Clock k₀.settings.activationTimeout log wait)
      (hroom : s.queue.length ≤ log.unread) (hread : log.last.isArrival = false → s.queue = [])
      (hresponses : responses k₀ s₀ log = (s.queue.filterMap k₀.activationIn?).map (log.time, ·)) :
      Stage k₀ s₀ log ⟨k, timer, .inl .activation⟩
  | settled {k : Connection} {s : Stream} {timer : Timer} {result : Except ActivationError Unit}
      (hwired : Wired k₀ s₀ log k s) (hstate : k.state = stateOf result)
      (hdecided : Decided k₀.settings.activationTimeout log.time (responses k₀ s₀ log) result)
      (hdue : (∃ p ∈ responses k₀ s₀ log, p.1 < k₀.settings.activationTimeout) ∨
        k₀.settings.activationTimeout ≤ log.time) :
      Stage k₀ s₀ log ⟨k, timer, .inr (.activation result)⟩

variable {k₀ k : Connection} {s₀ s : Stream} {log : Log} {h : Handshake} {wait : Wait} {bs : Bytes}

theorem begin_eq (hs : k.stream = some s) (hwhole : s.broken = false) :
    begin k = ⟨{ k with state := .activating, stream := some (s.write k.activationRequest) },
      Timer.arm {} 0 k.settings.activationTimeout, .inl .activation⟩ := by
  simp only [begin, Connection.beginActivation, Connection.writeActivation, Connection.write?, hs, hwhole]
  rfl

theorem Stage.begin (hk : k.Kept) (hs : k.stream = some s) (hrec : s.receiving = true) (hwhole : s.broken = false) :
    Stage k s { buffer := s.buffer, unread := s.queue.length } (begin k) := by
  rw [begin_eq hs hwhole]
  have hwrite : s.write k.activationRequest = { s with written := s.written ++ k.activationRequest } := by
    rw [Stream.write, if_neg (by simp [hwhole])]
  rw [hwrite]
  refine .waiting (s := { s with written := s.written ++ k.activationRequest }) ?_ rfl ?_ (Nat.le_refl _)
    (fun h => by cases h) ?_
  · exact
      { settings := rfl, server := rfl, stream := rfl, receiving := hrec, whole := hwhole
        kept := (hk s hs).of_le rfl (Nat.le_refl _) fun hr => ⟨hr, rfl⟩
        buffer := rfl
        written := (List.append_nil _).symm }
  · exact
      { stopped := rfl, remaining := rfl
        late := fun h => by cases h
        due := fun h => absurd h (Nat.not_lt_zero _)
        fresh := fun _ => rfl
        ends := fun _ h => absurd h (Nat.lt_irrefl 0) }
  · rw [responses, List.append_nil, List.filterMap_map, List.map_filterMap]
    rfl

/-! Arrivals and the passing of time. -/

theorem Wired.arrive (hwired : Wired k₀ s₀ log k s) (hal : log.Allows k₀.settings.codec (.arrive (.bytes bs))) :
    k.arrive (.bytes bs) = { k with stream := some (s.digest k₀.settings.codec k₀.settings.client bs) } ∧
    Wired k₀ s₀ (log.note k₀.settings.codec (.arrive (.bytes bs)))
      { k with stream := some (s.digest k₀.settings.codec k₀.settings.client bs) }
      (s.digest k₀.settings.codec k₀.settings.client bs) := by
  obtain ⟨-, hfault, -⟩ := hal
  rw [← hwired.buffer] at hfault
  refine ⟨?_, ?_⟩
  · simp [Connection.arrive, hwired.stream, hwired.settings,
      Stream.arrive_whole hwired.kept hwired.receiving hfault]
  · have hwritten : (s.digest k₀.settings.codec k₀.settings.client bs).written =
        s.written ++ (k₀.settings.codec.drain (s.buffer ++ bs)).frames.flatMap
          (Stream.answer k₀.settings.codec k₀.settings.client) := by
      simp only [Stream.digest, Stream.absorb, hwired.whole, Bool.false_eq_true, if_false]
    refine { hwired with
      stream := rfl, receiving := hwired.receiving, whole := hwired.whole, kept := hwired.kept.digest _ hfault
      buffer := ?_, written := ?_ }
    · show (k₀.settings.codec.drain (s.buffer ++ bs)).rest = (k₀.settings.codec.drain (log.buffer ++ bs)).rest
      rw [hwired.buffer]
    · rw [hwritten, hwired.written, hwired.buffer, List.append_assoc _ (List.flatMap _ _)]
      simp only [Log.note, List.flatMap_append, List.flatMap_map]

theorem responses_arrive (k₀ : Connection) (s₀ : Stream) (log : Log) (bs : Bytes) :
    responses k₀ s₀ (log.note k₀.settings.codec (.arrive (.bytes bs))) =
      responses k₀ s₀ log ++
        ((k₀.settings.codec.drain (log.buffer ++ bs)).frames.filterMap k₀.activationIn?).map (log.time, ·) := by
  simp only [responses, Log.note, ← List.append_assoc, List.filterMap_append, List.filterMap_map, List.map_filterMap]
  rfl

theorem Stage.arrive (hstage : Stage k₀ s₀ log h) (hal : log.Allows k₀.settings.codec (.arrive (.bytes bs))) :
    Stage k₀ s₀ (log.note k₀.settings.codec (.arrive (.bytes bs))) (h.step (.arrive (.bytes bs))) := by
  cases hstage with
  | @waiting k s timer wait hwired hw hclock hroom hread hresponses =>
    obtain ⟨harrive, hwired'⟩ := hwired.arrive hal
    obtain ⟨hpass, -, hfits⟩ := hal
    have hqueue : (s.digest k₀.settings.codec k₀.settings.client bs).queue =
        s.queue ++ (k₀.settings.codec.drain (log.buffer ++ bs)).frames.filter Stream.forwards := by
      rw [← hwired.buffer] at hfits ⊢
      refine Stream.digest_queue ?_
      rw [List.length_append]
      omega
    show Stage k₀ s₀ _ ⟨k.arrive (.bytes bs), timer, .inl .activation⟩
    rw [harrive]
    refine .waiting hwired' hw ⟨hclock.toClock.arrive hpass _, hclock.ends⟩ ?_ nofun ?_
    · rw [hqueue, List.length_append]
      exact Nat.add_le_add_right hroom _
    · rw [responses_arrive, hresponses, hqueue, List.filterMap_append, Connection.filterMap_forwards, List.map_append]
      rfl
  | @settled k s timer result hwired hstate hdecided hdue =>
    obtain ⟨harrive, hwired'⟩ := hwired.arrive hal
    show Stage k₀ s₀ _ ⟨k.arrive (.bytes bs), timer, .inr (.activation result)⟩
    rw [harrive]
    refine .settled hwired' hstate ?_ ?_
    · rw [responses_arrive]
      refine hdecided.append fun p hp => ?_
      obtain ⟨r, -, rfl⟩ := List.mem_map.1 hp
      exact Nat.le_refl _
    · rw [responses_arrive]
      exact hdue.imp (fun ⟨p, hp, hlt⟩ => ⟨p, List.mem_append_left _ hp, hlt⟩) id

theorem Wired.pass (hwired : Wired k₀ s₀ log k s) (ms : Nat) :
    Wired k₀ s₀ (log.note k₀.settings.codec (.pass ms)) k s := { hwired with }

theorem Clock.pass {timeout : Nat} (hclock : Clock timeout log wait) (codec : Codec) (ms : Nat) :
    Clock timeout (log.note codec (.pass ms)) (wait.elapse ms) := by
  have hrem := hclock.remaining
  refine ⟨hclock.toClock.pass ms codec, fun hover _ => ?_⟩
  have hle : timeout ≤ log.time + ms := hover
  exact Bool.or_eq_true_iff.2 (.inr (decide_eq_true (by omega)))

theorem Stage.pass (hstage : Stage k₀ s₀ log h) {ms : Nat} (hal : log.Allows k₀.settings.codec (.pass ms)) :
    Stage k₀ s₀ (log.note k₀.settings.codec (.pass ms)) (h.step (.pass ms)) := by
  cases hstage with
  | @waiting k s timer wait hwired hw hclock hroom hread hresponses =>
    have hqueue := hread hal
    refine .waiting (hwired.pass ms) ?_ (hclock.pass _ ms) hroom (fun _ => hqueue) ?_
    · show (timer.elapse ms).wait? 0 = _
      rw [Timer.wait?_elapse, hw]
      rfl
    · show responses k₀ s₀ log = _
      rw [hresponses, hqueue]
      rfl
  | settled hwired hstate hdecided hdue =>
    exact .settled (hwired.pass ms) hstate (hdecided.after ms)
      (hdue.imp id fun h => Nat.le_trans h (Nat.le_add_right _ _))

/-! Looks. -/

theorem Wired.activationIn?_eq (hwired : Wired k₀ s₀ log k s) : k.activationIn? = k₀.activationIn? := by
  funext m
  unfold Connection.activationIn?
  rw [hwired.settings, hwired.server]

theorem Wired.look (hwired : Wired k₀ s₀ log k s) {k' : Connection} {rest : List Message} (hrest : rest <:+ s.queue)
    (hset : k'.settings = k.settings) (hserver : k'.server = k.server)
    (hstream : k'.stream = some { s with queue := rest }) :
    Wired k₀ s₀ (log.note k₀.settings.codec .look) k' { s with queue := rest } :=
  { hwired with
    settings := hset.trans hwired.settings
    server := hserver.trans hwired.server
    stream := hstream
    kept := hwired.kept.of_le rfl hrest.length_le fun h => ⟨h, rfl⟩ }

theorem Clock.in_time {timeout : Nat} (hclock : Clock timeout log wait)
    (hread : log.last.isArrival = false → s.queue = []) (hne : s.queue ≠ []) (hdeadline : log.time ≠ timeout) :
    log.time < timeout := by
  have hpass : log.last.isPass = false := by
    cases hlast : log.last with
    | pass ms => exact absurd (hread (by rw [hlast]; rfl)) hne
    | _ => rfl
  have hexpired := hclock.fresh hpass
  by_contra hover
  have hdue := hclock.ends (by omega) (by omega)
  rw [hdue] at hexpired
  cases hexpired

theorem first_response {r : ActivationResponse} (hclock : Clock k₀.settings.activationTimeout log wait)
    (hread : log.last.isArrival = false → s.queue = [])
    (hresponses : responses k₀ s₀ log = (s.queue.filterMap k₀.activationIn?).map (log.time, ·))
    (hdeadline : ∀ r, (k₀.settings.activationTimeout, r) ∉ responses k₀ s₀ log)
    (hfound : s.queue.findSome? k₀.activationIn? = some r) :
    log.time < k₀.settings.activationTimeout ∧
      (responses k₀ s₀ log).find? (·.1 < k₀.settings.activationTimeout) = some (log.time, r) := by
  have hne : s.queue ≠ [] := by
    intro hempty
    rw [hempty] at hfound
    cases hfound
  obtain ⟨rest, hqueue⟩ : ∃ rest, s.queue.filterMap k₀.activationIn? = r :: rest := by
    rw [← List.head?_filterMap] at hfound
    exact List.head?_eq_some_iff.1 hfound
  have hhead : responses k₀ s₀ log = (log.time, r) :: rest.map (log.time, ·) := by rw [hresponses, hqueue]; rfl
  have hin : (log.time, r) ∈ responses k₀ s₀ log := hhead ▸ List.mem_cons_self
  have hlt := hclock.in_time hread hne fun heq => hdeadline r (heq ▸ hin)
  refine ⟨hlt, ?_⟩
  rw [hhead]
  exact List.find?_cons_of_pos (decide_eq_true hlt)

theorem resume_heard {r : ActivationResponse} (hs : k.stream = some s) (hstop : wait.stopped = false)
    (hfirst : s.queue.findSome? k.activationIn? = some r) :
    k.resume "" wait false .activation =
      ({ k.searched s k.selectActivation with
          state := stateOf (if r.code.raw = 0x10 then .ok () else .error (.rejected r.code)) },
        .inr (.activation (if r.code.raw = 0x10 then .ok () else .error (.rejected r.code)))) := by
  obtain ⟨-, m, -, -, hm, -⟩ := List.findSome?_eq_some_iff.1 hfirst
  have hcode := Connection.routingSuccessful_iff_of_activationIn hm
  have hpoll := Connection.poll_eq hs hstop k.selectActivation
  rw [Connection.search_activation, hfirst] at hpoll
  by_cases hok : r.code = .routingSuccessful
  · have hraw := hcode.1 hok
    simp only [Connection.resume, hpoll, Connection.finishActivation, if_pos hok, if_pos hraw]
    rfl
  · have hraw := mt hcode.2 hok
    simp only [Connection.resume, hpoll, Connection.finishActivation, if_neg hok, if_neg hraw]
    rfl

theorem resume_unheard (hs : k.stream = some s) (hrec : s.receiving = true) (hstop : wait.stopped = false)
    (hnone : s.queue.findSome? k.activationIn? = none) :
    k.resume "" wait false .activation =
      if wait.expired then
        ({ k.searched s k.selectActivation with state := .faulted }, .inr (.activation (.error .timeout)))
      else (k.searched s k.selectActivation, .inl .activation) := by
  have hpoll := Connection.poll_eq hs hstop k.selectActivation
  rw [Connection.search_activation, hnone] at hpoll
  cases hexpired : wait.expired <;>
    simp [Connection.resume, hpoll, hrec, hexpired, Connection.finishActivation, ActivationError.ofReceive]

theorem Stage.look (hstage : Stage k₀ s₀ log h)
    (hdeadline : ∀ r, (k₀.settings.activationTimeout, r) ∉ responses k₀ s₀ log) :
    Stage k₀ s₀ (log.note k₀.settings.codec .look) h.look := by
  cases hstage with
  | @waiting k s timer wait hwired hw hclock hroom hread hresponses =>
    have hrest := Stream.search_rest_suffix k.selectActivation s.queue
    have hsame := hwired.activationIn?_eq
    cases hfound : s.queue.findSome? k₀.activationIn? with
    | some r =>
      have hres := resume_heard hwired.stream hclock.stopped (hsame ▸ hfound)
      obtain ⟨hlt, hfirst⟩ := first_response hclock hread hresponses hdeadline hfound
      simp only [Handshake.look, hw, hres]
      exact .settled (hwired.look hrest rfl rfl rfl) rfl (decided_heard hfirst)
        (.inl ⟨_, List.mem_of_find?_eq_some hfirst, hlt⟩)
    | none =>
      have hres := resume_unheard hwired.stream hwired.receiving hclock.stopped (hsame ▸ hfound)
      have hempty : responses k₀ s₀ log = [] := by
        rw [hresponses, List.filterMap_eq_nil_iff.2 (List.findSome?_eq_none_iff.1 hfound)]
        rfl
      cases hexpired : wait.expired with
      | true =>
        have hover := hclock.late hexpired
        rw [hexpired, if_pos rfl] at hres
        simp only [Handshake.look, hw, hres]
        refine .settled (hwired.look hrest rfl rfl rfl) rfl (decided_late ?_ hover) (.inr hover)
        show (responses k₀ s₀ log).find? _ = none
        rw [hempty]
        rfl
      | false =>
        rw [hexpired, if_neg Bool.false_ne_true] at hres
        have hleft : (Stream.search k.selectActivation s.queue).2.2 = [] := by
          refine Stream.search_rest ?_
          rw [k.search_activation, hsame, hfound]
        have hset : (k.searched s k.selectActivation).settings = k.settings := rfl
        have hcleared := hwired.look hrest hset rfl rfl
        simp only [Handshake.look, hw, hres]
        rw [hleft] at hcleared
        refine .waiting hcleared hw ⟨hclock.toClock.look hexpired _, hclock.ends⟩ (Nat.zero_le _) (fun _ => rfl) ?_
        exact hempty
  | settled hwired hstate hdecided hdue =>
    exact .settled { hwired with } hstate hdecided hdue

/-! Runs. -/

theorem Stage.step (hstage : Stage k₀ s₀ log h) (a : Happening) (hal : log.Allows k₀.settings.codec a)
    (hdeadline : ∀ r, (k₀.settings.activationTimeout, r) ∉ responses k₀ s₀ log) :
    Stage k₀ s₀ (log.note k₀.settings.codec a) (h.step a) := by
  cases a with
  | arrive a =>
    cases a with
    | bytes bs => exact hstage.arrive hal
    | endOfStream => exact hal.elim
    | failure => exact hal.elim
  | pass ms => exact hstage.pass hal
  | look => exact hstage.look hdeadline

theorem responses_noteAll (k₀ : Connection) (s₀ : Stream) (log : Log) (hs : List Happening) :
    ∃ later, responses k₀ s₀ (log.noteAll k₀.settings.codec hs) = responses k₀ s₀ log ++ later := by
  obtain ⟨later, hlater⟩ := log.frames_noteAll k₀.settings.codec hs
  exact ⟨_, by rw [responses, hlater, ← List.append_assoc, List.filterMap_append, ← responses]⟩

theorem Stage.run {hs : List Happening} (hstage : Stage k₀ s₀ log h) (hord : log.Orderly k₀.settings.codec hs)
    (hdeadline : ∀ r, (k₀.settings.activationTimeout, r) ∉ responses k₀ s₀ (log.noteAll k₀.settings.codec hs)) :
    Stage k₀ s₀ (log.noteAll k₀.settings.codec hs) (h.run hs) := by
  induction hs generalizing log h with
  | nil => exact hstage
  | cons a hs ih =>
    obtain ⟨hal, hrest⟩ := hord
    refine ih (hstage.step a hal fun r hr => ?_) hrest hdeadline
    obtain ⟨later, hlater⟩ := responses_noteAll k₀ s₀ log (a :: hs)
    exact hdeadline r (hlater ▸ List.mem_append_left _ hr)

theorem Stage.outcome (hstage : Stage k₀ s₀ log h) {result : Except ActivationError Unit}
    (hresult : h.result? = some result) :
    result = verdict k₀.settings.activationTimeout (responses k₀ s₀ log) ∧ h.connection.state = stateOf result := by
  cases hstage with
  | waiting => cases hresult
  | settled _ hstate hdecided =>
    obtain rfl := Option.some.inj hresult
    exact ⟨hdecided.verdict_eq.symm, hstate⟩

theorem Stage.result_eq (hstage : Stage k₀ s₀ log h) (hlast : log.last = .look)
    (htime : 0 < k₀.settings.activationTimeout ∨ 0 < log.time) :
    h.result? =
      if (∃ p ∈ responses k₀ s₀ log, p.1 < k₀.settings.activationTimeout) ∨ k₀.settings.activationTimeout ≤ log.time
      then some (verdict k₀.settings.activationTimeout (responses k₀ s₀ log)) else none := by
  cases hstage with
  | waiting _ _ hclock _ hread hresponses =>
    have hqueue := hread (by rw [hlast]; rfl)
    have hexpired := hclock.fresh (by rw [hlast]; rfl)
    refine (if_neg ?_).symm
    rintro (⟨p, hp, -⟩ | hover)
    · rw [hresponses, hqueue] at hp
      cases hp
    · have hdue := hclock.ends hover (by omega)
      rw [hexpired] at hdue
      cases hdue
  | settled _ _ hdecided hdue =>
    rw [if_pos hdue, hdecided.verdict_eq]
    rfl

theorem Stage.wired (hstage : Stage k₀ s₀ log h) : ∃ s, Wired k₀ s₀ log h.connection s := by
  cases hstage with
  | waiting hwired => exact ⟨_, hwired⟩
  | settled hwired => exact ⟨_, hwired⟩

/-- A run that does not lose the connection and leaves room for every frame, and in which no response comes at the very
end of the time for it. -/
structure Fair (k : Connection) (s : Stream) (log : Log) (hs : List Happening) : Prop where
  orderly : log.Orderly k.settings.codec hs
  punctual : ∀ r, (k.settings.activationTimeout, r) ∉ responses k s (log.noteAll k.settings.codec hs)

/-- The first response for this pair of addresses that is there before the time is over decides an activation: it
succeeds when the code says so, is rejected with any other code, and without such a response it fails when its time is
over. The state of the connection says the same. Whatever else arrives and however the bytes are cut, the result and the
moment depend on these responses and on the time alone; and beside the answers of the receiver one frame is written, the
request. -/
theorem activation_verdict (hk : k.Reachable) (hs : k.stream = some s) (hrec : s.receiving = true)
    (hwhole : s.broken = false) :
    let timeout := k.settings.activationTimeout
    let start : Log := { buffer := s.buffer, unread := s.queue.length }
    let logged (hs : List Happening) := start.noteAll k.settings.codec hs
    let heard (hs : List Happening) := responses k s (logged hs)
    let after (hs : List Happening) := (begin k).run hs
    (∀ hs, Fair k s start hs → ∀ result, (after hs).result? = some result →
      result = verdict timeout (heard hs) ∧ (after hs).connection.state = stateOf result) ∧
    (∀ hs, Fair k s start hs → (logged hs).last = .look → 0 < timeout ∨ 0 < (logged hs).time →
      (after hs).result? =
        if (∃ p ∈ heard hs, p.1 < timeout) ∨ timeout ≤ (logged hs).time then some (verdict timeout (heard hs))
        else none) ∧
    ∀ hs, Fair k s start hs → ∃ s', (after hs).connection.stream = some s' ∧
      s'.written = s.written ++
        k.settings.codec.encodePayload (.activationRequest ⟨k.settings.client, k.settings.activationType, none⟩) ++
        (logged hs).frames.flatMap fun f => Stream.answer k.settings.codec k.settings.client f.2 := by
  intro timeout start logged heard after
  have hstage : ∀ hs, Fair k s start hs → Stage k s (logged hs) (after hs) :=
    fun hs' hfair => (Stage.begin hk.kept hs hrec hwhole).run hfair.orderly hfair.punctual
  refine ⟨fun hs' hfair result hresult => (hstage hs' hfair).outcome hresult,
    fun hs' hfair hlast htime => (hstage hs' hfair).result_eq hlast htime, fun hs' hfair => ?_⟩
  obtain ⟨s', hwired⟩ := (hstage hs' hfair).wired
  exact ⟨s', hwired.stream, hwired.written⟩

/-- A connection that has its stream and nothing on it. -/
def connected : Connection where
  settings := Conversation.asking.settings
  server := 0x1000
  state := .connecting
  dial := .established
  stream := some {}

/-- A response for another client, one that is too short, and a frame for the receiver. -/
def noise : List Message :=
  [.of 2 .routingActivationResponse (ActivationResponse.encode ⟨0x0E01, 0x1000, .unknownSourceAddress, none⟩),
    .of 2 .routingActivationResponse [0x0E, 0x00], .of 2 .aliveCheckRequest []]

def noisy : List Happening :=
  Log.schedule [(5, noise.flatMap Message.toBytes), (10, Conversation.welcome.toBytes)]

theorem connected_reachable : connected.Reachable := by
  have hdialled : Connection.Reachable
      { Connection.beginConnect { settings := connected.settings, server := 0x1000 } with dial := .established } :=
    .outside (.beginConnect (.fresh connected.settings 0x1000)) (.dialled _ .established)
  exact .owner hdialled (.resume _ "" { key := 0, remaining := 5000 } false .connect)

theorem drain_noise : Codec.drain {} ([] ++ noise.flatMap Message.toBytes) = { frames := noise } :=
  Codec.drain_frames (by decide)

theorem logged_noisy : Log.noteAll {} { buffer := [] } noisy =
    { time := 15, buffer := [], frames := noise.map (5, ·) ++ [(15, Conversation.welcome)], last := .look } := by
  have hwelcome : Codec.drain {} ([] ++ Conversation.welcome.toBytes) = { frames := [Conversation.welcome] } :=
    Conversation.drain_welcome
  simp only [noisy, Log.schedule, Log.noteAll, List.foldl_cons, List.foldl_nil, Log.note, drain_noise, hwelcome]
  rfl

/-- The welcome comes behind a response for another client, one that is too short and an alive check, and activates the
routing after 15 ms; the alive check has been answered behind the request. -/
theorem activation_in_noise :
    ((begin connected).run noisy).result? = some (.ok ()) ∧
    ((begin connected).run noisy).connection.state = .activated ∧
    ∃ s, ((begin connected).run noisy).connection.stream = some s ∧
      s.written = Codec.encodePayload {} (.activationRequest ⟨0x0E00, .default, none⟩) ++
        Codec.encodePayload {} (.aliveCheckResponse 0x0E00) := by
  have hheard : responses connected {} (Log.noteAll {} { buffer := [] } noisy) =
      [(15, ⟨0x0E00, 0x1000, .routingSuccessful, none⟩)] := by
    rw [logged_noisy]
    rfl
  have hfair : Fair connected {} { buffer := [] } noisy := by
    refine ⟨Log.orderly_schedule ?_, fun r hr => ?_⟩
    · show ∀ d ∈ Codec.feed {} [] [noise.flatMap Message.toBytes, Conversation.welcome.toBytes], _
      have hwelcome : Codec.drain {} ([] ++ Conversation.welcome.toBytes) = { frames := [Conversation.welcome] } :=
        Conversation.drain_welcome
      simp only [Codec.feed, drain_noise, hwelcome]
      decide
    · have hin : (2000, r) ∈ responses connected {} (Log.noteAll {} { buffer := [] } noisy) := hr
      rw [hheard] at hin
      cases List.mem_singleton.1 hin
  obtain ⟨hstate, hresult, hwritten⟩ := activation_verdict connected_reachable rfl rfl rfl
  have hover : ((begin connected).run noisy).result? = some (.ok ()) := by
    refine (hresult noisy hfair ?_ (.inl (by decide))).trans ?_
    · show (Log.noteAll {} { buffer := [] } noisy).last = .look
      rw [logged_noisy]
    · show (if (∃ p ∈ responses connected {} (Log.noteAll {} { buffer := [] } noisy), p.1 < 2000) ∨
          2000 ≤ (Log.noteAll {} { buffer := [] } noisy).time then
          some (verdict 2000 (responses connected {} (Log.noteAll {} { buffer := [] } noisy))) else none) = _
      rw [hheard, if_pos (.inl ⟨_, List.mem_singleton_self _, by decide⟩)]
      rfl
  refine ⟨hover, (hstate noisy hfair _ hover).2, ?_⟩
  obtain ⟨s, hs, hw⟩ := hwritten noisy hfair
  refine ⟨s, hs, hw.trans ?_⟩
  show [] ++ Codec.encodePayload {} (.activationRequest ⟨0x0E00, .default, none⟩) ++
    (Log.noteAll {} { buffer := [] } noisy).frames.flatMap _ = _
  rw [logged_noisy]
  rfl

end Handshake
end Doip
