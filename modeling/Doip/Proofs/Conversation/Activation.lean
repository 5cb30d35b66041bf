import Doip.Proofs.Conversation.Run

/-! When routing counts as activated. A connect that looks at its queue takes the first response in it, whether
or not the receiver still runs (`look_succeeds_iff`), and writes its verdict over a loss that the receiver has
recorded. So a connect succeeds on a lost connection exactly when a positive response was queued before the
end (`succeeds_after_loss_iff`), and nothing shows the loss until the next request. -/

namespace Doip

namespace Connection

variable {k k' : Connection} {s : Stream} {wait : Wait} {shutDown : Bool} {endpoint : String}

/-- The response in a frame, if it is one for this pair of addresses. -/
def activationIn? (k : Connection) (m : Message) : Option ActivationResponse :=
  match Payload.parse m with
  | .ok (.activationResponse r) => if r.client = k.settings.client ∧ r.server = k.server then some r else none
  | _ => none

def heard (k : Connection) (ms : List Message) : Option ActivationCode :=
  (ms.findSome? k.activationIn?).map (·.code)

theorem search_activation (k : Connection) (ms : List Message) :
    (Stream.search k.selectActivation ms).1 = ms.findSome? k.activationIn? := by
  induction ms with
  | nil => rfl
  | cons m ms ih =>
    rw [List.findSome?_cons, Stream.search, activationIn?, selectActivation]
    cases hm : Payload.parse m with
    | error e => exact ih
    | ok p =>
      cases p with
      | activationResponse r =>
        by_cases hr : r.client = k.settings.client ∧ r.server = k.server
        · simp only [if_pos hr]
        · simp only [if_neg hr]
          exact ih
      | _ => exact ih

theorem resume_activation (hs : k.stream = some s) (hw : (shutDown || wait.stopped) = false)
    (hq : k.heard s.queue = some .routingSuccessful) :
    k.resume endpoint wait shutDown .activation =
      ({ k.searched s k.selectActivation with state := .activated }, .inr (.activation (.ok ()))) := by
  obtain ⟨rfl, hst⟩ : shutDown = false ∧ wait.stopped = false := by simpa using hw
  obtain ⟨r, hfound, hcode⟩ := Option.map_eq_some_iff.1 hq
  rw [← search_activation] at hfound
  simp only [resume, poll_eq hs hst, hfound, finishActivation, hcode, if_true]

theorem resume_activation_ok (hs : k.stream = some s)
    (h : (k.resume endpoint wait shutDown .activation).2 = .inr (.activation (.ok ()))) :
    (shutDown || wait.stopped) = false ∧ k.heard s.queue = some .routingSuccessful := by
  cases hw : shutDown || wait.stopped with
  | true => simp [resume, poll_cancelled hs hw, finishActivation] at h
  | false =>
    obtain ⟨rfl, hst⟩ : shutDown = false ∧ wait.stopped = false := by simpa using hw
    refine ⟨rfl, ?_⟩
    have hfirst := search_activation k s.queue
    simp only [resume, poll_eq hs hst] at h
    cases hf : (Stream.search k.selectActivation s.queue).1 with
    | some r =>
      rw [hf] at h hfirst
      rw [heard, ← hfirst]
      by_cases hc : r.code = .routingSuccessful
      · rw [Option.map_some, hc]
      · simp [finishActivation, hc] at h
    | none =>
      rw [hf] at h
      cases hrec : s.receiving <;> cases hexp : wait.expired <;> simp [hrec, hexp, finishActivation] at h

end Connection

/-- The connection whose activation a connect asks for or waits for. -/
def ConnectPoint.activates : ConnectPoint → Option Nat
  | .writing _ conn => some conn
  | .waiting _ conn .activation => some conn
  | _ => none

namespace Conversation

variable {w : Worker} {id conn : Nat} {target : Address} {host : Option IpAddress} {point : ConnectPoint}
variable {inside : Bool} {c : Conversation} {k : Connection} {s : Stream}

def Unhindered (w : Worker) (c : Conversation) (id : Nat) : ConnectPoint → Prop
  | .writing _ conn => w.cancelled = false ∧ (c.connections[conn]?.bind (·.stream)).any (!·.broken)
  | .waiting _ _ .activation => w.cancelled = false ∧ (c.timer.wait? id).any (!·.stopped)
  | _ => False

def HasEnded (c : Conversation) (conn : Nat) : Prop :=
  (c.connections[conn]?.bind (·.stream)).any (!·.receiving)

/-- A conversation after a connect has succeeded: its connection is activated, whatever its receiver does. -/
structure Activated (c c' : Conversation) (conn : Nat) : Prop where
  state : ∃ k, c'.connections[conn]? = some k ∧ k.state = .activated
  ended : c'.HasEnded conn ↔ c.HasEnded conn
  link : c'.link = c.link
  running : c'.running = c.running

theorem hasEnded_iff (hk : c.connections[conn]? = some k) (hs : k.stream = some s) :
    c.HasEnded conn ↔ s.receiving = false := by
  simp [HasEnded, hk, hs]

theorem afterConnectWait_success {r : Conversation × (Waiting ⊕ Settled)} {endpoint : Endpoint}
    (h : (afterConnectWait target host endpoint conn r).2 = .returned (.connect .success)) :
    r.2 = .inr (.activation (.ok ())) := by
  obtain ⟨c, result⟩ := r
  unfold afterConnectWait at h
  split at h
  · cases h
  · cases h
  · rename_i heq
    exact congrArg Prod.snd heq
  · cases h

theorem resumeWait_activates {wait : Wait} (hw : c.timer.wait? id = some wait) (hk : c.connections[conn]? = some k)
    (hs : k.stream = some s) (hfree : (w.cancelled || wait.stopped) = false)
    (hq : k.heard s.queue = some .routingSuccessful) (text : String) (endpoint : Endpoint) :
    ∃ c', afterConnectWait target host endpoint conn (c.resumeWait w id text conn .activation) =
      (c', .returned (.connect .success)) ∧ Activated c c' conn := by
  have hres : c.resumeWait w id text conn .activation =
      ({ c.modifyConnection conn fun _ => { k.searched s k.selectActivation with state := .activated } with
          timer := c.timer.finish id }, .inr (.activation (.ok ()))) :=
    resumeWait_inr hw hk (Connection.resume_activation hs hfree hq)
  have hnew := getElem?_modifyConnection hk fun _ => { k.searched s k.selectActivation with state := .activated }
  rw [hres]
  refine ⟨_, rfl, ⟨_, hnew, rfl⟩, ?_, rfl, rfl⟩
  exact (hasEnded_iff hnew rfl).trans (hasEnded_iff hk hs).symm

theorem resumeWait_activation_ok (hk : c.connections[conn]? = some k) (hs : k.stream = some s) {text : String}
    (h : (c.resumeWait w id text conn .activation).2 = .inr (.activation (.ok ()))) :
    ∃ wait, c.timer.wait? id = some wait ∧ (w.cancelled || wait.stopped) = false ∧
      k.heard s.queue = some .routingSuccessful := by
  cases hw : c.timer.wait? id with
  | none => simp [resumeWait, hw] at h
  | some wait =>
    have hok : (k.resume text wait w.cancelled .activation).2 = .inr (.activation (.ok ())) := by
      cases hres : k.resume text wait w.cancelled .activation with
      | mk k' result =>
        cases result with
        | inl waiting =>
          rw [resumeWait_inl hw hk hres] at h
          cases h
        | inr settled =>
          rw [resumeWait_inr hw hk hres] at h
          exact h
    exact ⟨wait, rfl, Connection.resume_activation_ok hs hok⟩

/-- The conversation of a connect that has written its request and begins to wait for the activation. -/
def asked (c : Conversation) (id conn : Nat) (k : Connection) (s : Stream) : Conversation :=
  { c.modifyConnection conn fun _ => { k with stream := some (s.write k.activationRequest) } with
    timer := c.timer.arm id k.settings.activationTimeout }

theorem stepConnect_writing (hk : c.connections[conn]? = some k) (hs : k.stream = some s)
    (hb : s.broken = false) (endpoint : Endpoint) :
    stepConnect w id target host inside c (.writing endpoint conn) =
      afterConnectWait target host endpoint conn
        ((c.asked id conn k s).resumeWait w id (endpointText endpoint) conn .activation) := by
  simp [stepConnect, hk, Connection.writeActivation, Connection.write?, hs, hb, beginWait, asked, modifyConnection]

theorem stepConnect_writing_broken (hk : c.connections[conn]? = some k) (hs : k.stream = some s)
    (hb : s.broken = true) (endpoint : Endpoint) :
    (stepConnect w id target host inside c (.writing endpoint conn)).2 = .connect target host (.failing conn) := by
  simp [stepConnect, hk, Connection.writeActivation, Connection.write?, hs, hb, failConnect]

theorem stepConnect_succeeds (hc : Reachable c) (ht : c.threads[id]? = some ⟨.connect target host point, inside⟩)
    (hp : point.activates = some conn) (hk : c.connections[conn]? = some k) (hs : k.stream = some s)
    (hun : c.Unhindered w id point) (hq : k.heard s.queue = some .routingSuccessful) :
    ∃ c', stepConnect w id target host inside c point = (c', .returned (.connect .success)) ∧
      Activated c c' conn := by
  unfold ConnectPoint.activates at hp
  split at hp
  · rename_i endpoint i
    cases hp
    obtain ⟨hcan, hb⟩ : w.cancelled = false ∧ s.broken = false := by simpa [Unhindered, hk, hs] using hun
    have hn : c.timer.wait? id = none := hc.wait?_eq_none ht rfl
    have hw : (c.asked id conn k s).timer.wait? id = some _ := Timer.wait?_arm hn _
    have hk' : (c.asked id conn k s).connections[conn]? = some _ := getElem?_modifyConnection hk _
    have hq' : Connection.heard k (s.write k.activationRequest).queue = some .routingSuccessful := by
      rwa [Stream.write_queue]
    obtain ⟨c', heq, hact⟩ := resumeWait_activates (w := w) hw hk' rfl (by simp [hcan]) hq'
      (endpointText endpoint) endpoint
    rw [stepConnect_writing hk hs hb]
    refine ⟨c', heq, hact.state, hact.ended.trans ?_, hact.link, hact.running⟩
    rw [hasEnded_iff hk' rfl, hasEnded_iff hk hs, Stream.write_receiving]
  · rename_i endpoint i
    cases hp
    obtain ⟨hcan, hst⟩ := hun
    cases hw : c.timer.wait? id with
    | none => simp [hw] at hst
    | some wait =>
      have hfree : (w.cancelled || wait.stopped) = false := by simpa [hw, hcan] using hst
      exact resumeWait_activates hw hk hs hfree hq (endpointText endpoint) endpoint
  · cases hp

theorem unhindered_of_success (hp : point.activates = some conn) (hk : c.connections[conn]? = some k)
    (hs : k.stream = some s)
    (h : (stepConnect w id target host inside c point).2 = .returned (.connect .success)) :
    c.Unhindered w id point ∧ k.heard s.queue = some .routingSuccessful := by
  unfold ConnectPoint.activates at hp
  split at hp
  · rename_i endpoint i
    cases hp
    have hun : c.Unhindered w id (.writing endpoint conn) ↔ w.cancelled = false ∧ s.broken = false := by
      simp [Unhindered, hk, hs]
    rw [hun]
    cases hb : s.broken with
    | true =>
      rw [stepConnect_writing_broken hk hs hb] at h
      cases h
    | false =>
      have hk' : (c.asked id conn k s).connections[conn]? = some _ := getElem?_modifyConnection hk _
      rw [stepConnect_writing hk hs hb] at h
      obtain ⟨wait, -, hfree, hq⟩ := resumeWait_activation_ok hk' rfl (afterConnectWait_success h)
      rw [Stream.write_queue] at hq
      exact ⟨⟨(Bool.or_eq_false_iff.1 hfree).1, rfl⟩, hq⟩
  · rename_i endpoint i
    cases hp
    obtain ⟨wait, hw, hfree, hq⟩ := resumeWait_activation_ok hk hs (afterConnectWait_success h)
    obtain ⟨hcan, hst⟩ := Bool.or_eq_false_iff.1 hfree
    exact ⟨⟨hcan, by simp [hw, hst]⟩, hq⟩
  · cases hp

/-- At the next look a connect succeeds exactly when it is not hindered and the first response in its queue is
positive; whether the receiver still runs does not matter. -/
theorem look_succeeds_iff (hc : Reachable c) (ht : c.threads[id]? = some ⟨.connect target host point, inside⟩)
    (hp : point.activates = some conn) (hk : c.connections[conn]? = some k) (hs : k.stream = some s) :
    (c.advance w id).outcome? id = some (.connect .success) ↔
      c.Unhindered w id point ∧ k.heard s.queue = some .routingSuccessful := by
  rw [outcome?_eq_some_iff (getElem?_advance ht)]
  constructor
  · exact unhindered_of_success hp hk hs
  · rintro ⟨hun, hq⟩
    obtain ⟨c', heq, -⟩ := stepConnect_succeeds hc ht hp hk hs hun hq
    exact congrArg Prod.snd heq

theorem look_activates (hc : Reachable c) (ht : c.threads[id]? = some ⟨.connect target host point, inside⟩)
    (hp : point.activates = some conn) (hk : c.connections[conn]? = some k) (hs : k.stream = some s)
    (h : (c.advance w id).outcome? id = some (.connect .success)) : Activated c (c.advance w id) conn := by
  obtain ⟨hun, hq⟩ := (look_succeeds_iff hc ht hp hk hs).1 h
  obtain ⟨c', heq, hact⟩ := stepConnect_succeeds hc ht hp hk hs hun hq
  rw [advance_eq ht]
  simp only [stepCall, heq]
  exact ⟨hact.state, hact.ended, hact.link, hact.running⟩

/-! A look after some arrivals. -/

/-- The answer to a connect that is called now and takes its first two steps at once. -/
def connectNow (w : Worker) (c : Conversation) (target : Address) (host : Option IpAddress) (inside : Bool) :
    Option Outcome :=
  let id := c.threads.length
  (((c.apply w (.call (.connect target host) inside)).advance w id).advance w id).outcome? id

theorem connectNow_of_activated (hrun : c.running = true) (hst : c.state = .activated) (target : Address)
    (host : Option IpAddress) (inside : Bool) :
    c.connectNow w target host inside = some (.connect .alreadyConnected) := by
  let called := c.apply w (.call (.connect target host) inside)
  have hcalled : called.threads[c.threads.length]? = some ⟨.connect target host .entered, inside⟩ :=
    List.getElem?_concat_length
  have hstep : stepCall w c.threads.length inside called (.connect target host .entered) =
      (called, .connect target host .checked) := if_pos hrun
  have hchecked := getElem?_advance (w := w) hcalled
  rw [hstep] at hchecked
  refine (outcome?_eq_some_iff (getElem?_advance hchecked)).2 ?_
  have hstate : (called.advance w c.threads.length).state = .activated := by
    rw [advance_eq hcalled, hstep]
    exact hst
  simp [stepCall, stepConnect, hstate, finishCall]

theorem state_of_link {l : Link} (hl : c.link = some l) (hk : c.connections[l.connection]? = some k) :
    c.state = k.state := by
  simp [state, hl, hk]

/-- Between two looks of a connect that activates, the receiver may take in any frames and end. The connect
succeeds on the ended stream exactly when nothing hinders the look and the first response among the frames that
found room is positive. The loss was recorded before, is overwritten, and later connects find the connection
activated. -/
theorem succeeds_after_loss_iff (h : Reachable c)
    (ht : c.threads[id]? = some ⟨.connect target host point, inside⟩) (hp : point.activates = some conn)
    (hk : c.connections[conn]? = some k) (hstr : k.stream = some s) (hr : s.receiving = true)
    {hs : List Happening} (hn : .look ∉ hs) :
    let arrivals := Happening.arrivals hs
    let d := k.settings.codec.drain (s.buffer ++ Arrival.bytesOf arrivals)
    let before := run w conn id c hs
    let after := before.advance w id
    (after.outcome? id = some (.connect .success) ∧ after.HasEnded conn ↔
      before.Unhindered w id point ∧ (d.fault.isSome ∨ Arrival.endsIn arrivals) ∧
        k.heard ((s.queue ++ d.frames.filter Stream.forwards).take queueDepth) = some .routingSuccessful) ∧
    (after.outcome? id = some (.connect .success) → after.HasEnded conn →
      (k.closed = false → ∃ k', before.connections[conn]? = some k' ∧ k'.state = .faulted) ∧
      (∃ k', after.connections[conn]? = some k' ∧ k'.state = .activated) ∧
      (c.running = true → c.link.map (·.connection) = some conn →
        ∀ target host inside, after.connectNow w target host inside = some (.connect .alreadyConnected))) := by
  intro arrivals d before after
  have hkept : s.Kept k.settings.codec := h.sound.kept k (List.mem_of_getElem? hk) s hstr
  obtain ⟨hqueue, hlost, hrec⟩ := Stream.arriveAll_spec hkept hr k.settings.client arrivals
  -- the conversation just before the look: the receiver and the clock have worked, nobody else
  have hbefore : before = _ := run_unattended hn
  have hreach : Reachable before := run_reachable h hs
  have htb : before.threads[id]? = some ⟨.connect target host point, inside⟩ := by
    rw [hbefore]
    exact ht
  have hkb : before.connections[conn]? = some (arrivals.foldl Connection.arrive k) := by
    rw [hbefore, List.getElem?_modify_eq, hk]
    rfl
  rw [Connection.arrivals_eq hstr] at hkb
  have hlook := look_succeeds_iff (w := w) hreach htb hp hkb rfl
  have hended : before.HasEnded conn ↔ d.fault.isSome ∨ Arrival.endsIn arrivals := by
    rw [hasEnded_iff hkb rfl, hrec, hlost, Bool.not_eq_false', Bool.or_eq_true]
  rw [hqueue] at hlook
  have hact : after.outcome? id = some (.connect .success) → Activated before after conn :=
    look_activates hreach htb hp hkb rfl
  refine ⟨⟨?_, ?_⟩, ?_⟩
  · rintro ⟨hsucc, hend⟩
    obtain ⟨hun, hq⟩ := hlook.1 hsucc
    exact ⟨hun, hended.1 ((hact hsucc).ended.1 hend), hq⟩
  · rintro ⟨hun, hend, hq⟩
    have hsucc := hlook.2 ⟨hun, hq⟩
    exact ⟨hsucc, (hact hsucc).ended.2 (hended.2 hend)⟩
  · intro hsucc hend
    have ha := hact hsucc
    obtain ⟨k', hk', hstate⟩ := ha.state
    refine ⟨fun hopen => ⟨_, hkb, ?_⟩, ⟨k', hk', hstate⟩, fun hrun hlink => ?_⟩
    · have hend' := (hasEnded_iff hkb rfl).1 (ha.ended.1 hend)
      rw [hrec] at hend'
      simp only [Bool.not_eq_false'] at hend'
      simp [hend', hopen]
    · obtain ⟨l, hl, rfl⟩ := Option.map_eq_some_iff.1 hlink
      have hafter : after.link = some l := by
        rw [ha.link, hbefore]
        exact hl
      refine fun target host inside => connectNow_of_activated ?_ ?_ target host inside
      · rw [ha.running, hbefore]
        exact hrun
      · rw [state_of_link hafter hk']
        exact hstate

def awaitingActivation : Conversation :=
  [Event.call (.connect 0x1000 (some .localhost)) false, .advance 0, .advance 0, .advance 0, .advance 0,
    .dialled 0 .established, .advance 0, .advance 0].foldl (apply {})
    { settings := { name := "tester", source := 0x0E00 }, version := 2, servers := [], running := true }

def welcome : Message :=
  .of 2 .routingActivationResponse (ActivationResponse.encode ⟨0x0E00, 0x1000, .routingSuccessful, none⟩)

theorem drain_welcome : Codec.drain {} welcome.toBytes = { frames := [welcome] } :=
  Codec.drain_frame (Codec.admits_of {} (by decide) (by decide) 2)

def askingStream (queue : List Message) : Stream where
  queue := queue
  written := Codec.encodePayload {} (.activationRequest { source := 0x0E00, type := .default })

def asking : Connection where
  settings :=
    { client := 0x0E00, activationType := .default, connectTimeout := 5000, activationTimeout := 2000, codec := {} }
  server := 0x1000
  state := .activating
  dial := .established
  stream := some (askingStream [])

/-- A positive response and the end of the stream reach the client before it looks: the connect succeeds over the
recorded loss. -/
theorem activation_outlives_stream :
    let before := run {} 0 0 awaitingActivation [.arrive (.bytes welcome.toBytes), .arrive .endOfStream]
    let after := before.advance {} 0
    (after.outcome? 0 = some (.connect .success) ∧ after.HasEnded 0) ∧
      (∃ k, before.connections[0]? = some k ∧ k.state = .faulted) ∧
      after.connectNow {} 0x1000 none false = some (.connect .alreadyConnected) := by
  intro before after
  have hreach : Reachable awaitingActivation := (Reachable.fresh _ _ _ _).applyAll {} _
  have ht : awaitingActivation.threads[0]? = some ⟨.connect 0x1000 (some .localhost)
      (.waiting ⟨.localhost, standardPort⟩ 0 .activation), false⟩ := rfl
  have hk : awaitingActivation.connections[0]? = some asking := rfl
  obtain ⟨hiff, hthen⟩ := succeeds_after_loss_iff (w := {}) hreach ht rfl hk rfl rfl
    (show .look ∉ [Happening.arrive (.bytes welcome.toBytes), .arrive .endOfStream] by decide)
  have hheard : asking.heard (([] ++ (Codec.drain {} (welcome.toBytes ++ [])).frames.filter Stream.forwards).take
      queueDepth) = some .routingSuccessful := by
    rw [List.append_nil, drain_welcome]
    rfl
  have hlost := hiff.2 ⟨⟨rfl, rfl⟩, .inr rfl, hheard⟩
  obtain ⟨hfault, -, hagain⟩ := hthen hlost.1 hlost.2
  exact ⟨hlost, hfault rfl, hagain rfl rfl _ _ _⟩

end Conversation
end Doip
