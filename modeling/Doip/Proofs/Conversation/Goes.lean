import Doip.Proofs.Conversation.Stands

/-! Every step of the one call under way on a conversation, kind by kind, takes it on or ends it (`Stands.step`). -/

namespace Doip.Conversation

variable {id conn : Nat} {start c : Conversation} {k : Connection} {m : Machine} {op : Operation} {call : Call}
variable {target server : Address} {host : Option IpAddress} {endpoint : Endpoint} {data : Bytes} {wait : Wait}
variable {link : Option Link} {rank : Nat} {lapsed : Bool}

/-! Connecting. -/

theorem failConnect_goes (hmay : MayConnect start m target host endpoint)
    (h : Layout start c true link none (some id) (some conn) []) (hk : c.connections[conn]? = some k)
    (hrank : 1 < rank) : Goes start m id (.connect target host) rank lapsed (failConnect target host c conn) :=
  .onward (.failing hmay (h.put _) (getElem?_modifyConnection hk Connection.beginDisconnect) rfl) hrank

/-- A look at the attempt to connect. -/
theorem dialling_goes (hmay : MayConnect start m target host endpoint)
    (h : Layout start c true (some ⟨conn, target⟩) none (some id) (some conn) [wait])
    (hlive : Live start c conn target k) (hwait : Ticks start id wait) (text : String) :
    Goes start m id (.connect target host) 4 wait.expired
      (afterConnectWait target host endpoint conn (c.resumeWait {} id text conn .connect)) := by
  have hw := h.wait? hwait.key
  obtain ⟨k', hbelongs, ⟨hres, hexp⟩ | ⟨result, hres⟩⟩ := k.resume_connect_belongs text wait false
  · rw [resumeWait_inl hw hlive.connection hres]
    exact .stays (.dialling hmay (h.put _) (hlive.replace hbelongs) hwait) rfl hexp
  · let c' : Conversation := { c.modifyConnection conn fun _ => k' with timer := c.timer.finish id }
    have hlive' : Live start c' conn target k' := (hlive.replace hbelongs).same rfl
    have hlayout : Layout start c' true (some ⟨conn, target⟩) none (some id) (some conn) [] :=
      (h.put fun _ => k').finish hwait.key
    rw [resumeWait_inr hw hlive.connection hres]
    cases result with
    | ok u =>
      refine .onward (.asking hmay (hlayout.put _) (hlive'.put (f := Connection.beginActivation) ⟨rfl, rfl, rfl⟩)) ?_
      exact Nat.lt_add_one 3
    | error e => exact failConnect_goes hmay hlayout hlive'.connection (by decide)

theorem activating_goes (hmay : MayConnect start m target host endpoint)
    (h : Layout start c true (some ⟨conn, target⟩) none (some id) (some conn) [wait])
    (hlive : Live start c conn target k) (hwait : Ticks start id wait) (text : String) :
    Goes start m id (.connect target host) 2 wait.expired
      (afterConnectWait target host endpoint conn (c.resumeWait {} id text conn .activation)) := by
  have hw := h.wait? hwait.key
  obtain ⟨k', hbelongs, ⟨hres, hexp⟩ | ⟨result, hres, hok⟩⟩ := k.resume_activation_belongs text wait false
  · rw [resumeWait_inl hw hlive.connection hres]
    exact .stays (.activating hmay (h.put _) (hlive.replace hbelongs) hwait) rfl hexp
  · let c' : Conversation := { c.modifyConnection conn fun _ => k' with timer := c.timer.finish id }
    have hlive' : Live start c' conn target k' := (hlive.replace hbelongs).same rfl
    have hlayout : Layout start c' true (some ⟨conn, target⟩) none (some id) (some conn) [] :=
      (h.put fun _ => k').finish hwait.key
    rw [resumeWait_inr hw hlive.connection hres]
    cases result with
    | ok u =>
      exact .ends (.connected hmay.running hmay.state hmay.resolved)
        (.linked_of hmay.running (hlayout.setSlot (some conn)).unlock (hlive'.same rfl) (hok rfl) (.inl rfl))
    | error e => exact failConnect_goes hmay hlayout hlive'.connection (by decide)

theorem Ticks.fresh (start : Conversation) (id : Nat) {timeout : Nat} (h : timeout ≤ start.longest) :
    Ticks start id { key := id, remaining := timeout } := ⟨rfl, rfl, h⟩

theorem startConnect_goes (hmay : MayConnect start m target host endpoint)
    (h : Layout start c true link none (some id) none []) :
    Goes start m id (.connect target host) 4 false (startConnect {} id target host c endpoint) := by
  let settings := ConnectionSettings.of c.settings c.version
  let k : Connection := Connection.beginConnect { settings, server := target }
  let conn := c.connections.length
  let c' : Conversation := { c with
    connections := c.connections ++ [k]
    link := some ⟨conn, target⟩
    timer := c.timer.arm id settings.connectTimeout }
  have hlayout : Layout start c' true (some ⟨conn, target⟩) none (some id) (some conn)
      [{ key := id, remaining := settings.connectTimeout }] :=
    ((h.create k).setLink (some ⟨conn, target⟩)).arm id _
  have hlive : Live start c' conn target k := by
    refine ⟨List.getElem?_concat_length, rfl, ?_, rfl⟩
    show settings = _
    simp only [settings, h.settings, h.version]
  have htimeout : settings.connectTimeout ≤ start.longest := by
    simp only [settings, ConnectionSettings.of, h.settings, longest]
    omega
  exact dialling_goes hmay hlayout hlive (.fresh start id htimeout) _

theorem stepConnect_goes {point : ConnectPoint}
    (h : Stands start m id c (.connect target host) (.connect target host point)) :
    Goes start m id (.connect target host) (Call.rank (.connect target host point)) c.waitOver
      (stepConnect {} id target host false c point) := by
  cases h with
  | connectEntered h =>
    simp only [stepConnect, h.running]
    cases hrun : m.running with
    | true => exact .onward (.connectChecked h hrun) (Nat.lt_add_one 8)
    | false => exact .ends (.connectStopped hrun) h
  | connectChecked h hrun =>
    simp only [stepConnect, h.state, h.resolve]
    split
    · rename_i hst
      exact .ends (.connectAgain hrun hst) h
    · rename_i hst
      cases hres : start.resolve target host with
      | none => exact .ends (.connectUnresolved hrun hst hres) h
      | some endpoint => exact .onward (.connectSubmitting h ⟨hrun, hst, hres⟩) (Nat.lt_add_one 7)
  | connectSubmitting h hmay => exact .onward (.connectQueued h hmay) (Nat.lt_add_one 6)
  | connectQueued h hmay =>
    rename_i endpoint
    cases h with
    | bare h =>
      have hrun := hmay.running
      obtain ⟨hlock, hlayout⟩ := h.lock id
      subst hrun
      simp only [stepConnect, hlock, h.slot]
      exact (startConnect_goes hmay (hlayout.setSlot none)).mono (by decide : 4 < 6)
    | linked h hlive hst =>
      rename_i conn server k
      obtain ⟨hlock, hlayout⟩ := h.lock id
      have hne : ¬ some k.state = some ConnectionState.activated := fun heq => hmay.state (Option.some.inj heq)
      simp only [stepConnect, hlock, h.slot, hlive.connection, Option.map_some, if_neg hne]
      exact .onward (.replacing hmay ((hlayout.setSlot none).put _)
        (getElem?_modifyConnection hlive.connection Connection.beginDisconnect) rfl) (Nat.lt_add_one 5)
  | replacing hmay h hk hclosed =>
    have hretired := (h.put Connection.finishDisconnect).retire
      (getElem?_modifyConnection hk Connection.finishDisconnect) hclosed rfl
    exact (startConnect_goes hmay hretired).mono (Nat.lt_add_one 4)
  | dialling hmay h hlive hwait =>
    rw [h.waitOver]
    exact dialling_goes hmay h hlive hwait _
  | asking hmay h hlive =>
    rename_i endpoint conn k
    simp only [stepConnect, hlive.connection]
    cases hwrite : k.write? k.activationRequest with
    | none =>
      simp only [Connection.writeActivation, hwrite]
      exact failConnect_goes hmay (h.put _)
        (getElem?_modifyConnection hlive.connection fun _ => { k with state := .faulted }) (by decide : 1 < 3)
    | some k' =>
      obtain ⟨s, -, rfl⟩ := Connection.write?_eq_some hwrite
      let k' : Connection := { k with stream := some (s.write k.activationRequest) }
      let c' : Conversation :=
        { c.modifyConnection conn fun _ => k' with timer := c.timer.arm id k.settings.activationTimeout }
      have hwritten : k.Belongs k' := ⟨rfl, rfl, rfl⟩
      have hlive' : Live start c' conn target k' := (hlive.replace hwritten).same rfl
      have hlayout : Layout start c' true (some ⟨conn, target⟩) none (some id) (some conn)
          [{ key := id, remaining := k.settings.activationTimeout }] := (h.put fun _ => k').arm id _
      have htimeout : k.settings.activationTimeout ≤ start.longest := by
        simp only [hlive.settings, ConnectionSettings.of, longest]
        omega
      simp only [Connection.writeActivation, hwrite]
      exact (activating_goes hmay hlayout hlive' (.fresh start id htimeout) _).mono (Nat.lt_add_one 2)
  | activating hmay h hlive hwait =>
    rw [h.waitOver]
    exact activating_goes hmay h hlive hwait _
  | failing hmay h hk hclosed =>
    have hretired := (h.put Connection.finishDisconnect).retire
      (getElem?_modifyConnection hk Connection.finishDisconnect) hclosed rfl
    exact .ends (.connectFailed hmay.running hmay.state hmay.resolved)
      (.bare_of hmay.running (hretired.setLink none).unlock)

/-! Disconnecting. -/

theorem stepDisconnect_goes {point : DisconnectPoint} (h : Stands start m id c .disconnect (.disconnect point)) :
    Goes start m id .disconnect (Call.rank (.disconnect point)) c.waitOver
      (stepDisconnect {} id false c point) := by
  cases h with
  | disconnectEntered h =>
    cases h with
    | bare h =>
      simp only [stepDisconnect, cutLink, h.link, Option.map_none]
      exact .ends (.notConnected rfl) (.bare h)
    | linked h hlive hst =>
      simp only [stepDisconnect, cutLink, h.link, Option.map_some]
      exact .onward (.disconnecting (.inl rfl) rfl ((h.setLink none).put _)
        (getElem?_modifyConnection hlive.connection Connection.close) rfl) (Nat.lt_add_one 4)
  | disconnecting hpoint hsome h hk hclosed =>
    rcases hpoint with rfl | rfl | rfl
    · exact .onward (.disconnecting (.inr (.inl rfl)) hsome h.stop hk hclosed) (Nat.lt_add_one 3)
    · exact .onward (.disconnecting (.inr (.inr rfl)) hsome h hk hclosed) (Nat.lt_add_one 2)
    · obtain ⟨hlock, hlayout⟩ := h.lock id
      have hfree : ¬ c.holder = some id := by simp [h.holder]
      have hline : id ∉ c.line := by
        rw [h.line]
        exact List.not_mem_nil
      simp only [stepDisconnect, if_neg hfree, if_neg hline, hlock, closeSlot, h.slot]
      exact .onward (.disconnectClosing hsome ((hlayout.setSlot none).put _)
        (getElem?_modifyConnection hk Connection.beginDisconnect) rfl) (Nat.lt_add_one 1)
  | disconnectClosing hsome h hk hclosed =>
    have hretired := (h.put Connection.finishDisconnect).retire
      (getElem?_modifyConnection hk Connection.finishDisconnect) hclosed rfl
    exact .ends (.disconnected hsome) (.bare_of rfl hretired.unlock)

/-! Asking. -/

theorem Exchanging.put {waits : List Wait} (h : Exchanging start c id conn server k waits) {k' : Connection}
    (hp : k.Persists k') : Exchanging start (c.modifyConnection conn fun _ => k') id conn server k' waits := by
  refine ⟨h.layout.put _, h.live.replace hp.belongs, ?_⟩
  rcases hp.state with hsame | hlost
  · rw [hsame]
    exact h.state
  · exact .inr hlost

theorem Exchanging.arm (h : Exchanging start c id conn server k []) (timeout : Nat) :
    Exchanging start { c with timer := c.timer.arm id timeout } id conn server k
      [{ key := id, remaining := timeout }] :=
  ⟨h.layout.arm id timeout, h.live.same rfl, h.state⟩

theorem Exchanging.finish (h : Exchanging start c id conn server k [wait]) (hkey : wait.key = id) :
    Exchanging start { c with timer := c.timer.finish id } id conn server k [] :=
  ⟨h.layout.finish hkey, h.live.same rfl, h.state⟩

/-- A request that has begun ends on a running conversation, which is left with its connection. -/
theorem Exchanging.settle (h : Exchanging start c id conn server k []) (hdata : data ≠ []) (hrun : m.running = true)
    (hconn : m.connection = some (server, .activated)) {result : Except RequestError Response}
    (hres : Machine.Exchanged start.settings server data k.state result) :
    Goes start m id (.request data) rank lapsed (settleRequest data c result) := by
  have hsettle : settleRequest data c result = (c.unlock, .returned (.request result)) := if_pos h.layout.running
  rw [hsettle]
  exact .ends (.exchanged hdata hrun hconn hres)
    (.linked_of hrun h.layout.unlock (h.live.same rfl) rfl h.state)

theorem Exchanging.answered (h : Exchanging start c id conn server k []) (hmay : MayAsk start m server data)
    {result : Except RequestError Response} (hres : Machine.Answered start.settings server k.state result) :
    Goes start m id (.request data) rank lapsed (settleRequest data c result) := by
  refine h.settle hmay.nonempty hmay.running hmay.connection ⟨h.state, ?_⟩
  rw [if_neg (Nat.not_lt.2 hmay.fits)]
  exact hres

theorem Exchanging.failed {α : Type} (h : Exchanging start c id conn server k []) (hmay : MayAsk start m server data)
    {e : ReceiveError} (hres : k.Honest (.error e : Except ReceiveError α)) :
    Goes start m id (.request data) rank lapsed (settleRequest data c (.error (.ofReceive e))) := by
  refine h.answered hmay ?_
  cases e with
  | timeout => trivial
  | connectionLost => exact hres.lost rfl
  | cancelled => exact absurd rfl hres.unstopped

theorem Exchanging.responded (h : Exchanging start c id conn server k []) (hmay : MayAsk start m server data)
    (bs : Bytes) : Goes start m id (.request data) rank lapsed (settleRequest data c (.ok (c.responseOf conn bs))) := by
  have hresponse : c.responseOf conn bs = ⟨server, start.settings.source, bs⟩ := by
    simp only [responseOf, h.live.connection, h.live.server, h.live.settings, ConnectionSettings.of]
  rw [hresponse]
  exact h.answered hmay ⟨rfl, rfl⟩

theorem responding_goes (hmay : MayAsk start m server data) (h : Exchanging start c id conn server k [wait])
    (hwait : Ticks start id wait) :
    Goes start m id (.request data) 2 wait.expired
      (afterResponseWait data conn (c.resumeWait {} id "" conn .response)) := by
  have hw := h.layout.wait? hwait.key
  obtain ⟨k', hp, ⟨hres, hexp⟩ | ⟨result, hres, hhonest⟩⟩ := k.resume_response_persists hwait.stopped
  · rw [resumeWait_inl hw h.live.connection hres]
    exact .stays (.responding hmay (h.put hp) hwait) rfl hexp
  · have hdone := (h.put hp).finish hwait.key
    rw [resumeWait_inr hw h.live.connection hres]
    cases result with
    | ok bs => exact hdone.responded hmay bs
    | error e => exact hdone.failed hmay hhonest

theorem ackTimeout_le {running : Bool} {slot holder live : Option Nat} {waits : List Wait}
    (h : Layout start c running link slot holder live waits) :
    c.settings.ackTimeout.toNat ≤ start.longest ∧ c.settings.responseTimeout.toNat ≤ start.longest := by
  rw [h.settings]
  unfold longest
  omega

/-- Behind a positive acknowledgement the first response set aside is taken, or the wait for one begins. -/
theorem startResponse_goes (hmay : MayAsk start m server data) (h : Exchanging start c id conn server k []) :
    Goes start m id (.request data) 3 lapsed (startResponse {} id data c conn) := by
  unfold startResponse
  rw [h.live.connection]
  cases hearly : k.early with
  | cons bs rest =>
    have hp : k.Persists { k with early := rest } := ⟨rfl, rfl, rfl, fun h => h, .inl rfl⟩
    simp only [Connection.beginResponse, hearly]
    exact (h.put hp).responded hmay bs
  | nil =>
    by_cases hst : k.state = .activated
    · simp only [Connection.beginResponse, hearly, hst, ne_eq, not_true_eq_false, if_false]
      have hbegun := (h.put (.refl k)).arm c.settings.responseTimeout.toNat
      exact (responding_goes hmay hbegun (.fresh start id (ackTimeout_le h.layout).2)).mono (Nat.lt_add_one 2)
    · have hlost : k.state = .faulted := h.state.resolve_left hst
      simp only [Connection.beginResponse, hearly, hst, ne_eq, not_false_eq_true, if_true]
      exact (h.put (.refl k)).answered hmay hlost

/-- A look for the acknowledgement. -/
theorem acknowledging_goes (hmay : MayAsk start m server data) (h : Exchanging start c id conn server k [wait])
    (hwait : Ticks start id wait) (aside : List Bytes) :
    Goes start m id (.request data) 3 wait.expired
      (afterRequestWait {} id data conn (c.resumeWait {} id "" conn (.acknowledgement aside))) := by
  have hw := h.layout.wait? hwait.key
  obtain ⟨k', hp, ⟨aside', hres, hexp⟩ | ⟨result, hres, hhonest⟩⟩ :=
    k.resume_acknowledgement_persists hwait.stopped aside
  · rw [resumeWait_inl hw h.live.connection hres]
    exact .stays (.acknowledging hmay (h.put hp) hwait) rfl hexp
  · have hdone := (h.put hp).finish hwait.key
    rw [resumeWait_inr hw h.live.connection hres]
    cases result with
    | ok outcome =>
      cases outcome with
      | positive => exact startResponse_goes hmay hdone
      | negative code => exact hdone.answered hmay trivial
    | error e =>
      cases e with
      | timeout => exact hdone.answered hmay trivial
      | connectionLost => exact hdone.failed hmay hhonest
      | cancelled => exact hdone.failed hmay hhonest

/-- The exchange begins when the connection is activated and the request fits. -/
theorem startExchange_goes (h : Represents start c m) (hdata : data ≠ []) (hrun : m.running = true) :
    Goes start m id (.request data) 5 lapsed (startExchange data { c with holder := some id }) := by
  cases h with
  | bare h =>
    subst hrun
    have hend : startExchange data { c with holder := some id } =
        ({ c with holder := some id }.unlock, .returned (.request (.error .notConnected))) := by
      simp only [startExchange, h.slot, Option.bind_none, settleRequest, h.running, if_true]
      rfl
    rw [hend]
    exact .ends (.requestRefused hdata (.inr (by decide))) (.bare (h.lock id).2.unlock)
  | linked h hlive hst =>
    rename_i conn server k
    have hk : Exchanging start { c with holder := some id } id conn server k [] := ⟨(h.lock id).2, hlive.same rfl, hst⟩
    by_cases hact : k.state = .activated
    · let k' : Connection := k.discardPending.1
      have hp : k.Persists k' := ⟨rfl, rfl, rfl, fun hnone => by simp [k', Connection.discardPending, hnone], .inl rfl⟩
      have hput := hk.put hp
      have hlimit : k'.settings.codec.limit = start.settings.limit := by
        rw [hp.settings, hlive.settings]
        rfl
      rw [startExchange_eq hk.layout.slot hk.live.connection hact]
      by_cases hfits : 4 + data.length ≤ start.settings.limit.toNat
      · have hframe : k.discardPending.1.requestFrame data = .ok (requestOn k' data) :=
          requestFrame_of_fits hact (hlimit ▸ hfits)
        rw [hframe]
        exact .onward (.exchangeWriting ⟨hdata, hrun, by rw [hact], hfits⟩ hput) (Nat.lt_add_one 4)
      · have hlarge := Nat.not_le.1 hfits
        have hframe : k.discardPending.1.requestFrame data = .error (.payloadTooLarge _ _) :=
          requestFrame_of_large (k := k') hact (hlimit ▸ hlarge)
        rw [hframe]
        refine hput.settle hdata hrun (by rw [hact]) ⟨.inl hact, ?_⟩
        rw [if_pos hlarge]
        rw [hlimit]
        rfl
    · have hend : startExchange data { c with holder := some id } =
          ({ c with holder := some id }.unlock, .returned (.request (.error .notConnected))) := by
        simp only [startExchange, h.slot, Option.bind_some, hlive.connection, Option.map_some, hact, settleRequest,
          h.running, if_true, ne_eq, not_false_eq_true]
        rfl
      rw [hend]
      exact .ends (.requestRefused hdata (.inr fun heq => hact (by simpa [Machine.state] using heq)))
        (.linked hk.layout.unlock (hlive.same rfl) hst)

theorem Represents.lock (h : Represents start c m) (id : Nat) : c.tryLock id = some { c with holder := some id } := by
  cases h with
  | bare h => exact (h.lock id).1
  | linked h => exact (h.lock id).1

theorem stepRequest_goes {point : RequestPoint} (h : Stands start m id c (.request data) (.request data point)) :
    Goes start m id (.request data) (Call.rank (.request data point)) c.waitOver
      (stepRequest {} id data false c point) := by
  cases h with
  | requestEntered h =>
    cases hdata : data with
    | nil => exact .ends (.requestEmpty m) h
    | cons b bs =>
      have hne : b :: bs ≠ [] := List.cons_ne_nil b bs
      simp only [stepRequest, List.isEmpty_cons, Bool.false_eq_true, if_false, h.running]
      cases hrun : m.running with
      | true => exact .onward (.requestSubmitting h hne hrun) (Nat.lt_add_one 6)
      | false => exact .ends (.requestRefused hne (.inl hrun)) h
  | requestSubmitting h hdata hrun => exact .onward (.requestQueued h hdata hrun) (Nat.lt_add_one 5)
  | requestQueued h hdata hrun =>
    simp only [stepRequest, h.lock id]
    exact startExchange_goes h hdata hrun
  | exchangeWriting hmay h =>
    rename_i frame server conn k
    simp only [stepRequest, h.live.connection]
    cases hwrite : k.write? frame with
    | none =>
      have hp : k.Persists { k with state := .faulted } := ⟨rfl, rfl, rfl, fun h => h, .inr rfl⟩
      simp only [Connection.writeRequest, hwrite]
      exact (h.put hp).answered hmay rfl
    | some k' =>
      obtain ⟨s, hs, rfl⟩ := Connection.write?_eq_some hwrite
      have hp : k.Persists { k with stream := some (s.write frame) } :=
        ⟨rfl, rfl, rfl, fun hnone => (by rw [hs] at hnone; cases hnone), .inl rfl⟩
      have hbegun := (h.put hp).arm c.settings.ackTimeout.toNat
      simp only [Connection.writeRequest, hwrite]
      exact (acknowledging_goes hmay hbegun (.fresh start id (ackTimeout_le h.layout).1) []).mono (Nat.lt_add_one 3)
  | acknowledging hmay h hwait =>
    rw [h.layout.waitOver]
    exact acknowledging_goes hmay h hwait _
  | responding hmay h hwait =>
    rw [h.layout.waitOver]
    simp only [stepRequest, Exchange.afterRequestWait_response]
    exact responding_goes hmay h hwait

/-! Stopping. -/

theorem stepShutdown_goes {point : ShutdownPoint} (h : Stands start m id c .shutdown (.shutdown point)) :
    Goes start m id .shutdown (Call.rank (.shutdown point)) c.waitOver (stepShutdown c point) := by
  cases h with
  | shutdownEntered h =>
    simp only [stepShutdown, h.running]
    cases h with
    | bare h =>
      rename_i running
      cases running with
      | true => exact .onward (.shutdownBare (.inl rfl) (h.setRunning false)) (Nat.lt_add_one 3)
      | false => exact .ends (.shutdown _) (.bare h)
    | linked h hlive hst =>
      exact .onward (.shutdownCancelling (h.setRunning false) hlive.connection) (Nat.lt_add_one 3)
  | shutdownBare hpoint h =>
    rcases hpoint with rfl | rfl
    · simp only [stepShutdown, cutLink, h.link, Option.map_none]
      exact .onward (.shutdownBare (.inr rfl) h) (by decide : 1 < 3)
    · simp only [stepShutdown, h.holder, h.slot]
      exact .ends (.shutdown m) (.bare h)
  | shutdownCancelling h hk =>
    simp only [stepShutdown, cutLink, h.link, Option.map_some]
    exact .onward (.shutdownReleasing (.inl rfl) ((h.setLink none).put _)
      (getElem?_modifyConnection hk Connection.close)) (Nat.lt_add_one 2)
  | shutdownReleasing hpoint h hk =>
    rename_i conn k
    rcases hpoint with rfl | rfl
    · exact .onward (.shutdownReleasing (.inr rfl) h.stop hk) (Nat.lt_add_one 1)
    · have hstep : stepShutdown c .releasing =
          ({ c with slot := none }.modifyConnection conn Connection.abandon, .returned .done) := by
        unfold stepShutdown
        rw [h.holder, h.slot]
        rfl
      have hretired := ((h.setSlot none).put Connection.abandon).retire
        (getElem?_modifyConnection hk Connection.abandon) rfl rfl
      rw [hstep]
      exact .ends (.shutdown m) (.bare hretired)

/-- Every step of the call takes it on, unless it waits and has time left, or ends it. -/
theorem Stands.step (h : Stands start m id c op call) :
    Goes start m id op call.rank c.waitOver (stepCall {} id false c call) := by
  cases op with
  | connect target host =>
    obtain ⟨point, rfl⟩ : ∃ point, call = .connect target host point := by cases h <;> exact ⟨_, rfl⟩
    exact stepConnect_goes h
  | disconnect =>
    obtain ⟨point, rfl⟩ : ∃ point, call = .disconnect point := by cases h <;> exact ⟨_, rfl⟩
    exact stepDisconnect_goes h
  | request data =>
    obtain ⟨point, rfl⟩ : ∃ point, call = .request data point := by cases h <;> exact ⟨_, rfl⟩
    exact stepRequest_goes h
  | startup =>
    cases h with
    | startup h =>
      cases h with
      | bare h => exact .ends (.startup _) (.bare (h.setRunning true))
      | linked h hlive hst => exact .ends (.startup _) (.linked (h.setRunning true) (hlive.same rfl) hst)
  | shutdown =>
    obtain ⟨point, rfl⟩ : ∃ point, call = .shutdown point := by cases h <;> exact ⟨_, rfl⟩
    exact stepShutdown_goes h

end Doip.Conversation
