import Doip.Proofs.Bench.ReplyTree

/-! One request to a scripted entity, from the call to its return. The same data is written behind four bytes in the
request and behind five in the acknowledgement that repeats it, and both meet the same limit: a request that fits is
always noted, and it is answered iff its acknowledgement fits as well (`answered_iff_echo_fits`). -/

namespace Doip

namespace Bench

variable {b : Bench} {l : Line} {c c' : Conversation} {k : Connection} {s : Stream} {wire : Wire}
variable {session : Session} {p d : Bytes}

/-- What the entity sends for a request. -/
def echoed (script : Script) (tester : Address) (p d : Bytes) : Bytes :=
  (script.acknowledgementOf tester p).toBytes ++ (script.responseOf tester d).toBytes

namespace Usable

variable {script : Script}

theorem arrive_oversized (h : Usable c script.address k s) (hmax : 4 + p.length ≤ 0xFFFF)
    (hecho : c.settings.limit.toNat < 5 + p.length) (d : Bytes) :
    { k with early := [], stream := some (asked k s p) }.arrive (.bytes (echoed script c.settings.source p d)) =
      { k with
        early := []
        stream := some { asked k s p with
          buffer := echoed script c.settings.source p d
          written := (asked k s p).written ++ k.settings.codec.encodePayload (.genericNack messageTooLarge)
          receiving := false }
        state := .faulted } := by
  have hlength : (Acknowledgement.encode ⟨script.address, c.settings.source, 0x00, p⟩).length = 5 + p.length :=
    Acknowledgement.length_encode _
  have hlarge : k.settings.codec.limit.toNat <
      (Acknowledgement.encode ⟨script.address, c.settings.source, 0x00, p⟩).length := by
    rw [hlength, h.settings]
    exact hecho
  have hle : (Acknowledgement.encode ⟨script.address, c.settings.source, 0x00, p⟩).length ≤ maxDeclaredLength := by
    rw [hlength, maxDeclaredLength]
    omega
  have harrive := (h.clear p).arrive_oversized (v := defaultVersion) (t := .diagnosticMessageAck) hle hlarge
    k.settings.client (script.responseOf c.settings.source d).toBytes
  simp only [Connection.arrive, echoed, Script.acknowledgementOf, harrive, h.wired.unclosed]
  rfl

end Usable

namespace Connected

def replied (session : Session) (script : Script) (tester : Address) (p d : Bytes) : Session :=
  { session with written := session.written ++ echoed script tester p d }

theorem delivers (h : b.Connected l c) (hj : Joined b l c k s wire session) (hp : p ≠ [])
    (hfits : 4 + p.length ≤ c.settings.limit.toNat) (hmax : c.settings.limit.toNat ≤ 0xFFFF)
    (hreply : b.entity.script.handler p = .respond d) :
    ∃ c', Nat.repeat round 5 (b.apply l.conversation (.call (.request p) false)) =
        l.put b ⟨c'.advance b.manager.worker c.threads.length,
          Wire.upTo wire (asked k s p) (replied session b.entity.script c.settings.source p d),
          replied session b.entity.script c.settings.source p d, [.request c.settings.source p]⟩ ∧
      Conversation.Engaged c c' l.connection
        ({ k with early := [], stream := some (asked k s p) }.arrive
          (.bytes (echoed b.entity.script c.settings.source p d)))
        (some c.threads.length) [{ key := c.threads.length, remaining := c.settings.ackTimeout.toNat }]
        (.request p (.waiting l.connection (.acknowledgement []))) := by
  have hanswer := Script.answer_request hreply k.settings.codec.version c.settings.source
  have hadmits :=
    b.entity.script.admits_requestOf k.settings.codec.version c.settings.source (Nat.le_trans hfits hmax)
  have hread := hj.ready.receive hadmits (by rw [hanswer]) (by rw [hanswer])
  rw [hanswer] at hread
  exact h.takes hj hp hfits hread rfl hj.ready.ended

theorem answers (h : b.Connected l c) (hp : p ≠ []) (hmax : c.settings.limit.toNat ≤ 0xFFFF)
    (hecho : 5 + p.length ≤ c.settings.limit.toNat) (hd : 4 + d.length ≤ c.settings.limit.toNat)
    (hreply : b.entity.script.handler p = .respond d) :
    ∃ b' c', b.call l.conversation (.request p) =
        (b', some (.request (.ok ⟨b.entity.script.address, c.settings.source, d⟩))) ∧
      b'.Connected l c' ∧ b'.entity.script = b.entity.script ∧ c'.settings = c.settings ∧
      b'.entity.observations = b.entity.observations ++ [.request c.settings.source p] := by
  have hfit : Fitting c b.entity.script.address p (b.entity.script.handler p) [] := by
    rw [hreply]
    refine ⟨hp, hmax, hecho, ?_, rfl, nofun, nofun, Nat.zero_le 62, nofun⟩
    intro e he
    obtain rfl : d = e := Option.some.inj he
    exact hd
  have hprompt : (b.entity.script.handler p).prompt? = some d := by
    rw [hreply]
    exact rfl
  obtain ⟨c', k, s, wire, session, hcall, hu, hready⟩ := h.completes_answered hfit hprompt
  exact ⟨_, c', hcall, hu.connected h hready _, rfl, hu.engaged.holds.settings, rfl⟩

theorem loses (h : b.Connected l c) (hp : p ≠ []) (hmax : c.settings.limit.toNat ≤ 0xFFFF)
    (hfits : 4 + p.length ≤ c.settings.limit.toNat) (hecho : c.settings.limit.toNat < 5 + p.length)
    (hreply : b.entity.script.handler p = .respond d) :
    ∃ b' c', b.call l.conversation (.request p) = (b', some (.request (.error .connectionLost))) ∧
      b'.conversation? l.conversation = some c' ∧ c'.state = .faulted ∧
      b'.entity.observations =
        b.entity.observations ++ [.request c.settings.source p, .genericNack messageTooLarge] := by
  obtain ⟨k, s, wire, session, hj⟩ := h.joined
  obtain ⟨c₁, hreach, hwait⟩ := h.delivers hj hp hfits hmax hreply
  let script := b.entity.script
  let session₁ := replied session script c.settings.source p d
  let wire₁ := Wire.upTo wire (asked k s p) session₁
  let s₂ : Stream := { asked k s p with
    buffer := echoed script c.settings.source p d
    written := (asked k s p).written ++ k.settings.codec.encodePayload (.genericNack messageTooLarge)
    receiving := false }
  let k₂ : Connection := { k with early := [], stream := some s₂, state := .faulted }
  rw [hj.usable.arrive_oversized (Nat.le_trans hfits hmax) hecho] at hwait
  have hlost : Conversation.Engaged c (c₁.advance b.manager.worker c.threads.length) l.connection k₂ none []
      (.returned (.request (.error .connectionLost))) :=
    Conversation.Engaged.lose (k := k₂) (s := s₂) rfl hwait rfl rfl rfl rfl rfl rfl h.around.awake
  generalize c₁.advance b.manager.worker c.threads.length = c₂ at hreach hlost
  have hleads := hj.leads.upTo (asked k s p) session₁
  have hwired : Wired k₂ s₂ := ⟨rfl, hj.usable.wired.first, hj.usable.wired.unclosed, hj.usable.wired.unshut⟩
  have hrefused : reads script session₁ (s₂.written.drop wire₁.forwarded) =
      (session₁, [.genericNack messageTooLarge]) := by
    have hsent : s₂.written.drop wire₁.forwarded = k.settings.codec.encodePayload (.genericNack messageTooLarge) :=
      List.drop_left
    rw [hsent]
    exact reads_genericNack (hj.ready.written _) _ _
  have hround := h.around.round_put hlost.beside rfl hwired hleads hrefused hj.ready.ended
    [.request c.settings.source p]
  have hdelivered : session₁.written.drop wire₁.delivered = [] := List.drop_length
  rw [hdelivered, modifyConnection_receives] at hround
  simp only [List.isEmpty_nil, if_true, hlost.returned] at hround
  have hreach₆ := (repeat_succ 5 _).trans ((congrArg round hreach).trans hround)
  have hleads₂ := hleads.upTo s₂ session₁
  have hcarried : Carried (Wire.upTo wire₁ s₂ session₁) s₂ session₁ :=
    hleads.carried_upTo hwired.unshut hj.ready.ended
  obtain ⟨hcall, haround⟩ := h.returns hreach₆ (by decide) hlost hwired hleads₂ hcarried
  have hstate : c₂.state = .faulted := by
    simp only [Conversation.state, hlost.holds.link, h.link, Option.bind_some, hlost.holds.connection, k₂]
  exact ⟨_, c₂, hcall, haround.conversation, hstate, rfl⟩

end Connected

/-- A request within the limit always reaches the entity, once. It is answered, and the conversation stays connected,
iff its acknowledgement is within the limit too, which needs one byte more; otherwise the connection is lost and the
entity is told so. -/
theorem answered_iff_echo_fits (h : b.Connected l c) (hp : p ≠ []) (hmax : c.settings.limit.toNat ≤ 0xFFFF)
    (hfits : 4 + p.length ≤ c.settings.limit.toNat) (hd : 4 + d.length ≤ c.settings.limit.toNat)
    (hreply : b.entity.script.handler p = .respond d) :
    ∃ b' c', b'.conversation? l.conversation = some c' ∧
      if 5 + p.length ≤ c.settings.limit.toNat then
        b.call l.conversation (.request p) =
            (b', some (.request (.ok ⟨b.entity.script.address, c.settings.source, d⟩))) ∧
          b'.entity.observations = b.entity.observations ++ [.request c.settings.source p] ∧
          c'.state = .activated ∧ b'.Connected l c'
      else
        b.call l.conversation (.request p) = (b', some (.request (.error .connectionLost))) ∧
          b'.entity.observations =
            b.entity.observations ++ [.request c.settings.source p, .genericNack messageTooLarge] ∧
          c'.state = .faulted := by
  by_cases hecho : 5 + p.length ≤ c.settings.limit.toNat
  · obtain ⟨b', c', hcall, hconnected, -, -, hseen⟩ := h.answers hp hmax hecho hd hreply
    refine ⟨b', c', hconnected.around.conversation, ?_⟩
    rw [if_pos hecho]
    exact ⟨hcall, hseen, hconnected.state, hconnected⟩
  · obtain ⟨b', c', hcall, hget, hstate, hseen⟩ := h.loses hp hmax hfits (Nat.lt_of_not_le hecho) hreply
    refine ⟨b', c', hget, ?_⟩
    rw [if_neg hecho]
    exact ⟨hcall, hseen, hstate⟩

def narrowConnected : Bench := (narrow.call 0 (.connect 0xFA25 none)).1

def narrowConversation : Conversation := (narrowConnected.conversation? 0).get (by decide +kernel)

theorem narrow_script : narrowConnected.entity.script = { address := 0xFA25 } := by
  have hconnected : narrowConnected = (narrow.call 0 (.connect 0xFA25 none)).1 := rfl
  rw [hconnected, (Continues.call _ _ _).entity.script]
  rfl

theorem narrow_connected : narrowConnected.Connected ⟨0, 0, 0, 0⟩ narrowConversation :=
  connected_alone (Option.some_get _).symm (by decide +kernel) (by decide +kernel) (by decide +kernel)

/-- With a limit of nine bytes a request of four is answered, and one of five, which fits as well, is not. -/
theorem echo_of_five_lost :
    narrowConnected.Connected ⟨0, 0, 0, 0⟩ narrowConversation ∧
      (narrowConnected.call 0 (.request [0x2E, 1, 2, 3])).2 = some (.request (.ok ⟨0xFA25, 1, [0x6E, 1, 2, 3]⟩)) ∧
      (narrowConnected.call 0 (.request [0x2E, 1, 2, 3, 4])).2 = some (.request (.error .connectionLost)) ∧
      (narrowConnected.call 0 (.request [0x2E, 1, 2, 3, 4])).1.entity.observations =
        narrowConnected.entity.observations ++ [.request 1 [0x2E, 1, 2, 3, 4], .genericNack messageTooLarge] := by
  have hsettings : narrowConversation.settings = narrowTester := by decide +kernel
  have hlimit : narrowTester.limit.toNat = 9 := rfl
  have hfour := answered_iff_echo_fits (p := [0x2E, 1, 2, 3]) (d := [0x6E, 1, 2, 3]) narrow_connected (by decide)
    (by rw [hsettings]; decide) (by rw [hsettings]; decide) (by rw [hsettings]; decide) (by rw [narrow_script]; rfl)
  have hfive := answered_iff_echo_fits (p := [0x2E, 1, 2, 3, 4]) (d := [0x6E, 1, 2, 3, 4]) narrow_connected (by decide)
    (by rw [hsettings]; decide) (by rw [hsettings]; decide) (by rw [hsettings]; decide) (by rw [narrow_script]; rfl)
  simp only [hsettings, hlimit, narrow_script, List.length_cons, List.length_nil, Nat.reduceAdd, Nat.reduceLeDiff,
    if_true, if_false] at hfour hfive
  obtain ⟨b₁, c₁, -, hfour, -⟩ := hfour
  obtain ⟨b₂, c₂, -, hfive, hseen, -⟩ := hfive
  refine ⟨narrow_connected, congrArg Prod.snd hfour, congrArg Prod.snd hfive, ?_⟩
  rw [hfive]
  exact hseen

end Bench
end Doip
