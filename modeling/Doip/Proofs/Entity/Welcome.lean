import Doip.Proofs.Conversation.Activation
import Doip.Proofs.Entity.Replies
import Doip.Proofs.Payload.RoundTrip

/-! How a scripted entity welcomes a tester. All that it says to a request for activation are frames of at most nine
bytes of payload (`admits_greeting`), and whatever else it says, the tester hears one verdict at most: that of the
response for its own pair of addresses, which stands in front of everything that could fill its queue
(`heard_greeting`). -/

namespace Doip

namespace Session

variable {script : Script} {s : Session} {m : Message}

theorem Ready.receive_last (hs : s.Ready) (hm : Script.codec.Admits m) (hcloses : (script.answer m).closes = true) :
    s.receive script m.toBytes =
      ({ s with written := s.written ++ (script.answer m).output, ended := true },
        (script.answer m).observed.toList) := by
  obtain ⟨unread, late, atEnd, ended, written⟩ := s
  obtain ⟨rfl, rfl, rfl, rfl⟩ := hs
  have hsplit : Script.codec.splitFrame ([] ++ m.toBytes) = .ok (some (m, [])) :=
    Codec.splitFrame_eq_some_iff.2 ⟨hm, (List.append_nil _).symm⟩
  show resume script { unread := [] ++ m.toBytes, written } = _
  rw [resume, if_neg (by simp), work]
  split
  · rename_i heq
    rw [hsplit] at heq
    cases heq
  · rename_i heq
    rw [hsplit] at heq
    cases heq
  · rename_i m' rest' heq
    rw [hsplit] at heq
    cases heq
    exact if_pos hcloses

theorem receive_ended (h : s.ended = true) (bs : Bytes) :
    s.receive script bs = ({ s with unread := s.unread ++ bs }, []) :=
  if_pos (by simp [h])

end Session

namespace Script

variable {script : Script} {tester client : Address} {k : Connection} {codec : Codec} {p : Payload} {m : Message}

/-- The frame that an entity writes for a payload. -/
def frameOf (p : Payload) : Message := .of defaultVersion p.type p.encode

/-- What an entity says to a tester that asks for activation. -/
def greeting (script : Script) (tester : Address) : List Payload :=
  if script.ignoresActivation then []
  else (if script.aliveCheckFirst then [.aliveCheckRequest] else []) ++
    (if script.mismatchedFirst then [script.response (tester + 1) .routingSuccessful] else []) ++
    script.response tester script.activationCode ::
      (if script.activationCode = .routingSuccessful then script.chatter tester else [])

def greetingFrames (script : Script) (tester : Address) : List Message := (script.greeting tester).map frameOf

def turnsAway (script : Script) : Bool := !script.ignoresActivation && script.activationCode ≠ .routingSuccessful

theorem frames_eq (ps : List Payload) : frames ps = (ps.map frameOf).flatMap Message.toBytes := by
  rw [List.flatMap_map, frames, ← List.flatMap_def]
  rfl

theorem activate_eq (script : Script) (tester : Address) :
    script.activate tester =
      { observed := some (.activation tester)
        output := (script.greetingFrames tester).flatMap Message.toBytes
        closes := script.turnsAway } := by
  unfold activate greetingFrames greeting turnsAway
  cases hignores : script.ignoresActivation with
  | true => rfl
  | false =>
    simp only [Bool.false_eq_true, if_false, Bool.not_false, Bool.true_and, frames_eq, List.append_assoc,
      List.singleton_append, decide_eq_true_eq, decide_not]

/-- The request of a tester, whatever version it is written with. -/
theorem answer_activation {r : ActivationRequest} (ht : r.type.Canonical) (version : UInt8) :
    script.answer (.of version .routingActivationRequest r.encode) =
      { observed := some (.activation r.source)
        output := (script.greetingFrames r.source).flatMap Message.toBytes
        closes := script.turnsAway } := by
  have hparse : Payload.parse (.of version .routingActivationRequest r.encode) = .ok (.activationRequest r) :=
    Payload.ofBody_encode (p := .activationRequest r) ht
  simp only [answer, hparse, activate_eq]

/-! The frames of a greeting. -/

/-- A payload that may be part of a greeting. -/
inductive Said (script : Script) (tester : Address) : Payload → Prop
  | aliveCheck : Said script tester .aliveCheckRequest
  | response (client : Address) (code : ActivationCode) : Said script tester (script.response client code)
  | message : Said script tester (.diagnosticMessage ⟨script.address + 1, tester, [0x7E, 0x00]⟩)

theorem said_chatter (hp : p ∈ script.chatter tester) : Said script tester p := by
  unfold chatter at hp
  split at hp
  · cases hp
  · rcases List.mem_append.1 hp with hp | hp
    · rw [List.eq_of_mem_replicate hp]
      exact .message
    · rw [List.mem_singleton.1 hp]
      exact .aliveCheck

theorem said_greeting (hp : p ∈ script.greeting tester) : Said script tester p := by
  unfold greeting at hp
  split at hp
  · cases hp
  · rw [List.append_assoc] at hp
    rcases List.mem_append.1 hp with hp | hp
    · split at hp
      · rw [List.mem_singleton.1 hp]
        exact .aliveCheck
      · cases hp
    rcases List.mem_append.1 hp with hp | hp
    · split at hp
      · rw [List.mem_singleton.1 hp]
        exact .response _ _
      · cases hp
    rcases List.mem_cons.1 hp with rfl | hp
    · exact .response _ _
    · split at hp
      · exact said_chatter hp
      · cases hp

theorem Said.canonical (h : Said script tester p) : p.type.Canonical := by
  cases h <;> rfl

theorem ActivationResponse.length_encode (client server : Address) (code : ActivationCode) :
    (ActivationResponse.encode ⟨client, server, code, none⟩).length = 9 := rfl

theorem Said.small (h : Said script tester p) : p.encode.length ≤ 9 := by
  cases h with
  | aliveCheck => exact Nat.zero_le 9
  | response client code => exact Nat.le_of_eq (ActivationResponse.length_encode client script.address code)
  | message => exact Nat.le_of_ble_eq_true rfl

theorem admits_greeting (hlimit : 9 ≤ codec.limit.toNat) (hm : m ∈ script.greetingFrames tester) : codec.Admits m := by
  obtain ⟨p, hp, rfl⟩ := List.mem_map.1 hm
  have hsaid := said_greeting hp
  exact codec.admits_of hsaid.canonical (Nat.le_trans hsaid.small hlimit) defaultVersion

/-! What a tester hears. -/

theorem parse_response (script : Script) (client : Address) (code : ActivationCode) :
    Payload.parse (frameOf (script.response client code)) =
      .ok (.activationResponse ⟨client, script.address, .ofRaw code.raw, none⟩) := by
  have hcanonical := ActivationCode.canonical_ofRaw code.raw
  have hsame : (script.response client code).encode =
      (Payload.activationResponse ⟨client, script.address, .ofRaw code.raw, none⟩).encode := by
    simp only [response, Payload.encode, ActivationResponse.encode, ActivationCode.raw_ofRaw]
  rw [frameOf, hsame]
  exact Payload.ofBody_encode (p := .activationResponse ⟨client, script.address, .ofRaw code.raw, none⟩) hcanonical

theorem activationIn?_response (script : Script) (k : Connection) (client : Address) (code : ActivationCode) :
    k.activationIn? (frameOf (script.response client code)) =
      if client = k.settings.client ∧ script.address = k.server then
        some ⟨client, script.address, .ofRaw code.raw, none⟩
      else none := by
  simp only [Connection.activationIn?, parse_response]

theorem activationIn?_message (k : Connection) (d : DiagnosticMessage) :
    k.activationIn? (frameOf (.diagnosticMessage d)) = none := by
  have hparse : Payload.parse (frameOf (.diagnosticMessage d)) = .ok (.diagnosticMessage d) :=
    Payload.parse_diagnosticMessage defaultVersion d
  simp only [Connection.activationIn?, hparse]

theorem findSome?_take_one {α β : Type} {f : α → Option β} {before after : List α} {a : α} {n : Nat}
    (hbefore : ∀ x ∈ before, f x = none) (hafter : ∀ x ∈ after, f x = none) (hn : before.length < n) :
    ((before ++ a :: after).take n).findSome? f = f a := by
  obtain ⟨d, rfl⟩ : ∃ d, n = before.length + (d + 1) := ⟨n - before.length - 1, by omega⟩
  have hfirst : before.findSome? f = none := List.findSome?_eq_none_iff.2 hbefore
  have hlast : (after.take d).findSome? f = none :=
    List.findSome?_eq_none_iff.2 fun x hx => hafter x (List.mem_of_mem_take hx)
  rw [List.take_length_add_append, List.take_succ_cons, List.findSome?_append, hfirst, Option.none_or,
    List.findSome?_cons, hlast]
  cases f a <;> rfl

/-- The verdict is that of the response for the tester, if it comes from the server that was asked. Neither a response
for somebody else nor any number of messages keeps it out. -/
theorem heard_greeting (script : Script) (k : Connection) :
    k.heard (((script.greetingFrames k.settings.client).filter Stream.forwards).take queueDepth) =
      if script.ignoresActivation = false ∧ script.address = k.server then some (.ofRaw script.activationCode.raw)
      else none := by
  cases hignores : script.ignoresActivation with
  | true =>
    simp only [greetingFrames, greeting, hignores, if_true, Bool.true_eq_false, false_and, if_false]
    rfl
  | false =>
    let before : List Message :=
      if script.mismatchedFirst then [frameOf (script.response (k.settings.client + 1) .routingSuccessful)] else []
    let after : List Message :=
      ((if script.activationCode = .routingSuccessful then script.chatter k.settings.client else []).map frameOf).filter
        Stream.forwards
    have hfilter : (script.greetingFrames k.settings.client).filter Stream.forwards =
        before ++ frameOf (script.response k.settings.client script.activationCode) :: after := by
      simp only [greetingFrames, greeting, hignores, Bool.false_eq_true, if_false]
      cases script.aliveCheckFirst <;> cases hmis : script.mismatchedFirst <;> simp only [before, hmis] <;> rfl
    have hbefore : ∀ m ∈ before, k.activationIn? m = none := by
      intro m hm
      simp only [before] at hm
      split at hm
      · have hforeign : ¬(k.settings.client + 1 = k.settings.client ∧ script.address = k.server) := by
          rintro ⟨heq, -⟩
          exact absurd (congrArg UInt16.toNat heq) (by simp; omega)
        rw [List.mem_singleton.1 hm, activationIn?_response, if_neg hforeign]
      · cases hm
    have hafter : ∀ m ∈ after, k.activationIn? m = none := by
      intro m hm
      obtain ⟨hm, hforwards⟩ := List.mem_filter.1 hm
      obtain ⟨p, hp, rfl⟩ := List.mem_map.1 hm
      split at hp
      · unfold chatter at hp
        split at hp
        · cases hp
        · rcases List.mem_append.1 hp with hp | hp
          · rw [List.eq_of_mem_replicate hp, activationIn?_message]
          · rw [List.mem_singleton.1 hp] at hforwards
            cases hforwards
      · cases hp
    have hfew : before.length < queueDepth := by
      simp only [before]
      split
      · exact Nat.lt_of_lt_of_le Nat.one_lt_two (by decide)
      · exact Nat.lt_of_lt_of_le Nat.one_pos (by decide)
    rw [Connection.heard, hfilter, findSome?_take_one hbefore hafter hfew, activationIn?_response]
    by_cases hserver : script.address = k.server <;> simp [hserver]

/-! What it notes when a tester has answered its alive checks. -/

/-- How many alive checks are among some frames. -/
def probes (ms : List Message) : Nat := ms.countP (·.type = .aliveCheckRequest)

theorem noted_eq_replicate {ms : List Message} (hknown : ∀ m ∈ ms, m.type.isKnown = true) (client : Address) :
    ms.filterMap (Message.noted client) = List.replicate (probes ms) (.aliveCheck client) := by
  induction ms with
  | nil => rfl
  | cons m ms ih =>
    obtain ⟨hm, hms⟩ := List.forall_mem_cons.1 hknown
    by_cases htype : m.type = .aliveCheckRequest
    · have hnoted : m.noted client = some (.aliveCheck client) := by rw [Message.noted, htype]
      rw [List.filterMap_cons_some hnoted, ih hms, probes, probes, List.countP_cons_of_pos (by simpa using htype)]
      rfl
    · have hnoted : m.noted client = none := by
        unfold Message.noted
        cases hkind : m.type <;> simp_all [PayloadType.isKnown]
      rw [List.filterMap_cons_none hnoted, ih hms, probes, probes, List.countP_cons_of_neg (by simpa using htype)]

theorem Said.known (h : Said script tester p) : p.type.isKnown = true := by
  cases h <;> rfl

theorem noted_greeting (script : Script) (tester : Address) :
    (script.greetingFrames tester).filterMap (Message.noted tester) =
      List.replicate (probes (script.greetingFrames tester)) (.aliveCheck tester) := by
  refine noted_eq_replicate (fun m hm => ?_) tester
  obtain ⟨p, hp, rfl⟩ := List.mem_map.1 hm
  exact (said_greeting hp).known

end Script
end Doip
