import Doip.Conversation.Error
import Doip.Proofs.Connection.Receiver
import Doip.Proofs.Conversation.Verdict
import Doip.Proofs.Entity.Session
import Doip.Proofs.Payload.RoundTrip

/-! Requests with a reply from the script of an entity. The reply is a tree, and what it means to a client is told from
its leaf (`Reply.meaning`); what the entity sends for it is an opening, the frames on the way to the leaf, and at once,
later or never the response (`Ready.receive_request`). The client's receiver answers some of these frames, and what the
entity makes of that is noted in their order (`work_answers`): at once, or behind a response that it still holds back
(`Holding.elapse_due`). -/

namespace Doip

namespace Reply

/-- What a request with this reply comes to when its response is waited for so long. -/
def meaning (timeout : Nat) : Reply → Except RequestError Bytes
  | respond data => .ok data
  | refuse code => .error (.negativeAck code)
  | silent => .error .timeout
  | delayed ms data => if ms < timeout then .ok data else .error .timeout
  | after _ reply => reply.meaning timeout

/-- The data of the response, if there is one. -/
def body? : Reply → Option Bytes
  | respond data => some data
  | delayed _ data => some data
  | after _ reply => reply.body?
  | _ => none

/-- How long the response is held back, if it is. -/
def delay? : Reply → Option Nat
  | delayed ms _ => some ms
  | after _ reply => reply.delay?
  | _ => none

def prompt? (reply : Reply) : Option Bytes :=
  match reply.core with
  | respond data => some data
  | delayed 0 data => some data
  | _ => none

/-- A response that is held back, and how long. -/
def held? (reply : Reply) : Option (Nat × Bytes) :=
  match reply.core with
  | delayed (ms + 1) data => some (ms + 1, data)
  | _ => none

theorem meaning_core (timeout : Nat) (reply : Reply) : reply.core.meaning timeout = reply.meaning timeout := by
  induction reply with
  | after frames reply ih => exact ih
  | _ => rfl

theorem body?_core (reply : Reply) : reply.core.body? = reply.body? := by
  induction reply with
  | after frames reply ih => exact ih
  | _ => rfl

theorem delay?_core (reply : Reply) : reply.core.delay? = reply.delay? := by
  induction reply with
  | after frames reply ih => exact ih
  | _ => rfl

theorem core_ne_after (reply inner : Reply) (frames : List Bytes) : reply.core ≠ after frames inner := by
  induction reply with
  | after frames reply ih => exact ih
  | _ => exact nofun

theorem core_of_prompt {reply : Reply} {d : Bytes} (h : reply.prompt? = some d) :
    reply.core = respond d ∨ reply.core = delayed 0 d := by
  unfold prompt? at h
  split at h
  · cases h
    exact .inl ‹_›
  · cases h
    exact .inr ‹_›
  · cases h

theorem core_of_held {reply : Reply} {ms : Nat} {d : Bytes} (h : reply.held? = some (ms, d)) :
    reply.core = delayed ms d ∧ ms ≠ 0 := by
  unfold held? at h
  split at h
  · cases h
    exact ⟨‹_›, Nat.succ_ne_zero _⟩
  · cases h

theorem body?_of_prompt {reply : Reply} {d : Bytes} (h : reply.prompt? = some d) : reply.body? = some d := by
  rw [← reply.body?_core]
  rcases core_of_prompt h with hcore | hcore
  · rw [hcore, body?]
  · rw [hcore, body?]

theorem body?_of_held {reply : Reply} {ms : Nat} {d : Bytes} (h : reply.held? = some (ms, d)) :
    reply.body? = some d := by
  rw [← reply.body?_core, (core_of_held h).1, body?]

end Reply

namespace Script

variable {script : Script} {tester : Address} {request : Bytes} {between : List Message}

def refusalOf (script : Script) (tester : Address) (code : UInt8) (request : Bytes) : Message :=
  .of defaultVersion .diagnosticMessageNack (Acknowledgement.encode ⟨script.address, tester, code, request⟩)

def openingOf (script : Script) (tester : Address) (request : Bytes) (reply : Reply) : Message :=
  match reply.core with
  | .refuse code => script.refusalOf tester code request
  | _ => script.acknowledgementOf tester request

/-- What is sent at once, with these frames between. -/
def promptly (script : Script) (tester : Address) (request : Bytes) (reply : Reply) (between : List Message) :
    List Message :=
  script.openingOf tester request reply :: (between ++ (reply.prompt?.map (script.responseOf tester)).toList)

theorem answer_by_core (hframes : (script.handler request).frames = between.map Message.toBytes) (version : UInt8)
    (tester : Address) :
    let reply := script.handler request
    let opening := (script.openingOf tester request reply :: between).flatMap Message.toBytes
    let response data := (script.responseOf tester data).toBytes
    script.answer (script.requestOf version tester request) =
      { observed := some (.request tester request)
        output := match reply.core with
          | .respond data => opening ++ response data
          | _ => opening
        late := match reply.core with
          | .delayed ms data => some (ms, response data)
          | _ => none } := by
  intro reply opening response
  have hparse : Payload.parse (script.requestOf version tester request) =
      .ok (.diagnosticMessage ⟨tester, script.address, request⟩) := Payload.parse_diagnosticMessage version _
  simp only [answer, hparse, Script.reply, if_true]
  cases hcore : (script.handler request).core with
  | after frames inner => exact absurd hcore (Reply.core_ne_after _ inner frames)
  | _ =>
    simp only [opening, reply, openingOf, hcore, hframes, List.flatMap_def]
    rfl

/-! What the client makes of what is sent at once. -/

section Promptly

variable (script : Script) (tester : Address) (p : Bytes) (reply : Reply) (between : List Message)

theorem sign?_acknowledgementOf :
    (script.acknowledgementOf tester p).sign? script.address tester = some (.acknowledgement .positive) := by
  have hparse : Payload.parse (script.acknowledgementOf tester p) =
      .ok (.diagnosticMessageAck ⟨script.address, tester, 0x00, p⟩) := Payload.parse_diagnosticMessageAck _ _
  simp only [Message.sign?, hparse, and_self, if_true]

theorem sign?_responseOf (d : Bytes) :
    (script.responseOf tester d).sign? script.address tester = some (.answer d) := by
  have hparse : Payload.parse (script.responseOf tester d) =
      .ok (.diagnosticMessage ⟨script.address, tester, d⟩) := Payload.parse_diagnosticMessage _ _
  simp only [Message.sign?, hparse, and_self, if_true]

theorem sign?_refusalOf (code : UInt8) :
    (script.refusalOf tester code p).sign? script.address tester = some (.acknowledgement (.negative code)) := by
  have hparse : Payload.parse (script.refusalOf tester code p) =
      .ok (.diagnosticMessageNack ⟨script.address, tester, code, p⟩) :=
    Payload.ofBody_encode (p := .diagnosticMessageNack ⟨script.address, tester, code, p⟩) trivial
  simp only [Message.sign?, hparse, and_self, if_true]

variable {reply} in
theorem sign?_openingOf_refused {code : UInt8} (hcore : reply.core = .refuse code) :
    (script.openingOf tester p reply).sign? script.address tester = some (.acknowledgement (.negative code)) := by
  rw [openingOf, hcore]
  exact script.sign?_refusalOf tester p code

variable {reply} in
theorem sign?_openingOf (hcore : ∀ code, reply.core ≠ .refuse code) :
    (script.openingOf tester p reply).sign? script.address tester = some (.acknowledgement .positive) := by
  unfold openingOf
  split
  · exact absurd ‹_› (hcore _)
  · exact script.sign?_acknowledgementOf tester p

theorem forwards_openingOf : Stream.forwards (script.openingOf tester p reply) = true := by
  unfold openingOf
  split <;> rfl

theorem admits_openingOf {codec : Codec} (hecho : 5 + p.length ≤ codec.limit.toNat) :
    codec.Admits (script.openingOf tester p reply) := by
  have hack : PayloadType.Canonical .diagnosticMessageAck := rfl
  have hnack : PayloadType.Canonical .diagnosticMessageNack := rfl
  unfold openingOf
  split
  · refine Codec.admits_of _ hnack ?_ _
    rw [Acknowledgement.length_encode]
    exact hecho
  · refine Codec.admits_of _ hack ?_ _
    rw [Acknowledgement.length_encode]
    exact hecho

theorem admits_responseOf {codec : Codec} {d : Bytes} (hd : 4 + d.length ≤ codec.limit.toNat) :
    codec.Admits (script.responseOf tester d) := by
  have hcanonical : PayloadType.Canonical .diagnosticMessage := rfl
  refine Codec.admits_of _ hcanonical ?_ _
  rw [DiagnosticMessage.length_encode]
  exact hd

variable {p reply between} in
theorem admits_promptly {codec : Codec} (hecho : 5 + p.length ≤ codec.limit.toNat)
    (hbody : ∀ d ∈ reply.body?, 4 + d.length ≤ codec.limit.toNat) (hbetween : ∀ m ∈ between, codec.Admits m) :
    ∀ m ∈ script.promptly tester p reply between, codec.Admits m := by
  intro m hm
  rcases List.mem_cons.1 hm with rfl | hm
  · exact script.admits_openingOf tester p reply hecho
  rcases List.mem_append.1 hm with hm | hm
  · exact hbetween m hm
  · obtain ⟨d, hd, rfl⟩ := Option.map_eq_some_iff.1 (Option.mem_toList.1 hm)
    exact script.admits_responseOf tester (hbody d (Reply.body?_of_prompt hd))

theorem filter_promptly :
    (script.promptly tester p reply between).filter Stream.forwards =
      script.openingOf tester p reply ::
        (between.filter Stream.forwards ++ (reply.prompt?.map (script.responseOf tester)).toList) := by
  have hresponse : (reply.prompt?.map (script.responseOf tester)).toList.filter Stream.forwards =
      (reply.prompt?.map (script.responseOf tester)).toList := by
    cases reply.prompt? <;> rfl
  rw [promptly, List.filter_cons_of_pos (script.forwards_openingOf tester p reply), List.filter_append, hresponse]

theorem flatMap_promptly (codec : Codec) :
    (script.promptly tester p reply between).flatMap (Stream.answer codec tester) =
      between.flatMap (Stream.answer codec tester) := by
  have hresponse : (reply.prompt?.map (script.responseOf tester)).toList.flatMap (Stream.answer codec tester) = [] := by
    cases reply.prompt? <;> rfl
  rw [promptly, List.flatMap_cons, Stream.answer_of_forwards (script.forwards_openingOf tester p reply),
    List.flatMap_append, hresponse, List.append_nil, List.nil_append]

end Promptly
end Script

/-- What an entity notes when a client with some address has answered a frame by itself. -/
def Message.noted (client : Address) (m : Message) : Option Observation :=
  match m.type with
  | .unknown _ => some (.genericNack unknownPayloadType)
  | .aliveCheckRequest => some (.aliveCheck client)
  | _ => none

theorem Message.noted_of_forwards {m : Message} (h : Stream.forwards m = true) (client : Address) :
    m.noted client = none := by
  unfold Stream.forwards at h
  unfold Message.noted
  cases ht : m.type <;> simp_all

namespace Session

variable {script : Script} {s : Session} {tester : Address} {request : Bytes} {between : List Message}

/-- A session that has read a request and sent what is sent at once. -/
def opened (s : Session) (script : Script) (tester : Address) (request : Bytes) (between : List Message) : Session :=
  { s with
    written := s.written ++ (script.promptly tester request (script.handler request) between).flatMap Message.toBytes
    late := (script.handler request).held?.map fun p => (p.1, (script.responseOf tester p.2).toBytes) }

/-- A request is noted, and what is not held back of its reply is sent. -/
theorem Ready.receive_request (hs : s.Ready) (hframes : (script.handler request).frames = between.map Message.toBytes)
    (version : UInt8) (tester : Address) (hmax : 4 + request.length ≤ 0xFFFF) :
    s.receive script (script.requestOf version tester request).toBytes =
      (s.opened script tester request between, [.request tester request]) := by
  obtain ⟨unread, late, atEnd, ended, written⟩ := s
  obtain ⟨rfl, rfl, rfl, rfl⟩ := hs
  have hanswer := Script.answer_by_core hframes version tester
  have hsplit : Script.codec.splitFrame ([] ++ (script.requestOf version tester request).toBytes) =
      .ok (some (script.requestOf version tester request, [])) :=
    Codec.splitFrame_eq_some_iff.2 ⟨script.admits_requestOf version tester hmax, (List.append_nil _).symm⟩
  have hrest : ∀ written, work script { written } = ({ written }, []) := fun written => work_of_none rfl
  show resume script { unread := [] ++ (script.requestOf version tester request).toBytes, written } = _
  rw [resume, if_neg (by simp), work_frame hsplit (by rw [hanswer]), hanswer]
  unfold opened Script.promptly
  simp only [Reply.prompt?, Reply.held?]
  cases hcore : (script.handler request).core with
  | after frames inner => exact absurd hcore (Reply.core_ne_after _ inner frames)
  | respond data => simp [hrest]
  | refuse code => simp [hrest]
  | silent => simp [hrest]
  | delayed ms data =>
    cases ms with
    | zero => simp [hrest]
    | succ ms => simp

theorem work_payload {s : Session} {codec : Codec} {p : Payload} {rest : Bytes}
    (hunread : s.unread = codec.encodePayload p ++ rest) (hp : p.Canonical) (hsmall : p.encode.length ≤ 2)
    (observation : Observation)
    (hanswer : ∀ m, Payload.parse m = .ok p → script.answer m = { observed := some observation }) :
    s.work script =
      ((work script { s with unread := rest }).1, observation :: (work script { s with unread := rest }).2) := by
  have hadmits : Script.codec.Admits (.of codec.version p.type p.encode) :=
    Codec.admits_of _ (Payload.canonical_type hp) (Nat.le_trans hsmall (by decide)) codec.version
  have hsplit : Script.codec.splitFrame s.unread = .ok (some (.of codec.version p.type p.encode, rest)) :=
    Codec.splitFrame_eq_some_iff.2 ⟨hadmits, hunread⟩
  have hnoted := hanswer (.of codec.version p.type p.encode) (Payload.ofBody_encode hp)
  rw [work_of_some hsplit (by rw [hnoted]) (by rw [hnoted]), hnoted]
  simp only [List.append_nil]
  rfl

/-- Whatever the client's receiver answers by itself is noted in order. -/
theorem work_answers (codec : Codec) (client : Address) {ms : List Message} {s : Session}
    (hunread : s.unread = ms.flatMap (Stream.answer codec client)) :
    s.work script = ({ s with unread := [], ended := s.atEnd }, ms.filterMap (Message.noted client)) := by
  induction ms generalizing s with
  | nil =>
    have hempty : s.unread = [] := hunread
    rw [work_of_none (by rw [hempty]; rfl)]
    obtain ⟨unread, late, atEnd, ended, written⟩ := s
    obtain rfl : unread = [] := hempty
    rfl
  | cons m ms ih =>
    rw [List.flatMap_cons] at hunread
    cases hforwards : Stream.forwards m with
    | true =>
      rw [Stream.answer_of_forwards hforwards, List.nil_append] at hunread
      rw [List.filterMap_cons_none (m.noted_of_forwards hforwards client)]
      exact ih hunread
    | false =>
      rcases Stream.forwards_eq_false_iff.1 hforwards with ⟨raw, htype⟩ | htype
      · have hnack : s.unread = codec.encodePayload (.genericNack unknownPayloadType) ++
            ms.flatMap (Stream.answer codec client) := by
          rw [hunread, Stream.answer, htype]
        have hnoted : m.noted client = some (.genericNack unknownPayloadType) := by rw [Message.noted, htype]
        rw [work_payload hnack trivial (Nat.le_add_left 1 1) (.genericNack unknownPayloadType)
            fun m hparse => by simp only [Script.answer, hparse],
          ih (s := { s with unread := ms.flatMap (Stream.answer codec client) }) rfl, List.filterMap_cons_some hnoted]
      · have halive : s.unread = codec.encodePayload (.aliveCheckResponse client) ++
            ms.flatMap (Stream.answer codec client) := by
          rw [hunread, Stream.answer, htype]
        have hnoted : m.noted client = some (.aliveCheck client) := by rw [Message.noted, htype]
        rw [work_payload halive trivial (Nat.le_of_eq (length_addressBytes client)) (.aliveCheck client)
            fun m hparse => by simp only [Script.answer, hparse],
          ih (s := { s with unread := ms.flatMap (Stream.answer codec client) }) rfl, List.filterMap_cons_some hnoted]

theorem Ready.receive_answers (hs : s.Ready) (script : Script) (codec : Codec) (client : Address) (ms : List Message) :
    s.receive script (ms.flatMap (Stream.answer codec client)) = (s, ms.filterMap (Message.noted client)) := by
  obtain ⟨unread, late, atEnd, ended, written⟩ := s
  obtain ⟨rfl, rfl, rfl, rfl⟩ := hs
  show resume script { unread := [] ++ ms.flatMap (Stream.answer codec client), written } = _
  rw [resume, if_neg (by simp), work_answers codec client rfl]

/-- A session that holds a frame back and has read nothing more. -/
structure Holding (s : Session) (wait : Nat) (frame unread : Bytes) : Prop where
  late : s.late = some (wait, frame)
  unread : s.unread = unread
  atEnd : s.atEnd = false
  ended : s.ended = false

namespace Holding

variable {wait ms : Nat} {frame unread : Bytes}

theorem receive (h : s.Holding wait frame unread) (bs : Bytes) :
    s.receive script bs = ({ s with unread := unread ++ bs }, []) := by
  have hheld : (s.ended || s.late.isSome) = true := by simp [h.late]
  rw [← h.unread]
  exact if_pos hheld

theorem receive_nil (h : s.Holding wait frame unread) : s.receive script [] = (s, []) := by
  rw [h.receive, List.append_nil, ← h.unread]

theorem more (h : s.Holding wait frame unread) (bs : Bytes) :
    Holding { s with unread := unread ++ bs } wait frame (unread ++ bs) := { h with unread := rfl }

theorem elapse_early (h : s.Holding wait frame unread) (script : Script) (hearly : ms < wait) :
    ∃ s', s.elapse script ms = (s', []) ∧ s'.Holding (wait - ms) frame unread ∧ s'.written = s.written := by
  refine ⟨{ s with late := some (wait - ms, frame) }, ?_, ⟨rfl, h.unread, h.atEnd, h.ended⟩, rfl⟩
  simp only [elapse, h.late, if_pos hearly]

/-- When the frame is due, what a client has answered meanwhile is noted behind it. -/
theorem elapse_due {codec : Codec} {client : Address} {answered : List Message}
    (h : s.Holding wait frame (answered.flatMap (Stream.answer codec client))) (script : Script) (hdue : wait ≤ ms) :
    ∃ s', s.elapse script ms = (s', answered.filterMap (Message.noted client)) ∧ s'.Ready ∧
      s'.written = s.written ++ frame := by
  obtain ⟨unread, late, atEnd, ended, written⟩ := s
  obtain ⟨rfl, rfl, rfl, rfl⟩ := h
  refine ⟨{ written := written ++ frame }, ?_, ⟨rfl, rfl, rfl, rfl⟩, rfl⟩
  simp only [elapse, if_neg (Nat.not_lt.2 hdue)]
  rw [resume, if_neg (by simp), work_answers codec client rfl]

end Holding

theorem Ready.opened_ready (hs : s.Ready) (hheld : (script.handler request).held? = none) :
    (s.opened script tester request between).Ready :=
  ⟨hs.unread, by rw [opened, hheld]; rfl, hs.atEnd, hs.ended⟩

theorem Ready.opened_holding (hs : s.Ready) (tester : Address) (between : List Message) {ms : Nat} {d : Bytes}
    (hheld : (script.handler request).held? = some (ms, d)) :
    (s.opened script tester request between).Holding ms (script.responseOf tester d).toBytes [] :=
  ⟨by rw [opened, hheld]; rfl, hs.unread, hs.atEnd, hs.ended⟩

end Session
end Doip
