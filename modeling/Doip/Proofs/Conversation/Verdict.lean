import Doip.Conversation.Error
import Doip.Proofs.Connection.Wait

/-! What a request comes to, told from the times of the frames alone. A frame from the server to this client is a
sign: an acknowledgement or an answer. Everything else means nothing (`Message.sign?`). The first
acknowledgement in time and the first answer decide (`verdict`), and once they are there, or their time is
over, later signs change nothing (`Decided`). -/

namespace Doip

/-- What a frame tells the caller of a request. -/
inductive Sign
  | acknowledgement (outcome : AckOutcome)
  | answer (data : Bytes)
deriving DecidableEq, Repr

/-- The sign in a frame from the server to the client. -/
def Message.sign? (server client : Address) (m : Message) : Option Sign :=
  match Payload.parse m with
  | .ok (.diagnosticMessageAck a) =>
    if a.source = server ∧ a.target = client then some (.acknowledgement .positive) else none
  | .ok (.diagnosticMessageNack a) =>
    if a.source = server ∧ a.target = client then some (.acknowledgement (.negative a.code)) else none
  | .ok (.diagnosticMessage d) => if d.source = server ∧ d.target = client then some (.answer d.data) else none
  | _ => none

/-- The first acknowledgement before a time. -/
def ackBefore (deadline : Nat) (signs : List (Nat × Sign)) : Option (Nat × AckOutcome) :=
  signs.findSome? fun
    | (t, .acknowledgement outcome) => if t < deadline then some (t, outcome) else none
    | (_, .answer _) => none

def firstAnswer (signs : List (Nat × Sign)) : Option (Nat × Bytes) :=
  signs.findSome? fun
    | (_, .acknowledgement _) => none
    | (t, .answer data) => some (t, data)

/-- What a request comes to. The time for the acknowledgement begins at 0, and the time for the answer when the
acknowledgement arrives. -/
def verdict (ackTimeout responseTimeout : Nat) (signs : List (Nat × Sign)) : Except RequestError Bytes :=
  match ackBefore ackTimeout signs with
  | none => .error .ackTimeout
  | some (_, .negative code) => .error (.negativeAck code)
  | some (t, .positive) =>
    match firstAnswer signs with
    | none => .error .timeout
    | some (t', data) => if t' < t + responseTimeout then .ok data else .error .timeout

/-- No sign comes at exactly the moment when the time for it is over. -/
structure Punctual (ackTimeout responseTimeout : Nat) (signs : List (Nat × Sign)) : Prop where
  acknowledgement : ∀ outcome, (ackTimeout, .acknowledgement outcome) ∉ signs
  answer : ∀ t data, ackBefore ackTimeout signs = some (t, .positive) → (t + responseTimeout, .answer data) ∉ signs

/-- The verdict on some signs up to a time stays the same whatever comes from then on. -/
def Decided (ackTimeout responseTimeout time : Nat) (signs : List (Nat × Sign))
    (result : Except RequestError Bytes) : Prop :=
  ∀ later : List (Nat × Sign), (∀ p ∈ later, time ≤ p.1) → verdict ackTimeout responseTimeout (signs ++ later) = result

variable {A R t t' time : Nat} {signs later : List (Nat × Sign)} {outcome : AckOutcome} {data : Bytes}
variable {result : Except RequestError Bytes}

theorem ackBefore_append_eq (A : Nat) (signs later : List (Nat × Sign)) :
    ackBefore A (signs ++ later) = (ackBefore A signs).or (ackBefore A later) := List.findSome?_append

theorem firstAnswer_append_eq (signs later : List (Nat × Sign)) :
    firstAnswer (signs ++ later) = (firstAnswer signs).or (firstAnswer later) := List.findSome?_append

theorem ackBefore_append (h : ackBefore A signs = some (t, outcome)) (later : List (Nat × Sign)) :
    ackBefore A (signs ++ later) = some (t, outcome) := by
  rw [ackBefore_append_eq, h, Option.some_or]

theorem firstAnswer_append (h : firstAnswer signs = some (t, data)) (later : List (Nat × Sign)) :
    firstAnswer (signs ++ later) = some (t, data) := by
  rw [firstAnswer_append_eq, h, Option.some_or]

theorem ackBefore_append_of_none (h : ackBefore A signs = none) (later : List (Nat × Sign)) :
    ackBefore A (signs ++ later) = ackBefore A later := by
  rw [ackBefore_append_eq, h, Option.none_or]

theorem firstAnswer_append_of_none (h : firstAnswer signs = none) (later : List (Nat × Sign)) :
    firstAnswer (signs ++ later) = firstAnswer later := by
  rw [firstAnswer_append_eq, h, Option.none_or]

theorem ackBefore_lt (h : ackBefore A signs = some (t, outcome)) : t < A := by
  obtain ⟨⟨t', s⟩, -, hs⟩ := List.exists_of_findSome?_eq_some h
  cases s with
  | acknowledgement o =>
    simp only [Option.ite_none_right_eq_some, Option.some.injEq, Prod.mk.injEq] at hs
    obtain ⟨hlt, rfl, -⟩ := hs
    exact hlt
  | answer d => cases hs

theorem firstAnswer_mem (h : firstAnswer signs = some (t, data)) : (t, .answer data) ∈ signs := by
  obtain ⟨⟨t', s⟩, hmem, hs⟩ := List.exists_of_findSome?_eq_some h
  cases s with
  | acknowledgement o => cases hs
  | answer d =>
    cases hs
    exact hmem

theorem ackBefore_late (h : ∀ p ∈ signs, A ≤ p.1) : ackBefore A signs = none := by
  rw [ackBefore, List.findSome?_eq_none_iff]
  rintro ⟨t, s⟩ hmem
  cases s with
  | acknowledgement o => exact if_neg (Nat.not_lt.2 (h _ hmem))
  | answer d => rfl

theorem ackBefore_answers (h : ∀ p ∈ signs, ∃ data, p.2 = .answer data) (A : Nat) : ackBefore A signs = none := by
  rw [ackBefore, List.findSome?_eq_none_iff]
  rintro ⟨t, s⟩ hmem
  obtain ⟨d, rfl⟩ : ∃ data, s = .answer data := h _ hmem
  rfl

theorem firstAnswer_acknowledgements (h : ∀ p ∈ signs, ∃ outcome, p.2 = .acknowledgement outcome) :
    firstAnswer signs = none := by
  rw [firstAnswer, List.findSome?_eq_none_iff]
  rintro ⟨t, s⟩ hmem
  obtain ⟨o, rfl⟩ : ∃ outcome, s = .acknowledgement outcome := h _ hmem
  rfl

theorem ackBefore_cons (h : t < A) (outcome : AckOutcome) (later : List (Nat × Sign)) :
    ackBefore A ((t, .acknowledgement outcome) :: later) = some (t, outcome) := by
  rw [ackBefore, List.findSome?_cons]
  simp only [if_pos h]

theorem answers_of_map {ds : List Bytes} (h : signs.map (·.2) = ds.map .answer) :
    ∀ p ∈ signs, ∃ data, p.2 = .answer data := by
  intro p hp
  have hmem : p.2 ∈ ds.map Sign.answer := h ▸ List.mem_map_of_mem hp
  obtain ⟨d, -, hd⟩ := List.mem_map.1 hmem
  exact ⟨d, hd.symm⟩

theorem firstAnswer_before {ds : List Bytes} (h : signs.map (·.2) = ds.map .answer) (t : Nat)
    (outcome : AckOutcome) : (firstAnswer (signs ++ [(t, .acknowledgement outcome)])).map (·.2) = ds.head? := by
  cases signs with
  | nil => cases ds with
    | nil => rfl
    | cons d ds => cases h
  | cons p ps => cases ds with
    | nil => cases h
    | cons d ds =>
      obtain ⟨t', s⟩ := p
      obtain rfl : s = .answer d := (List.cons.inj h).1
      rfl

theorem Punctual.of_append (h : Punctual A R (signs ++ later)) : Punctual A R signs := by
  refine ⟨fun outcome hmem => h.acknowledgement outcome (List.mem_append_left later hmem), ?_⟩
  intro t data hack hmem
  exact h.answer t data (ackBefore_append hack later) (List.mem_append_left later hmem)

theorem Decided.verdict_eq (h : Decided A R time signs result) : verdict A R signs = result := by
  have hnil := h [] fun p hp => by cases hp
  rwa [List.append_nil] at hnil

theorem Decided.append (h : Decided A R time signs result) (hlater : ∀ p ∈ later, time ≤ p.1) :
    Decided A R time (signs ++ later) result := by
  intro more hmore
  rw [List.append_assoc]
  refine h (later ++ more) fun p hp => ?_
  rcases List.mem_append.1 hp with hp | hp
  · exact hlater p hp
  · exact hmore p hp

theorem Decided.mono (h : Decided A R time signs result) {time' : Nat} (hle : time ≤ time') :
    Decided A R time' signs result :=
  fun more hmore => h more fun p hp => Nat.le_trans hle (hmore p hp)

theorem decided_unacknowledged (h : ackBefore A signs = none) (hover : A ≤ time) :
    Decided A R time signs (.error .ackTimeout) := by
  intro more hmore
  have hlate := ackBefore_late fun p hp => Nat.le_trans hover (hmore p hp)
  rw [verdict, ackBefore_append_of_none h, hlate]

theorem decided_refused {code : UInt8} (h : ackBefore A signs = some (t, .negative code)) :
    Decided A R time signs (.error (.negativeAck code)) := by
  intro more _
  rw [verdict, ackBefore_append h]

theorem decided_answered (h : ackBefore A signs = some (t, .positive)) (ha : firstAnswer signs = some (t', data))
    (hlt : t' < t + R) : Decided A R time signs (.ok data) := by
  intro more _
  rw [verdict, ackBefore_append h, firstAnswer_append ha]
  exact if_pos hlt

theorem decided_unanswered (h : ackBefore A signs = some (t, .positive)) (ha : firstAnswer signs = none)
    (hover : t + R ≤ time) : Decided A R time signs (.error .timeout) := by
  intro more hmore
  rw [verdict, ackBefore_append h, firstAnswer_append_of_none ha]
  cases hm : firstAnswer more with
  | none => rfl
  | some p =>
    obtain ⟨t', d⟩ := p
    have hle := hmore _ (firstAnswer_mem hm)
    exact if_neg (by simp only at hle; omega)

/-! The signs in a queue, and what a search takes from it. -/

def signsIn (server client : Address) (ms : List Message) : List Sign := ms.filterMap (Message.sign? server client)

/-- Frames that the receiver keeps from the caller are no signs. -/
theorem sign?_of_answered {m : Message} (h : Stream.forwards m = false) (server client : Address) :
    m.sign? server client = none := by
  rcases Stream.forwards_eq_false_iff.1 h with ⟨raw, ht⟩ | ht
  · simp only [Message.sign?, Payload.parse, Payload.ofBody, ht]
  · simp only [Message.sign?, Payload.parse, Payload.ofBody, ht]

theorem signsIn_forwards (server client : Address) (ms : List Message) :
    signsIn server client (ms.filter Stream.forwards) = signsIn server client ms := by
  induction ms with
  | nil => rfl
  | cons m ms ih =>
    cases hf : Stream.forwards m with
    | false =>
      rw [List.filter_cons_of_neg (by simp [hf]), ih, signsIn, signsIn,
        List.filterMap_cons_none (sign?_of_answered hf server client)]
    | true =>
      rw [List.filter_cons_of_pos hf]
      unfold signsIn at ih ⊢
      rw [List.filterMap_cons, List.filterMap_cons, ih]

namespace Connection

theorem selectAcknowledgement_eq (k : Connection) (m : Message) :
    k.selectAcknowledgement m =
      match m.sign? k.server k.settings.client with
      | some (.acknowledgement outcome) => .accept outcome
      | some (.answer data) => .setAside data
      | none => .drop := by
  unfold selectAcknowledgement Message.sign?
  cases Payload.parse m with
  | error e => rfl
  | ok p =>
    cases p with
    | diagnosticMessageAck a =>
      by_cases ha : a.source = k.server ∧ a.target = k.settings.client
      · simp only [if_pos ha]
      · simp only [if_neg ha]
    | diagnosticMessageNack a =>
      by_cases ha : a.source = k.server ∧ a.target = k.settings.client
      · simp only [if_pos ha]
      · simp only [if_neg ha]
    | diagnosticMessage d =>
      by_cases hd : d.source = k.server ∧ d.target = k.settings.client
      · simp only [if_pos hd]
      · simp only [if_neg hd]
    | _ => rfl

theorem selectResponse_eq (k : Connection) (m : Message) :
    k.selectResponse m =
      match m.sign? k.server k.settings.client with
      | some (.answer data) => .accept data
      | _ => .drop := by
  unfold selectResponse Message.sign?
  cases Payload.parse m with
  | error e => rfl
  | ok p =>
    cases p with
    | diagnosticMessageAck a =>
      by_cases ha : a.source = k.server ∧ a.target = k.settings.client
      · simp only [if_pos ha]
      · simp only [if_neg ha]
    | diagnosticMessageNack a =>
      by_cases ha : a.source = k.server ∧ a.target = k.settings.client
      · simp only [if_pos ha]
      · simp only [if_neg ha]
    | diagnosticMessage d =>
      by_cases hd : d.source = k.server ∧ d.target = k.settings.client
      · simp only [if_pos hd]
      · simp only [if_neg hd]
    | _ => rfl

/-- A search for an acknowledgement sets answers aside up to the first acknowledgement, or sets all aside. -/
theorem search_acknowledgement (k : Connection) (ms : List Message) :
    (∃ aside, signsIn k.server k.settings.client ms = aside.map .answer ∧
      Stream.search k.selectAcknowledgement ms = (none, aside, [])) ∨
    ∃ aside outcome rest,
      signsIn k.server k.settings.client ms =
        aside.map .answer ++ .acknowledgement outcome :: signsIn k.server k.settings.client rest ∧
      Stream.search k.selectAcknowledgement ms = (some outcome, aside, rest) := by
  induction ms with
  | nil => exact .inl ⟨[], rfl, rfl⟩
  | cons m ms ih =>
    have hsel := k.selectAcknowledgement_eq m
    simp only [Stream.search, hsel]
    unfold signsIn at ih ⊢
    cases hm : m.sign? k.server k.settings.client with
    | none =>
      rw [List.filterMap_cons_none hm]
      exact ih
    | some sign =>
      rw [List.filterMap_cons_some hm]
      cases sign with
      | acknowledgement outcome => exact .inr ⟨[], outcome, ms, rfl, rfl⟩
      | answer data =>
        rcases ih with ⟨aside, hsigns, hsearch⟩ | ⟨aside, outcome, rest, hsigns, hsearch⟩
        · exact .inl ⟨data :: aside, by rw [hsigns, List.map_cons], by simp only [hsearch]⟩
        · exact .inr ⟨data :: aside, outcome, rest, by rw [hsigns, List.map_cons, List.cons_append],
            by simp only [hsearch]⟩

/-- A search for an answer takes the first one and drops acknowledgements. -/
theorem search_response (k : Connection) (ms : List Message) :
    ((∀ sign ∈ signsIn k.server k.settings.client ms, ∃ outcome, sign = .acknowledgement outcome) ∧
      Stream.search k.selectResponse ms = (none, [], [])) ∨
    ∃ acks data rest,
      signsIn k.server k.settings.client ms = acks ++ .answer data :: signsIn k.server k.settings.client rest ∧
      (∀ sign ∈ acks, ∃ outcome, sign = .acknowledgement outcome) ∧
      Stream.search k.selectResponse ms = (some data, [], rest) := by
  induction ms with
  | nil => exact .inl ⟨fun sign h => absurd h List.not_mem_nil, rfl⟩
  | cons m ms ih =>
    have hsel := k.selectResponse_eq m
    simp only [Stream.search, hsel]
    unfold signsIn at ih ⊢
    cases hm : m.sign? k.server k.settings.client with
    | none =>
      rw [List.filterMap_cons_none hm]
      exact ih
    | some sign =>
      rw [List.filterMap_cons_some hm]
      cases sign with
      | answer data => exact .inr ⟨[], data, ms, rfl, fun sign h => absurd h List.not_mem_nil, rfl⟩
      | acknowledgement outcome =>
        rcases ih with ⟨hall, hsearch⟩ | ⟨acks, data, rest, hsigns, hacks, hsearch⟩
        · refine .inl ⟨fun sign h => ?_, hsearch⟩
          rcases List.mem_cons.1 h with rfl | h
          · exact ⟨outcome, rfl⟩
          · exact hall sign h
        · refine .inr ⟨.acknowledgement outcome :: acks, data, rest, by rw [hsigns, List.cons_append],
            fun sign h => ?_, hsearch⟩
          rcases List.mem_cons.1 h with rfl | h
          · exact ⟨outcome, rfl⟩
          · exact hacks sign h

end Connection
end Doip
