import Doip.Proofs.Connection.Wait

/-! What a receiver answers is a function of the bytes it reads. However they are cut into reads, whatever the
caller takes out of the queue or writes in between and however full the queue is, the receiver writes the
answers to the frames in wire order, and behind them one negative acknowledgement if a header is broken. That
header, or the end of the stream, is the only thing that faults the connection (`replies_of_bytes`). -/

namespace Doip

namespace Codec

variable {c : Codec} {buf : Bytes} {e : FrameError}

/-- A whole header whose second byte is not the complement of the first, or which declares more than the
limit. -/
def broken (c : Codec) : Bytes → Bool
  | v :: i :: _ :: _ :: l₃ :: l₂ :: l₁ :: l₀ :: _ =>
    decide (i ≠ ~~~v) || decide (c.limit.toNat < ofBE [l₃, l₂, l₁, l₀])
  | _ => false

/-- The code of the negative acknowledgement for a broken header: too large a payload, unless the second byte is
wrong as well. -/
def refusal (c : Codec) : Bytes → UInt8
  | v :: i :: _ :: _ :: l₃ :: l₂ :: l₁ :: l₀ :: _ =>
    if i = ~~~v ∧ c.limit.toNat < ofBE [l₃, l₂, l₁, l₀] then 0x02 else 0x00
  | _ => 0x00

theorem broken_short (hl : buf.length < headerLength) : c.broken buf = false := by
  unfold broken
  split
  · simp only [headerLength, List.length_cons] at hl
    omega
  · rfl

theorem broken_of_splitFrame_error (hs : c.splitFrame buf = .error e) :
    c.broken buf = true ∧ Stream.headerNackCode e = c.refusal buf := by
  obtain ⟨hl, hd⟩ := splitFrame_eq_error_iff.1 hs
  obtain ⟨v, i, t₁, t₀, l₃, l₂, l₁, l₀, tail, rfl⟩ := exists_header_bytes hl
  simp only [decodeHeader] at hd
  split_ifs at hd with hv hlen
  · cases hd
    simp [broken, refusal, hv, Stream.headerNackCode, incorrectPatternFormat]
  · cases hd
    simp [broken, refusal, not_not.1 hv, hlen, Stream.headerNackCode, messageTooLarge]

theorem not_broken_of_splitFrame_ok {r : Option (Message × Bytes)} (hs : c.splitFrame buf = .ok r) :
    c.broken buf = false := by
  rcases Nat.lt_or_ge buf.length headerLength with hl | hl
  · exact broken_short hl
  · obtain ⟨v, i, t₁, t₀, l₃, l₂, l₁, l₀, tail, rfl⟩ := exists_header_bytes hl
    by_cases hv : i = ~~~v
    · by_cases hlen : c.limit.toNat < ofBE [l₃, l₂, l₁, l₀]
      · simp [splitFrame, decodeHeader, hv, hlen] at hs
      · simp [broken, hv, hlen]
    · simp [splitFrame, decodeHeader, hv] at hs

end Codec

/-- What happens to a connection on whose stream the receiver and the caller are at work. -/
inductive Handling
  | read (arrival : Arrival)
  /-- The caller takes frames from the front of the queue. -/
  | take (count : Nat)
  /-- The caller writes a frame of its own. -/
  | write (frame : Bytes)

def Handling.reads : List Handling → List Arrival
  | [] => []
  | .read a :: hs => a :: reads hs
  | _ :: hs => reads hs

namespace Connection

def handle (c : Connection) : Handling → Connection
  | .read a => c.arrive a
  | .take count => { c with stream := c.stream.map fun s => { s with queue := s.queue.drop count } }
  | .write frame => (c.write? frame).getD c

def handleAll (c : Connection) (hs : List Handling) : Connection := hs.foldl handle c

def written (c : Connection) : Bytes := (c.stream.map (·.written)).getD []

def replies : Connection → List Handling → Bytes
  | _, [] => []
  | c, .read a :: hs => (c.arrive a).written.drop c.written.length ++ replies (c.arrive a) hs
  | c, h :: hs => replies (c.handle h) hs

def forwarded : Connection → List Handling → List Message
  | _, [] => []
  | c, .read a :: hs => (c.arrive a).pending.drop c.pending.length ++ forwarded (c.arrive a) hs
  | c, h :: hs => forwarded (c.handle h) hs

/-- The answer to one frame: an alive check gives the client's address, an unassigned type is refused. -/
def reply (codec : Codec) (client : Address) (m : Message) : Bytes :=
  if m.type = .aliveCheckRequest then codec.encodePayload (.aliveCheckResponse client)
  else if m.type.isKnown then []
  else codec.encodePayload (.genericNack 0x01)

theorem answer_eq_reply (codec : Codec) (client : Address) : Stream.answer codec client = reply codec client := by
  funext m
  unfold Stream.answer reply
  cases m.type <;> rfl

/-- The answer to what draining leaves behind: one negative acknowledgement if that starts with a broken header. -/
def rejection (codec : Codec) (rest : Bytes) : Bytes :=
  if codec.broken rest then codec.encodePayload (.genericNack (codec.refusal rest)) else []

theorem rejection_of_fault {codec : Codec} {rest : Bytes} {e : FrameError} (hs : codec.splitFrame rest = .error e) :
    rejection codec rest = codec.encodePayload (.genericNack (Stream.headerNackCode e)) := by
  obtain ⟨hb, hcode⟩ := Codec.broken_of_splitFrame_error hs
  rw [rejection, if_pos hb, hcode]

theorem rejection_of_whole {codec : Codec} {rest : Bytes} (hb : codec.broken rest = false) :
    rejection codec rest = [] := by
  rw [rejection, if_neg (by rw [hb]; decide)]

variable {c : Connection} {s : Stream}

theorem arrive_of_stream (hc : c.stream = some s) (a : Arrival) :
    c.arrive a =
      { c with
        stream := some (s.arrive c.settings.codec c.settings.client a).1
        state := if (s.arrive c.settings.codec c.settings.client a).2 && !c.closed then .faulted else c.state } := by
  simp only [arrive, hc]

/-! A receiver that has ended. -/

theorem arrive_ended (hc : c.stream = some s) (hr : s.receiving = false) (a : Arrival) : c.arrive a = c := by
  rw [arrive_of_stream hc, Stream.arrive_ended hr]
  obtain ⟨⟩ := c
  simpa using hc.symm

theorem handle_own (hc : c.stream = some s) {h : Handling} (hh : ∀ a, h ≠ .read a) :
    ∃ s', c.handle h = { c with stream := some s' } ∧ s'.receiving = s.receiving ∧ s'.buffer = s.buffer ∧
      s'.broken = s.broken ∧ s'.attended = s.attended ∧ s'.queue.length ≤ s.queue.length := by
  cases h with
  | read a => exact absurd rfl (hh a)
  | take count => exact ⟨{ s with queue := s.queue.drop count }, by simp [handle, hc], rfl, rfl, rfl, rfl, by simp⟩
  | write frame =>
    cases hb : s.broken with
    | true =>
      refine ⟨s, ?_, rfl, rfl, hb, rfl, Nat.le_refl _⟩
      obtain ⟨⟩ := c
      simp_all [handle, write?]
    | false => exact ⟨{ s with written := s.written ++ frame }, by simp [handle, write?, hc, hb, Stream.write],
        rfl, rfl, hb, rfl, Nat.le_refl _⟩

theorem handleAll_ended (hc : c.stream = some s) (hr : s.receiving = false) (hs : List Handling) :
    c.replies hs = [] ∧ c.forwarded hs = [] ∧ (c.handleAll hs).state = c.state ∧
      ∀ a, (c.handleAll hs).arrive a = c.handleAll hs := by
  induction hs generalizing c s with
  | nil => exact ⟨rfl, rfl, rfl, arrive_ended hc hr⟩
  | cons h hs ih =>
    by_cases hh : ∀ a, h ≠ .read a
    · obtain ⟨s', he, hr', -⟩ := handle_own hc hh
      have hrest := ih (c := c.handle h) (s := s') (by rw [he]) (hr'.trans hr)
      have hstate : (c.handle h).state = c.state := by rw [he]
      rw [hstate] at hrest
      cases h with
      | read a => exact absurd rfl (hh a)
      | take count => exact hrest
      | write frame => exact hrest
    · obtain ⟨a, rfl⟩ : ∃ a, h = .read a := by simpa using hh
      have hsame := arrive_ended hc hr a
      obtain ⟨h₁, h₂, h₃, h₄⟩ := ih hc hr
      refine ⟨?_, ?_, ?_, ?_⟩
      · simp [replies, hsame, h₁]
      · simp [forwarded, hsame, h₂]
      · simpa only [handleAll, List.foldl_cons, handle, hsame] using h₃
      · simpa only [handleAll, List.foldl_cons, handle, hsame] using h₄

/-! A receiver at work. -/

/-- The receiver reads on a connection that is open, from a stream that takes bytes. -/
structure Reading (c : Connection) (s : Stream) : Prop where
  stream : c.stream = some s
  kept : s.Kept c.settings.codec
  receiving : s.receiving = true
  whole : s.broken = false
  opened : c.closed = false

theorem Reading.adopt (hopen : c.closed = false) : Reading c.adopt {} :=
  ⟨rfl, Stream.Kept.fresh _, rfl, rfl, hopen⟩

theorem Reading.own (h : Reading c s) {hd : Handling} (hh : ∀ a, hd ≠ .read a) :
    ∃ s', c.handle hd = { c with stream := some s' } ∧ Reading (c.handle hd) s' ∧ s'.buffer = s.buffer := by
  obtain ⟨s', he, hr, hb, hbr, ha, hq⟩ := handle_own h.stream hh
  refine ⟨s', he, ?_, hb⟩
  rw [he]
  refine ⟨rfl, ⟨ha.trans h.kept.attended, Nat.le_trans hq h.kept.room, fun _ => ?_⟩, hr.trans h.receiving,
    hbr.trans h.whole, h.opened⟩
  rw [hb]
  exact h.kept.cut h.receiving

theorem Reading.arrive_whole (h : Reading c s) {bs : Bytes}
    (hf : (c.settings.codec.drain (s.buffer ++ bs)).fault = none) :
    c.arrive (.bytes bs) = { c with stream := some (s.digest c.settings.codec c.settings.client bs) } ∧
      Reading (c.arrive (.bytes bs)) (s.digest c.settings.codec c.settings.client bs) := by
  have he : c.arrive (.bytes bs) = { c with stream := some (s.digest c.settings.codec c.settings.client bs) } := by
    rw [arrive_of_stream h.stream, Stream.arrive_whole h.kept h.receiving hf]
    rfl
  rw [he]
  exact ⟨rfl, rfl, h.kept.digest _ hf, h.receiving, h.whole, h.opened⟩

theorem Reading.arrive_broken (h : Reading c s) {bs : Bytes} {e : FrameError}
    (hf : (c.settings.codec.drain (s.buffer ++ bs)).fault = some e) :
    c.arrive (.bytes bs) =
      { c with
        stream := some ((s.digest c.settings.codec c.settings.client bs).reject c.settings.codec e)
        state := .faulted } := by
  rw [arrive_of_stream h.stream, Stream.arrive_broken h.kept h.receiving hf, h.opened]
  rfl

theorem Reading.arrive_end (h : Reading c s) {a : Arrival} (ha : ∀ bs, a ≠ .bytes bs) :
    ∃ s', c.arrive a = { c with stream := some s', state := .faulted } ∧ s'.receiving = false ∧
      s'.written = s.written ∧ s'.queue = s.queue := by
  rw [arrive_of_stream h.stream]
  cases a with
  | bytes bs => exact absurd rfl (ha bs)
  | endOfStream =>
    exact ⟨{ s with receiving := false }, by simp [Stream.arrive, h.receiving, h.opened], rfl, rfl, rfl⟩
  | failure =>
    exact ⟨{ s with receiving := false, broken := true }, by simp [Stream.arrive, h.receiving, h.opened],
      rfl, rfl, rfl⟩

theorem Reading.digest_written (h : Reading c s) (codec : Codec) (client : Address) (bs : Bytes) :
    (s.digest codec client bs).written =
      s.written ++ (codec.drain (s.buffer ++ bs)).frames.flatMap (reply codec client) := by
  simp [Stream.digest, Stream.absorb, h.whole, answer_eq_reply]

theorem digest_queue_sublist (s : Stream) (codec : Codec) (client : Address) (bs : Bytes) :
    ((s.digest codec client bs).queue.drop s.queue.length).Sublist
      ((codec.drain (s.buffer ++ bs)).frames.filter Stream.forwards) := by
  rw [Stream.digest, Stream.absorb, List.drop_take, List.drop_left]
  exact List.take_sublist _ _

theorem Reading.reject_written (h : Reading c s) (codec : Codec) (client : Address) (bs : Bytes) (e : FrameError) :
    ((s.digest codec client bs).reject codec e).written =
      s.written ++ ((codec.drain (s.buffer ++ bs)).frames.flatMap (reply codec client) ++
        codec.encodePayload (.genericNack (Stream.headerNackCode e))) := by
  have hb : (s.digest codec client bs).broken = false := h.whole
  simp [Stream.reject, Stream.write, hb, h.digest_written]

/-- What reads and the caller's own steps come to, by the bytes that are read. -/
structure Answered (c : Connection) (hs : List Handling) (d : Codec.Drained) : Prop where
  replies : c.replies hs =
    d.frames.flatMap (reply c.settings.codec c.settings.client) ++ rejection c.settings.codec d.rest
  forwarded : (c.forwarded hs).Sublist (d.frames.filter Stream.forwards)
  state : (c.handleAll hs).state =
    if c.settings.codec.broken d.rest || Arrival.endsIn (Handling.reads hs) then .faulted else c.state
  last : (c.settings.codec.broken d.rest || Arrival.endsIn (Handling.reads hs)) = true →
    ∀ a, (c.handleAll hs).arrive a = c.handleAll hs

theorem Reading.ends (h : Reading c s) {a : Arrival} {s' : Stream} {d : Codec.Drained}
    (he : c.arrive a = { c with stream := some s', state := .faulted }) (hr : s'.receiving = false)
    (hw : s'.written = s.written ++ (d.frames.flatMap (reply c.settings.codec c.settings.client) ++
      rejection c.settings.codec d.rest))
    (hq : (s'.queue.drop s.queue.length).Sublist (d.frames.filter Stream.forwards)) {hs : List Handling}
    (hend : (c.settings.codec.broken d.rest || Arrival.endsIn (Handling.reads (.read a :: hs))) = true) :
    Answered c (.read a :: hs) d := by
  obtain ⟨h₁, h₂, h₃, h₄⟩ := handleAll_ended (c := c.arrive a) (s := s') (by rw [he]) hr hs
  have hstate : (c.arrive a).state = .faulted := by rw [he]
  refine ⟨?_, ?_, ?_, fun _ => h₄⟩
  · rw [Connection.replies, h₁, List.append_nil, he]
    simp [written, h.stream, hw]
  · rw [Connection.forwarded, h₂, List.append_nil, he]
    simpa [pending, h.stream] using hq
  · rw [if_pos hend]
    exact h₃.trans hstate

theorem Reading.answered_nil (h : Reading c s) : Answered c [] (c.settings.codec.drain s.buffer) := by
  have hcut := h.kept.cut h.receiving
  have hwhole := Codec.not_broken_of_splitFrame_ok hcut
  rw [Codec.drain_of_none hcut]
  refine ⟨?_, List.Sublist.refl _, ?_, fun hend => ?_⟩
  · rw [rejection_of_whole hwhole]
    rfl
  · rw [hwhole]
    rfl
  · rw [hwhole] at hend
    cases hend

theorem Reading.answered_end (h : Reading c s) {a : Arrival} (ha : ∀ bs, a ≠ .bytes bs) (hs : List Handling) :
    Answered c (.read a :: hs) (c.settings.codec.drain s.buffer) := by
  have hcut := h.kept.cut h.receiving
  have hwhole := Codec.not_broken_of_splitFrame_ok hcut
  obtain ⟨s', he, hr, hw, hq⟩ := h.arrive_end ha
  rw [Codec.drain_of_none hcut]
  refine h.ends he hr ?_ ?_ ?_
  · rw [hw, rejection_of_whole hwhole]
    exact (List.append_nil _).symm
  · rw [hq, List.drop_length]
    exact List.nil_sublist _
  · cases a with
    | bytes bs => exact absurd rfl (ha bs)
    | endOfStream => exact Bool.or_true _
    | failure => exact Bool.or_true _

theorem Reading.answered (h : Reading c s) (hs : List Handling) :
    Answered c hs (c.settings.codec.drain (s.buffer ++ Arrival.bytesOf (Handling.reads hs))) := by
  induction hs generalizing c s with
  | nil => simpa [Handling.reads, Arrival.bytesOf] using h.answered_nil
  | cons hd hs ih =>
    by_cases hown : ∀ a, hd ≠ .read a
    · obtain ⟨s', he, hreading, hb⟩ := h.own hown
      have hset : (c.handle hd).settings = c.settings := by rw [he]
      have hst : (c.handle hd).state = c.state := by rw [he]
      obtain ⟨h₁, h₂, h₃, h₄⟩ := ih hreading
      rw [hset, hb] at h₁ h₂ h₃ h₄
      rw [hst] at h₃
      cases hd with
      | read a => exact absurd rfl (hown a)
      | take count => exact ⟨h₁, h₂, h₃, h₄⟩
      | write frame => exact ⟨h₁, h₂, h₃, h₄⟩
    · obtain ⟨a, rfl⟩ : ∃ a, hd = .read a := by simpa using hown
      cases a with
      | endOfStream => simpa [Handling.reads, Arrival.bytesOf] using h.answered_end (by simp) hs
      | failure => simpa [Handling.reads, Arrival.bytesOf] using h.answered_end (by simp) hs
      | bytes bs =>
        have happ := c.settings.codec.drain_append (s.buffer ++ bs) (Arrival.bytesOf (Handling.reads hs))
        rw [List.append_assoc] at happ
        rw [Handling.reads, Arrival.bytesOf, happ]
        cases hf : (c.settings.codec.drain (s.buffer ++ bs)).fault with
        | some e =>
          -- the receiver ends here: what is read later only lies behind the broken header
          have hsplit := c.settings.codec.splitFrame_drain_rest (s.buffer ++ bs)
          rw [hf] at hsplit
          have hlater : c.settings.codec.splitFrame ((c.settings.codec.drain (s.buffer ++ bs)).rest ++
              Arrival.bytesOf (Handling.reads hs)) = .error e := Codec.splitFrame_error_append hsplit
          rw [Codec.drain_after_fault hf, Codec.Drained.andThen, List.append_nil]
          refine h.ends (h.arrive_broken hf) rfl ?_ ?_ ?_
          · rw [h.reject_written, rejection_of_fault hlater]
          · rw [Stream.reject, Stream.write_queue]
            exact digest_queue_sublist _ _ _ _
          · rw [(Codec.broken_of_splitFrame_error hlater).1, Bool.true_or]
        | none =>
          obtain ⟨he, hreading⟩ := h.arrive_whole hf
          have hset : (c.arrive (.bytes bs)).settings = c.settings := by rw [he]
          have hst : (c.arrive (.bytes bs)).state = c.state := by rw [he]
          have hbuf : (s.digest c.settings.codec c.settings.client bs).buffer =
              (c.settings.codec.drain (s.buffer ++ bs)).rest := rfl
          obtain ⟨h₁, h₂, h₃, h₄⟩ := ih hreading
          rw [hset, hbuf] at h₁ h₂ h₃ h₄
          rw [hst] at h₃
          refine ⟨?_, ?_, h₃, h₄⟩
          · rw [replies, h₁, Codec.Drained.andThen, List.flatMap_append, List.append_assoc]
            congr 1
            rw [he]
            simp [written, h.stream, h.digest_written]
          · rw [forwarded, Codec.Drained.andThen, List.filter_append]
            refine List.Sublist.append ?_ h₂
            rw [he]
            simp only [pending, h.stream, Option.map_some, Option.getD_some]
            exact digest_queue_sublist _ _ _ _

theorem handleAll_written (c : Connection) {hs : List Handling} (hown : ∀ frame, .write frame ∉ hs) :
    (c.handleAll hs).written = c.written ++ c.replies hs := by
  induction hs generalizing c with
  | nil => exact (List.append_nil _).symm
  | cons h hs ih =>
    have hrest := ih (c.handle h) fun frame hm => hown frame (List.mem_cons_of_mem _ hm)
    cases h with
    | read a =>
      have hpre : c.written <+: (c.arrive a).written := by
        unfold arrive written
        cases hc : c.stream with
        | none => simp
        | some s => exact (Stream.arrive_adds s a).written
      rw [replies, ← List.append_assoc, List.prefix_iff_eq_append.1 hpre]
      exact hrest
    | take count =>
      have hsame : (c.handle (.take count)).written = c.written := by
        unfold handle written
        cases c.stream <;> rfl
      rw [hsame] at hrest
      exact hrest
    | write frame => exact absurd List.mem_cons_self (hown frame)

/-- However the bytes of a stream are cut into reads, and whatever the caller takes and writes in between, the
receiver answers the frames before the first broken header in wire order and that header once, passes on some of
the frames for the caller in their order, and faults the connection at that header or at the end of the stream
and not before. Behind that it handles nothing. -/
theorem replies_of_bytes {c : Connection} (hopen : c.closed = false) (hs : List Handling) :
    let codec := c.settings.codec
    let d := codec.drain (Arrival.bytesOf (Handling.reads hs))
    let ends := codec.broken d.rest || Arrival.endsIn (Handling.reads hs)
    c.adopt.replies hs = d.frames.flatMap (reply codec c.settings.client) ++ rejection codec d.rest ∧
    ((∀ frame, .write frame ∉ hs) → (c.adopt.handleAll hs).written = c.adopt.replies hs) ∧
    (c.adopt.forwarded hs).Sublist (d.frames.filter Stream.forwards) ∧
    (c.adopt.handleAll hs).state = (if ends then .faulted else c.state) ∧
    (ends = true → ∀ a, (c.adopt.handleAll hs).arrive a = c.adopt.handleAll hs) := by
  have h := (Reading.adopt hopen).answered hs
  exact ⟨h.replies, fun hown => handleAll_written c.adopt hown, h.forwarded, h.state, h.last⟩

def begun : Connection :=
  Connection.beginConnect
    { settings := ⟨1, .default, 1000, 1000, {}⟩, server := 0xfa25 }

def twiceBroken : Bytes := [2, 2, 0x80, 1, 0, 1, 0, 0]

/-- An alive check with a body that comes in two pieces, an unassigned type, and a header broken in two ways. -/
def probes : List Handling :=
  let check := Message.of 2 .aliveCheckRequest [0xaa]
  let odd := Message.of 2 (.unknown 0x1234) []
  [.read (.bytes (check.toBytes.take 5)), .take 3,
    .read (.bytes (check.toBytes.drop 5 ++ odd.toBytes ++ twiceBroken)), .read .endOfStream]

theorem drain_probes :
    begun.settings.codec.drain (Arrival.bytesOf (Handling.reads probes)) =
      { frames := [Message.of 2 .aliveCheckRequest [0xaa], Message.of 2 (.unknown 0x1234) []]
        fault := some (.invalidVersion 2 2)
        rest := twiceBroken } := by
  have hcheck : begun.settings.codec.Admits (Message.of 2 .aliveCheckRequest [0xaa]) := ⟨rfl, rfl, by decide⟩
  have hodd : begun.settings.codec.Admits (Message.of 2 (.unknown 0x1234) []) := ⟨rfl, rfl, by decide⟩
  have hbroken : begun.settings.codec.splitFrame twiceBroken = .error (.invalidVersion 2 2) := rfl
  have hbytes : Arrival.bytesOf (Handling.reads probes) =
      (Message.of 2 .aliveCheckRequest [0xaa]).toBytes ++
        ((Message.of 2 (.unknown 0x1234) []).toBytes ++ twiceBroken) := rfl
  rw [hbytes, Codec.drain_toBytes hcheck, Codec.drain_toBytes hodd, Codec.drain_of_error hbroken]

/-- Two frames and a broken header are answered, the header with the code for a wrong second byte, and the connection is
faulted. -/
theorem replies_to_probes :
    begun.closed = false ∧
    begun.adopt.replies probes =
      [2, 253, 0, 8, 0, 0, 0, 2, 0, 1] ++ [2, 253, 0, 0, 0, 0, 0, 1, 1] ++ [2, 253, 0, 0, 0, 0, 0, 1, 0] ∧
    (begun.adopt.handleAll probes).state = .faulted := by
  have h := replies_of_bytes (c := begun) rfl probes
  simp only [drain_probes] at h
  obtain ⟨hreplies, -, -, hstate, -⟩ := h
  exact ⟨rfl, hreplies.trans (by decide), hstate.trans rfl⟩

/-- A header that declares more than the limit is not always refused as too large. -/
theorem oversized_refused_as_inconsistent :
    begun.settings.codec.limit.toNat < ofBE [0, 1, 0, 0] ∧
    begun.adopt.replies [.read (.bytes twiceBroken)] = begun.settings.codec.encodePayload (.genericNack 0x00) ∧
    begun.adopt.replies [.read (.bytes twiceBroken)] ≠ begun.settings.codec.encodePayload (.genericNack 0x02) := by
  have hbroken : begun.settings.codec.splitFrame twiceBroken = .error (.invalidVersion 2 2) := rfl
  have h := ((Reading.adopt (c := begun) rfl).answered [.read (.bytes twiceBroken)]).replies
  have hd : begun.settings.codec.drain twiceBroken = { fault := some (.invalidVersion 2 2), rest := twiceBroken } :=
    Codec.drain_of_error hbroken
  have hreplies : begun.adopt.replies [.read (.bytes twiceBroken)] =
      begun.settings.codec.encodePayload (.genericNack 0x00) := by
    refine h.trans ?_
    have hbytes : ([] : Bytes) ++ Arrival.bytesOf (Handling.reads [.read (.bytes twiceBroken)]) = twiceBroken := rfl
    rw [hbytes, show begun.adopt.settings = begun.settings from rfl, hd]
    rfl
  refine ⟨by decide, hreplies, ?_⟩
  rw [hreplies]
  decide

end Connection
end Doip
