import Doip.Connection.Stream
import Doip.Proofs.Frame.Chunking

/-! What a receiver makes of all that reaches it. It answers some frames itself and queues the others in
wire order while there is room (`dispatchAll_eq_absorb`), and only the bytes before the first end of the
stream count, in whatever pieces they are read (`arriveAll_spec`). -/

namespace Doip.Stream

variable {codec : Codec} {client : Address} {s : Stream}

/-- A frame that the receiver passes on to the caller. -/
def forwards (m : Message) : Bool :=
  match m.type with
  | .unknown _ => false
  | .aliveCheckRequest => false
  | _ => true

def answer (codec : Codec) (client : Address) (m : Message) : Bytes :=
  match m.type with
  | .unknown _ => codec.encodePayload (.genericNack unknownPayloadType)
  | .aliveCheckRequest => codec.encodePayload (.aliveCheckResponse client)
  | _ => []

/-- A stream whose receiver has handled some frames, in one go. -/
def absorb (codec : Codec) (client : Address) (s : Stream) (ms : List Message) : Stream :=
  { s with
    queue := (s.queue ++ ms.filter forwards).take queueDepth
    written := if s.broken then s.written else s.written ++ ms.flatMap (answer codec client) }

/-- A stream that its owner attends to: the queue keeps its bound, and while the receiver runs there is no
whole frame left in the buffer. -/
structure Kept (codec : Codec) (s : Stream) : Prop where
  attended : s.attended = true
  room : s.queue.length ≤ queueDepth
  cut : s.receiving = true → codec.splitFrame s.buffer = .ok none

theorem Kept.fresh (codec : Codec) : Kept codec {} := ⟨rfl, Nat.zero_le _, fun _ => rfl⟩

/-! Handling frames. -/

theorem forwards_eq_false_iff {m : Message} :
    forwards m = false ↔ (∃ raw, m.type = .unknown raw) ∨ m.type = .aliveCheckRequest := by
  unfold forwards
  cases m.type <;> simp

theorem dispatch_of_forwards {m : Message} (hf : forwards m = true) :
    s.dispatch codec client m =
      if !s.attended then { s with receiving := false }
      else if s.queue.length < queueDepth then { s with queue := s.queue ++ [m] }
      else s := by
  unfold forwards at hf
  unfold dispatch
  cases ht : m.type <;> simp_all

theorem dispatch_of_answers {m : Message} (hf : forwards m = false) :
    s.dispatch codec client m = s.write (answer codec client m) := by
  rcases forwards_eq_false_iff.1 hf with ⟨raw, ht⟩ | ht <;> simp only [dispatch, answer, ht]

theorem answer_of_forwards {m : Message} (hf : forwards m = true) : answer codec client m = [] := by
  unfold forwards at hf
  unfold answer
  cases ht : m.type <;> simp_all

theorem dispatch_eq_absorb (ha : s.attended = true) (hq : s.queue.length ≤ queueDepth) (m : Message) :
    s.dispatch codec client m = s.absorb codec client [m] := by
  obtain ⟨buffer, queue, receiving, attended, written, broken, shut⟩ := s
  cases hf : forwards m with
  | false =>
    have htake : queue.take queueDepth = queue := List.take_of_length_le hq
    rw [dispatch_of_answers hf]
    cases broken <;> simp [write, absorb, hf, htake]
  | true =>
    rw [dispatch_of_forwards hf]
    simp only at ha hq ⊢
    by_cases hlt : queue.length < queueDepth
    · have hone : (queue ++ [m]).take queueDepth = queue ++ [m] :=
        List.take_of_length_le (by rw [List.length_append]; exact hlt)
      simp [absorb, hf, ha, hlt, hone, answer_of_forwards hf]
    · have hfull : (queue ++ [m]).take queueDepth = queue := by
        rw [List.take_append_of_le_length (Nat.not_lt.1 hlt), List.take_of_length_le hq]
      simp [absorb, hf, ha, hlt, hfull, answer_of_forwards hf]

theorem take_append_take {α : Type} (n : Nat) (xs ys : List α) :
    (xs.take n ++ ys).take n = (xs ++ ys).take n := by
  rw [List.take_append, List.take_append, List.take_take, Nat.min_self, List.length_take]
  rcases Nat.le_total n xs.length with h | h
  · rw [Nat.min_eq_left h, Nat.sub_self, Nat.sub_eq_zero_of_le h]
  · rw [Nat.min_eq_right h]

theorem absorb_append (s : Stream) (ms ms' : List Message) :
    (s.absorb codec client ms).absorb codec client ms' = s.absorb codec client (ms ++ ms') := by
  simp only [absorb, List.filter_append, List.flatMap_append, take_append_take, List.append_assoc]
  by_cases hb : s.broken <;> simp [hb]

theorem dispatchAll_eq_absorb (codec : Codec) (client : Address) (hr : s.receiving = true)
    (ha : s.attended = true) (hq : s.queue.length ≤ queueDepth) (ms : List Message) :
    s.dispatchAll codec client ms = s.absorb codec client ms := by
  induction ms generalizing s with
  | nil => simp [dispatchAll, absorb, List.take_of_length_le hq]
  | cons m ms ih =>
    have hroom : (s.absorb codec client [m]).queue.length ≤ queueDepth := List.length_take_le _ _
    rw [dispatchAll, if_pos hr, dispatch_eq_absorb ha hq, ih (s := s.absorb codec client [m]) hr ha hroom,
      absorb_append]
    rfl

/-! One arrival. -/

theorem arrive_ended (hr : s.receiving = false) (a : Arrival) : s.arrive codec client a = (s, false) := by
  simp [arrive, hr]

/-- The stream that has handled what some bytes complete. -/
def digest (codec : Codec) (client : Address) (s : Stream) (bs : Bytes) : Stream :=
  let d := codec.drain (s.buffer ++ bs)
  { s with buffer := d.rest }.absorb codec client d.frames

/-- The answer to a broken header, behind which the receiver ends. -/
def reject (codec : Codec) (s : Stream) (e : FrameError) : Stream :=
  { s.write (codec.encodePayload (.genericNack (headerNackCode e))) with receiving := false }

theorem arrive_bytes (hs : s.Kept codec) (hr : s.receiving = true) (bs : Bytes) :
    s.arrive codec client (.bytes bs) =
      match (codec.drain (s.buffer ++ bs)).fault with
      | none => (s.digest codec client bs, false)
      | some e => ((s.digest codec client bs).reject codec e, true) := by
  have hd := dispatchAll_eq_absorb codec client (s := { s with buffer := (codec.drain (s.buffer ++ bs)).rest })
    hr hs.attended hs.room (codec.drain (s.buffer ++ bs)).frames
  have hrun : (s.digest codec client bs).receiving = true := hr
  unfold arrive
  rw [if_neg (by simp [hr])]
  simp only [hd]
  rw [show absorb codec client _ _ = s.digest codec client bs from rfl]
  cases (codec.drain (s.buffer ++ bs)).fault with
  | none => rfl
  | some e => exact if_pos hrun

theorem arrive_whole (hs : s.Kept codec) (hr : s.receiving = true) {bs : Bytes}
    (hf : (codec.drain (s.buffer ++ bs)).fault = none) :
    s.arrive codec client (.bytes bs) = (s.digest codec client bs, false) := by
  rw [arrive_bytes hs hr, hf]

theorem arrive_broken (hs : s.Kept codec) (hr : s.receiving = true) {bs : Bytes} {e : FrameError}
    (hf : (codec.drain (s.buffer ++ bs)).fault = some e) :
    s.arrive codec client (.bytes bs) = ((s.digest codec client bs).reject codec e, true) := by
  rw [arrive_bytes hs hr, hf]

theorem Kept.digest (hs : s.Kept codec) (client : Address) {bs : Bytes}
    (hf : (codec.drain (s.buffer ++ bs)).fault = none) : (s.digest codec client bs).Kept codec := by
  have hcut := codec.splitFrame_drain_rest (s.buffer ++ bs)
  rw [hf] at hcut
  exact ⟨hs.attended, List.length_take_le _ _, fun _ => hcut⟩

theorem digest_queue {bs : Bytes} (h : (s.queue ++ (codec.drain (s.buffer ++ bs)).frames.filter forwards).length ≤
    queueDepth) :
    (s.digest codec client bs).queue = s.queue ++ (codec.drain (s.buffer ++ bs)).frames.filter forwards :=
  List.take_of_length_le h

theorem write_queue (s : Stream) (frame : Bytes) : (s.write frame).queue = s.queue := by
  unfold write
  split <;> rfl

theorem write_receiving (s : Stream) (frame : Bytes) : (s.write frame).receiving = s.receiving := by
  unfold write
  split <;> rfl

theorem write_attended (s : Stream) (frame : Bytes) : (s.write frame).attended = s.attended := by
  unfold write
  split <;> rfl

theorem Kept.arrive (hs : s.Kept codec) (a : Arrival) : (s.arrive codec client a).1.Kept codec := by
  cases hr : s.receiving with
  | false => rwa [arrive_ended hr]
  | true =>
    cases a with
    | bytes bs =>
      cases hf : (codec.drain (s.buffer ++ bs)).fault with
      | none =>
        rw [arrive_whole hs hr hf]
        exact hs.digest client hf
      | some e =>
        rw [arrive_broken hs hr hf]
        refine ⟨(write_attended _ _).trans hs.attended, ?_, fun h => by cases h⟩
        rw [reject, write_queue]
        exact List.length_take_le _ _
    | endOfStream => simpa [Stream.arrive, hr] using ⟨hs.attended, hs.room, fun h => by cases h⟩
    | failure => simpa [Stream.arrive, hr] using ⟨hs.attended, hs.room, fun h => by cases h⟩

/-! A receiver takes nothing away. -/

/-- A later state of a stream to which only its receiver has attended. -/
structure Adds (s s' : Stream) : Prop where
  queue : s.queue <+: s'.queue
  written : s.written <+: s'.written

theorem Adds.refl (s : Stream) : Adds s s := ⟨List.prefix_rfl, List.prefix_rfl⟩

theorem Adds.trans {s' s'' : Stream} (h : Adds s s') (h' : Adds s' s'') : Adds s s'' :=
  ⟨h.queue.trans h'.queue, h.written.trans h'.written⟩

theorem write_adds (s : Stream) (frame : Bytes) : Adds s (s.write frame) := by
  unfold write
  split
  · exact .refl s
  · exact ⟨List.prefix_rfl, List.prefix_append _ _⟩

theorem dispatch_adds (s : Stream) (m : Message) : Adds s (s.dispatch codec client m) := by
  cases hf : forwards m with
  | false =>
    rw [dispatch_of_answers hf]
    exact s.write_adds _
  | true =>
    rw [dispatch_of_forwards hf]
    split_ifs
    · exact ⟨List.prefix_rfl, List.prefix_rfl⟩
    · exact ⟨List.prefix_append _ _, List.prefix_rfl⟩
    · exact .refl s

theorem dispatchAll_adds (s : Stream) (ms : List Message) : Adds s (s.dispatchAll codec client ms) := by
  induction ms generalizing s with
  | nil => exact .refl s
  | cons m ms ih =>
    rw [dispatchAll]
    split
    · exact (s.dispatch_adds m).trans (ih _)
    · exact .refl s

theorem arrive_adds (s : Stream) (a : Arrival) : Adds s (s.arrive codec client a).1 := by
  unfold arrive
  split
  · exact .refl s
  · cases a with
    | endOfStream => exact ⟨List.prefix_rfl, List.prefix_rfl⟩
    | failure => exact ⟨List.prefix_rfl, List.prefix_rfl⟩
    | bytes bs =>
      have hall : Adds s (dispatchAll codec client { s with buffer := (codec.drain (s.buffer ++ bs)).rest }
          (codec.drain (s.buffer ++ bs)).frames) :=
        have h := dispatchAll_adds { s with buffer := (codec.drain (s.buffer ++ bs)).rest } _
        ⟨h.queue, h.written⟩
      simp only
      split
      · exact hall
      · split
        · exact hall.trans ⟨(write_adds _ _).queue, (write_adds _ _).written⟩
        · exact hall

/-! Many arrivals. -/

/-- What several arrivals make of a stream, and whether the receiver took one of them for the loss of the
connection. -/
def arriveAll (codec : Codec) (client : Address) : Stream → List Arrival → Stream × Bool
  | s, [] => (s, false)
  | s, a :: as =>
    let (s, lost) := s.arrive codec client a
    let (s, later) := arriveAll codec client s as
    (s, lost || later)

end Doip.Stream

namespace Doip

/-- The bytes before the first end of the stream. -/
def Arrival.bytesOf : List Arrival → Bytes
  | .bytes bs :: as => bs ++ bytesOf as
  | _ => []

/-- Whether the stream ends, by its end or by a failure. -/
def Arrival.endsIn : List Arrival → Bool
  | [] => false
  | .bytes _ :: as => endsIn as
  | _ :: _ => true

namespace Stream

variable {codec : Codec} {client : Address} {s : Stream}

theorem arriveAll_ended (hr : s.receiving = false) (as : List Arrival) :
    arriveAll codec client s as = (s, false) := by
  induction as with
  | nil => rfl
  | cons a as ih => simp [arriveAll, arrive_ended hr, ih]

/-- However the bytes are cut, the queue is what it was and the frames passed on among all bytes before the
end, as far as there is room; and the connection is lost exactly when the stream ends or a header is broken. -/
theorem arriveAll_spec (hs : s.Kept codec) (hr : s.receiving = true) (client : Address) (as : List Arrival) :
    let d := codec.drain (s.buffer ++ Arrival.bytesOf as)
    (arriveAll codec client s as).1.queue = (s.queue ++ d.frames.filter forwards).take queueDepth ∧
      (arriveAll codec client s as).2 = (d.fault.isSome || Arrival.endsIn as) ∧
      (arriveAll codec client s as).1.receiving = !(arriveAll codec client s as).2 := by
  induction as generalizing s with
  | nil =>
    have hd := Codec.drain_of_none (hs.cut hr)
    simp [arriveAll, Arrival.bytesOf, Arrival.endsIn, hd, hr, List.take_of_length_le hs.room]
  | cons a as ih =>
    cases a with
    | bytes bs =>
      -- draining all bytes at once is draining these and then the rest of them
      have happ := codec.drain_append (s.buffer ++ bs) (Arrival.bytesOf as)
      rw [List.append_assoc] at happ
      simp only [Arrival.bytesOf, Arrival.endsIn, happ, Codec.Drained.andThen, List.filter_append]
      cases hf : (codec.drain (s.buffer ++ bs)).fault with
      | none =>
        obtain ⟨hq, hl, hrec⟩ := ih (hs.digest client hf) hr
        simp only [arriveAll, arrive_whole hs hr hf, Bool.false_or]
        refine ⟨hq.trans ?_, hl, hrec⟩
        rw [← List.append_assoc]
        exact take_append_take _ _ _
      | some e =>
        have hend : ((s.digest codec client bs).reject codec e).receiving = false := rfl
        simp only [arriveAll, arrive_broken hs hr hf, arriveAll_ended hend, Codec.drain_after_fault hf]
        simp [reject, write_queue, digest, absorb]
    | endOfStream =>
      have hd := Codec.drain_of_none (hs.cut hr)
      simp [arriveAll, arrive, hr, Arrival.bytesOf, Arrival.endsIn, hd, List.take_of_length_le hs.room,
        arriveAll_ended (s := { s with receiving := false }) rfl]
    | failure =>
      have hd := Codec.drain_of_none (hs.cut hr)
      simp [arriveAll, arrive, hr, Arrival.bytesOf, Arrival.endsIn, hd, List.take_of_length_le hs.room,
        arriveAll_ended (s := { s with receiving := false, broken := true }) rfl]

/-! One arrival on a stream with nothing else under way. -/

/-- A stream that its owner attends to, with nothing read and nothing waiting on it. -/
structure Clear (s : Stream) : Prop where
  buffer : s.buffer = []
  queue : s.queue = []
  receiving : s.receiving = true
  attended : s.attended = true
  whole : s.broken = false

namespace Clear

theorem kept (h : Clear s) (codec : Codec) : s.Kept codec := by
  refine ⟨h.attended, ?_, fun _ => ?_⟩
  · rw [h.queue]
    exact Nat.zero_le _
  · rw [h.buffer]
    rfl

theorem arrive_frames (h : Clear s) {ms : List Message} (hms : ∀ m ∈ ms, codec.Admits m) (client : Address) :
    s.arrive codec client (.bytes (ms.flatMap Message.toBytes)) =
      ({ s with
        queue := (ms.filter forwards).take queueDepth
        written := s.written ++ ms.flatMap (answer codec client) }, false) := by
  have hdrain : codec.drain (s.buffer ++ ms.flatMap Message.toBytes) = { frames := ms } := by
    rw [h.buffer, List.nil_append, Codec.drain_frames hms]
  rw [arrive_whole (h.kept _) h.receiving (by rw [hdrain]), digest, hdrain]
  obtain ⟨buffer, queue, receiving, attended, written, broken, shut⟩ := s
  obtain ⟨rfl, rfl, rfl, rfl, rfl⟩ := h
  simp [absorb]

theorem arrive_all (h : Clear s) {ms : List Message} (hms : ∀ m ∈ ms, codec.Admits m)
    (hroom : (ms.filter forwards).length ≤ queueDepth) (client : Address) :
    s.arrive codec client (.bytes (ms.flatMap Message.toBytes)) =
      ({ s with queue := ms.filter forwards, written := s.written ++ ms.flatMap (answer codec client) }, false) := by
  rw [h.arrive_frames hms, List.take_of_length_le hroom]

theorem arrive_oversized (h : Clear s) {v : UInt8} {t : PayloadType} {p : Bytes} (hle : p.length ≤ maxDeclaredLength)
    (hlarge : codec.limit.toNat < p.length) (client : Address) (rest : Bytes) :
    s.arrive codec client (.bytes ((Message.of v t p).toBytes ++ rest)) =
      ({ s with
        buffer := (Message.of v t p).toBytes ++ rest
        written := s.written ++ codec.encodePayload (.genericNack messageTooLarge)
        receiving := false }, true) := by
  have hdrain := Codec.drain_oversized (v := v) (t := t) hle hlarge rest
  have hbuffer : s.buffer ++ ((Message.of v t p).toBytes ++ rest) = (Message.of v t p).toBytes ++ rest := by
    rw [h.buffer, List.nil_append]
  rw [arrive_broken (h.kept _) h.receiving (by rw [hbuffer, hdrain]), digest, hbuffer, hdrain]
  obtain ⟨buffer, queue, receiving, attended, written, broken, shut⟩ := s
  obtain ⟨rfl, rfl, rfl, rfl, rfl⟩ := h
  simp [absorb, reject, write, headerNackCode]

end Clear
end Stream
end Doip
