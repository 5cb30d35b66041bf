import Doip.Proofs.Frame.Decode

/-! How a byte stream is cut into chunks does not matter. What has come off a buffer still comes off when
more bytes stand behind it, and a broken header stays broken (`drain_append`), so draining chunk by chunk
gives the frames, the fault and the rest of draining all bytes at once. Nothing is lost on the way. -/

namespace Doip.Codec

variable {c : Codec} {buf more rest : Bytes} {m : Message} {e : FrameError}

/-! One frame. -/

theorem splitFrame_append (hs : c.splitFrame buf = .ok (some (m, rest))) :
    c.splitFrame (buf ++ more) = .ok (some (m, rest ++ more)) := by
  obtain ⟨hm, rfl⟩ := splitFrame_eq_some_iff.1 hs
  exact splitFrame_eq_some_iff.2 ⟨hm, List.append_assoc _ _ _⟩

theorem splitFrame_eq_error_iff :
    c.splitFrame buf = .error e ↔ headerLength ≤ buf.length ∧ c.decodeHeader buf = .error e := by
  constructor
  · intro hs
    rcases Nat.lt_or_ge buf.length headerLength with hl | hl
    · simp [splitFrame, decodeHeader_short hl] at hs
    · cases hd : c.decodeHeader buf with
      | error e' =>
        rcases splitFrame_of_error hd with hn | he
        · rw [hn] at hs
          cases hs
        · rw [he] at hs
          cases hs
          exact ⟨hl, rfl⟩
      | ok h =>
        simp only [splitFrame, hd] at hs
        split at hs <;> cases hs
  · rintro ⟨hl, hd⟩
    rcases splitFrame_of_error hd with hn | he
    · obtain ⟨v, i, t₁, t₀, l₃, l₂, l₁, l₀, tail, rfl⟩ := exists_header_bytes hl
      simp only [decodeHeader] at hd
      split_ifs at hd with hv hlen
      · cases hd
        simp [splitFrame, decodeHeader, hv] at hn
      · cases hd
        simp [splitFrame, decodeHeader, hv, hlen] at hn
    · exact he

theorem splitFrame_error_append (hs : c.splitFrame buf = .error e) :
    c.splitFrame (buf ++ more) = .error e := by
  obtain ⟨hl, hd⟩ := splitFrame_eq_error_iff.1 hs
  refine splitFrame_eq_error_iff.2 ⟨?_, by rw [decodeHeader_append hl, hd]⟩
  rw [List.length_append]
  omega

/-! One buffer. -/

theorem drain_of_error (hs : c.splitFrame buf = .error e) : c.drain buf = { fault := some e, rest := buf } := by
  rw [drain]
  split <;> simp_all

theorem drain_of_none (hs : c.splitFrame buf = .ok none) : c.drain buf = { rest := buf } := by
  rw [drain]
  split <;> simp_all

theorem drain_of_some (hs : c.splitFrame buf = .ok (some (m, rest))) :
    c.drain buf = { c.drain rest with frames := m :: (c.drain rest).frames } := by
  rw [drain]
  split <;> simp_all

theorem drain_empty (c : Codec) : c.drain [] = {} := drain_of_none rfl

theorem drain_toBytes (hm : c.Admits m) (rest : Bytes) :
    c.drain (m.toBytes ++ rest) = { c.drain rest with frames := m :: (c.drain rest).frames } :=
  drain_of_some (splitFrame_eq_some_iff.2 ⟨hm, rfl⟩)

theorem drain_frame (hm : c.Admits m) : c.drain m.toBytes = { frames := [m] } := by
  have hd := drain_toBytes hm []
  rwa [List.append_nil, drain_empty] at hd

theorem drain_oversized {v : UInt8} {t : PayloadType} {p : Bytes} (hle : p.length ≤ maxDeclaredLength)
    (hlarge : c.limit.toNat < p.length) (rest : Bytes) :
    c.drain ((Message.of v t p).toBytes ++ rest) =
      { fault := some (.malformedLength p.length c.limit.toNat), rest := (Message.of v t p).toBytes ++ rest } :=
  drain_of_error (by simp only [splitFrame, decodeHeader_oversized hle hlarge])

theorem drain_frames {ms : List Message} (h : ∀ m ∈ ms, c.Admits m) :
    c.drain (ms.flatMap Message.toBytes) = { frames := ms } := by
  induction ms with
  | nil => exact c.drain_empty
  | cons m ms ih =>
    obtain ⟨hm, hms⟩ := List.forall_mem_cons.1 h
    rw [List.flatMap_cons, drain_toBytes hm, ih hms]

/-- What is taken off a buffer and then off what is left and has come since. -/
def Drained.andThen (d d' : Drained) : Drained := { d' with frames := d.frames ++ d'.frames }

theorem drain_append (c : Codec) (buf more : Bytes) :
    c.drain (buf ++ more) = (c.drain buf).andThen (c.drain ((c.drain buf).rest ++ more)) := by
  fun_induction drain c buf with
  | case1 buf e hs => rfl
  | case2 buf hs => rfl
  | case3 buf m rest hs _ _ ih =>
    rw [drain_of_some (splitFrame_append hs), ih]
    rfl

theorem drain_bytes (c : Codec) (buf : Bytes) :
    (c.drain buf).frames.flatMap Message.toBytes ++ (c.drain buf).rest = buf := by
  fun_induction drain c buf with
  | case1 buf e hs => rfl
  | case2 buf hs => rfl
  | case3 buf m rest hs _ _ ih =>
    rw [List.flatMap_cons, List.append_assoc, ih]
    exact (splitFrame_eq_some_iff.1 hs).2.symm

theorem splitFrame_drain_rest (c : Codec) (buf : Bytes) :
    c.splitFrame (c.drain buf).rest =
      match (c.drain buf).fault with
      | none => .ok none
      | some e => .error e := by
  fun_induction drain c buf with
  | case1 buf e hs => exact hs
  | case2 buf hs => exact hs
  | case3 buf m rest hs _ _ ih => exact ih

/-- A broken buffer stays broken: more bytes give the same fault and no frame. -/
theorem drain_after_fault (hf : (c.drain buf).fault = some e) (more : Bytes) :
    c.drain ((c.drain buf).rest ++ more) = { fault := some e, rest := (c.drain buf).rest ++ more } := by
  have hs := c.splitFrame_drain_rest buf
  rw [hf] at hs
  exact drain_of_error (splitFrame_error_append hs)

/-- The loop of `drain` with a bound on its rounds; it has no result when they do not suffice. -/
def drainWithin (c : Codec) : (fuel : Nat) → Bytes → Option Drained
  | 0, _ => none
  | fuel + 1, buf =>
    match c.splitFrame buf with
    | .error e => some { fault := some e, rest := buf }
    | .ok none => some { rest := buf }
    | .ok (some (m, rest)) => (c.drainWithin fuel rest).map fun d => { d with frames := m :: d.frames }

theorem drainWithin_eq_drain (c : Codec) (buf : Bytes) :
    ∀ fuel, buf.length / headerLength < fuel → c.drainWithin fuel buf = some (c.drain buf) := by
  fun_induction drain c buf with
  | case1 buf e hs =>
    rintro (_ | fuel) hf
    · cases hf
    · simp only [drainWithin, hs]
  | case2 buf hs =>
    rintro (_ | fuel) hf
    · cases hf
    · simp only [drainWithin, hs]
  | case3 buf m rest hs _ _ ih =>
    rintro (_ | fuel) hf
    · cases hf
    · have hlen : buf.length = headerLength + m.payload.length + rest.length := by
        rw [(splitFrame_eq_some_iff.1 hs).2, List.length_append, Message.length_toBytes, Message.frameLength]
      have hrest : rest.length / headerLength < fuel := by
        simp only [headerLength] at hlen hf ⊢
        omega
      simp only [drainWithin, hs, ih fuel hrest, Option.map_some]
      rfl

/-! Many chunks. -/

/-- What has come of several chunks, fed to a buffer one after the other. -/
def gather (buf : Bytes) (ds : List Drained) : Drained where
  frames := ds.flatMap (·.frames)
  fault := ds.getLast?.bind (·.fault)
  rest := (ds.getLast?.map (·.rest)).getD buf

theorem gather_cons (buf : Bytes) (d : Drained) {ds : List Drained} (hds : ds ≠ []) :
    gather buf (d :: ds) = d.andThen (gather d.rest ds) := by
  obtain ⟨d', hd'⟩ := Option.ne_none_iff_exists'.1 (mt List.getLast?_eq_none_iff.1 hds)
  simp [gather, Drained.andThen, List.getLast?_cons, hd']

theorem gather_feed (c : Codec) (buf chunk : Bytes) (chunks : List Bytes) :
    gather buf (c.feed buf (chunk :: chunks)) = c.drain (buf ++ (chunk :: chunks).flatten) := by
  induction chunks generalizing buf chunk with
  | nil => simp [feed, gather]
  | cons next chunks ih =>
    rw [feed, gather_cons _ _ (by simp [feed]), ih, ← drain_append]
    simp only [List.flatten_cons, List.append_assoc]

/-- Behind a chunk that ends with a fault, every further chunk ends with it and brings nothing. -/
theorem feed_after_fault (hf : (c.drain buf).fault = some e) (chunks : List Bytes) :
    ∀ d ∈ c.feed (c.drain buf).rest chunks, d.frames = [] ∧ d.fault = some e := by
  induction chunks generalizing buf with
  | nil => simp [feed]
  | cons chunk chunks ih =>
    have hd := drain_after_fault hf chunk
    have hf' : (c.drain ((c.drain buf).rest ++ chunk)).fault = some e := by rw [hd]
    intro d hmem
    rcases List.mem_cons.1 hmem with rfl | hmem
    · rw [hd]
      exact ⟨rfl, rfl⟩
    · exact ih hf' d hmem

theorem feed_pairwise (c : Codec) (buf : Bytes) (chunks : List Bytes) :
    (c.feed buf chunks).Pairwise fun d d' => ∀ e, d.fault = some e → d'.frames = [] ∧ d'.fault = some e := by
  induction chunks generalizing buf with
  | nil => exact List.Pairwise.nil
  | cons chunk chunks ih =>
    rw [feed]
    exact List.Pairwise.cons (fun d' hd' e hf => feed_after_fault hf chunks d' hd') (ih _)

/-- However a byte stream is cut into chunks, they bring the frames, the last fault and the last buffer that
all bytes bring in a single chunk. The loop ends after at most one round for each eight bytes and one more, the
frames and the buffer are the bytes that came in, and behind a fault there is only that fault. -/
theorem feed_eq_single_chunk (c : Codec) (chunks : List Bytes) :
    gather [] (c.feed [] chunks) = gather [] (c.feed [] [chunks.flatten]) ∧
    c.feed [] [chunks.flatten] = [c.drain chunks.flatten] ∧
    (∀ buf, c.drainWithin (buf.length / headerLength + 1) buf = some (c.drain buf)) ∧
    (gather [] (c.feed [] chunks)).frames.flatMap Message.toBytes ++ (gather [] (c.feed [] chunks)).rest =
      chunks.flatten ∧
    (c.feed [] chunks).Pairwise fun d d' => ∀ e, d.fault = some e → d'.frames = [] ∧ d'.fault = some e := by
  have hg : gather [] (c.feed [] chunks) = c.drain chunks.flatten := by
    cases chunks with
    | nil => exact (drain_of_none rfl).symm
    | cons chunk chunks => exact gather_feed c [] chunk chunks
  have hs : gather [] (c.feed [] [chunks.flatten]) = c.drain chunks.flatten := by
    simpa using gather_feed c [] chunks.flatten []
  refine ⟨hg.trans hs.symm, rfl, fun buf => drainWithin_eq_drain c buf _ (Nat.lt_succ_self _), ?_,
    feed_pairwise c [] chunks⟩
  rw [hg]
  exact drain_bytes c chunks.flatten

end Doip.Codec
