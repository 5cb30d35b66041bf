import Mathlib.Tactic.Common
import Doip.Frame.Stream

/-! The codec reads exactly what it writes. A header is read from its own eight bytes and from nothing
else (`decodeHeader_eq_ok_iff`), so a frame comes off a buffer if and only if the buffer starts with the
bytes of a frame that the codec admits (`splitFrame_eq_some_iff`). What lies behind never matters. -/

namespace Doip

namespace PayloadType

theorem canonical_iff {t : PayloadType} : t.Canonical ↔ ∀ raw, t = unknown raw → ofRaw raw = unknown raw := by
  constructor
  · rintro ht raw rfl
    exact ht
  · intro ht
    cases t with
    | unknown raw => exact ht raw rfl
    | _ => rfl

end PayloadType

/-- The eight bytes that a header is read from. -/
def Header.toBytes (h : Header) : Bytes :=
  h.version :: (~~~h.version) :: (be 2 h.type.raw.toNat ++ be 4 h.length)

@[simp] theorem Header.length_toBytes (h : Header) : h.toBytes.length = headerLength := by
  simp [Header.toBytes, headerLength]

namespace Codec

variable {c : Codec} {buf more rest : Bytes} {m : Message} {h : Header}

/-- A frame that a codec takes: the version is consistent, the type is the one its number is read as,
and the payload is within the limit. -/
structure Admits (c : Codec) (m : Message) : Prop where
  inverse : m.inverse = ~~~m.version
  canonical : m.type.Canonical
  fits : m.payload.length ≤ c.limit.toNat

instance (c : Codec) (m : Message) : Decidable (c.Admits m) :=
  decidable_of_iff (m.inverse = ~~~m.version ∧ m.type.Canonical ∧ m.payload.length ≤ c.limit.toNat)
    ⟨fun ⟨hi, hc, hf⟩ => ⟨hi, hc, hf⟩, fun h => ⟨h.inverse, h.canonical, h.fits⟩⟩

theorem exists_header_bytes (hbuf : headerLength ≤ buf.length) :
    ∃ v i t₁ t₀ l₃ l₂ l₁ l₀ tail, buf = v :: i :: t₁ :: t₀ :: l₃ :: l₂ :: l₁ :: l₀ :: tail := by
  match buf, hbuf with
  | v :: i :: t₁ :: t₀ :: l₃ :: l₂ :: l₁ :: l₀ :: tail, _ =>
    exact ⟨v, i, t₁, t₀, l₃, l₂, l₁, l₀, tail, rfl⟩

theorem decodeHeader_short (hbuf : buf.length < headerLength) :
    c.decodeHeader buf = .error (.incomplete headerLength buf.length) := by
  unfold decodeHeader
  split
  · simp only [headerLength, List.length_cons] at hbuf
    omega
  · rfl

theorem decodeHeader_append (hbuf : headerLength ≤ buf.length) :
    c.decodeHeader (buf ++ more) = c.decodeHeader buf := by
  obtain ⟨v, i, t₁, t₀, l₃, l₂, l₁, l₀, tail, rfl⟩ := exists_header_bytes hbuf
  rfl

theorem be_ofBE_word (b₁ b₀ : UInt8) : be 2 (UInt16.ofNat (ofBE [b₁, b₀])).toNat = [b₁, b₀] := by
  have hsize : Nat.pow 256 2 = UInt16.size := by decide
  have hlt : ofBE [b₁, b₀] < UInt16.size := Nat.lt_of_lt_of_eq (ofBE_lt [b₁, b₀]) hsize
  rw [UInt16.toNat_ofNat', Nat.mod_eq_of_lt hlt]
  exact be_ofBE [b₁, b₀]

theorem limit_le (c : Codec) : c.limit.toNat ≤ maxDeclaredLength := Nat.le_of_lt_succ c.limit.toNat_lt

theorem decodeHeader_eq_ok_iff :
    c.decodeHeader buf = .ok h ↔
      h.type.Canonical ∧ h.length ≤ c.limit.toNat ∧ ∃ tail, buf = h.toBytes ++ tail := by
  constructor
  · intro hd
    rcases Nat.lt_or_ge buf.length headerLength with hs | hl
    · rw [decodeHeader_short hs] at hd
      cases hd
    obtain ⟨v, i, t₁, t₀, l₃, l₂, l₁, l₀, tail, rfl⟩ := exists_header_bytes hl
    simp only [decodeHeader] at hd
    split_ifs at hd with hv hlen
    · cases hd
      refine ⟨PayloadType.canonical_ofRaw _, Nat.not_lt.1 hlen, tail, ?_⟩
      have hl4 : be 4 (ofBE [l₃, l₂, l₁, l₀]) = [l₃, l₂, l₁, l₀] := be_ofBE [l₃, l₂, l₁, l₀]
      simp only [Header.toBytes, PayloadType.raw_ofRaw, be_ofBE_word, hl4, not_not.1 hv]
      rfl
  · rintro ⟨hc, hlen, tail, rfl⟩
    obtain ⟨v, t, n⟩ := h
    obtain ⟨t₁, t₀, ht⟩ : ∃ t₁ t₀, be 2 t.raw.toNat = [t₁, t₀] := ⟨_, _, rfl⟩
    obtain ⟨l₃, l₂, l₁, l₀, hl⟩ : ∃ l₃ l₂ l₁ l₀, be 4 n = [l₃, l₂, l₁, l₀] :=
      ⟨_, _, _, _, rfl⟩
    have hn : ofBE [l₃, l₂, l₁, l₀] = n := by
      rw [← hl, ofBE_be]
      exact Nat.mod_eq_of_lt (Nat.lt_succ_of_le (Nat.le_trans hlen c.limit_le))
    have hw : UInt16.ofNat (ofBE [t₁, t₀]) = t.raw := by
      have hlt := t.raw.toNat_lt
      rw [← ht, ofBE_be, Nat.mod_eq_of_lt hlt]
      exact UInt16.ofNat_toNat
    simp only [Header.toBytes, ht, hl, List.cons_append, List.nil_append, decodeHeader, hn, hw]
    rw [if_neg (by simp), if_neg (Nat.not_lt.2 hlen)]
    exact congrArg (fun t => Except.ok (Header.mk v t n)) hc

theorem decodeHeader_oversized {v : UInt8} {t : PayloadType} {p : Bytes} (hle : p.length ≤ maxDeclaredLength)
    (hlarge : c.limit.toNat < p.length) (rest : Bytes) :
    c.decodeHeader ((Message.of v t p).toBytes ++ rest) = .error (.malformedLength p.length c.limit.toNat) := by
  obtain ⟨t₁, t₀, ht⟩ : ∃ t₁ t₀, be 2 t.raw.toNat = [t₁, t₀] := ⟨_, _, rfl⟩
  obtain ⟨l₃, l₂, l₁, l₀, hl⟩ : ∃ l₃ l₂ l₁ l₀, be 4 p.length = [l₃, l₂, l₁, l₀] := ⟨_, _, _, _, rfl⟩
  have hn : ofBE [l₃, l₂, l₁, l₀] = p.length := by
    rw [← hl, ofBE_be]
    exact Nat.mod_eq_of_lt (Nat.lt_succ_of_le hle)
  have hdeclared : (Message.of v t p).declaredLength = p.length := Nat.min_eq_left hle
  simp only [Message.toBytes, Message.header, hdeclared]
  simp only [Message.of, ht, hl, List.cons_append, List.nil_append, decodeHeader, hn]
  rw [if_neg (by simp), if_pos hlarge]

/-- A header that a codec reads. -/
structure Reads (c : Codec) (h : Header) : Prop where
  canonical : h.type.Canonical
  fits : h.length ≤ c.limit.toNat

theorem Reads.decodeHeader (hr : c.Reads h) (tail : Bytes) : c.decodeHeader (h.toBytes ++ tail) = .ok h :=
  decodeHeader_eq_ok_iff.2 ⟨hr.canonical, hr.fits, tail, rfl⟩

theorem take_behind_header (h : Header) (tail : Bytes) (n : Nat) :
    ((h.toBytes ++ tail).take (headerLength + n)).drop headerLength = tail.take n := by
  rw [← h.length_toBytes, List.take_length_add_append, List.drop_left]

theorem drop_behind_header (h : Header) (tail : Bytes) (n : Nat) :
    (h.toBytes ++ tail).drop (headerLength + n) = tail.drop n := by
  rw [← h.length_toBytes, List.drop_length_add_append]

theorem Reads.splitFrame (hr : c.Reads h) (tail : Bytes) :
    c.splitFrame (h.toBytes ++ tail) =
      if tail.length < h.length then .ok none
      else .ok (some (.of h.version h.type (tail.take h.length), tail.drop h.length)) := by
  simp only [Codec.splitFrame, hr.decodeHeader, take_behind_header, drop_behind_header,
    List.length_append, Header.length_toBytes, Nat.add_lt_add_iff_left]

theorem Reads.decode (hr : c.Reads h) (tail : Bytes) :
    c.decode (h.toBytes ++ tail) =
      if tail.length < h.length then
        .error (.incomplete (headerLength + h.length) (headerLength + tail.length))
      else .ok (.of h.version h.type (tail.take h.length)) := by
  simp only [Codec.decode, hr.decodeHeader, take_behind_header, List.length_append,
    Header.length_toBytes, Nat.add_lt_add_iff_left, bind, Except.bind]
  split <;> rfl

theorem Admits.header_eq (hm : c.Admits m) :
    m.header = (Header.mk m.version m.type m.payload.length).toBytes := by
  have hlen : m.declaredLength = m.payload.length := Nat.min_eq_left (Nat.le_trans hm.fits c.limit_le)
  simp only [Message.header, Header.toBytes, hm.inverse, hlen]

theorem Admits.reads (hm : c.Admits m) : c.Reads ⟨m.version, m.type, m.payload.length⟩ :=
  ⟨hm.canonical, hm.fits⟩

theorem Admits.eq_of (hm : c.Admits m) : m = .of m.version m.type m.payload := by
  simp only [Message.of, ← hm.inverse]

theorem Reads.admits (hr : c.Reads h) {payload : Bytes} (hp : payload.length = h.length) :
    c.Admits (.of h.version h.type payload) :=
  ⟨rfl, hr.canonical, by simpa only [Message.of, hp] using hr.fits⟩

theorem splitFrame_of_error {e : FrameError} (hd : c.decodeHeader buf = .error e) :
    c.splitFrame buf = .ok none ∨ c.splitFrame buf = .error e := by
  cases e <;> simp [Codec.splitFrame, hd]

/-- A frame comes off a buffer exactly when the buffer starts with its bytes and the codec admits it. -/
theorem splitFrame_eq_some_iff :
    c.splitFrame buf = .ok (some (m, rest)) ↔ c.Admits m ∧ buf = m.toBytes ++ rest := by
  constructor
  · intro hs
    cases hd : c.decodeHeader buf with
    | error e =>
      rcases splitFrame_of_error hd with hn | he
      · rw [hn] at hs
        cases hs
      · rw [he] at hs
        cases hs
    | ok h =>
      obtain ⟨hc, hl, tail, rfl⟩ := decodeHeader_eq_ok_iff.1 hd
      have hr : c.Reads h := ⟨hc, hl⟩
      rw [hr.splitFrame] at hs
      split_ifs at hs with hlt
      · cases hs
      · cases hs
        have hp : (tail.take h.length).length = h.length := List.length_take_of_le (Nat.not_lt.1 hlt)
        have hm := hr.admits hp
        refine ⟨hm, ?_⟩
        rw [Message.toBytes, hm.header_eq, List.append_assoc]
        simp only [Message.of, hp, List.take_append_drop]
  · rintro ⟨hm, rfl⟩
    rw [Message.toBytes, hm.header_eq, List.append_assoc, hm.reads.splitFrame, if_neg (by simp),
      List.take_left, List.drop_left, ← hm.eq_of]

theorem decode_eq_ok_iff : c.decode buf = .ok m ↔ ∃ rest, c.splitFrame buf = .ok (some (m, rest)) := by
  cases hd : c.decodeHeader buf with
  | error e =>
    have hdec : c.decode buf = .error e := by simp only [decode, hd, bind, Except.bind]
    rcases splitFrame_of_error hd with hn | he
    · simp [hdec, hn]
    · simp [hdec, he]
  | ok h =>
    obtain ⟨hc, hl, tail, rfl⟩ := decodeHeader_eq_ok_iff.1 hd
    have hr : c.Reads h := ⟨hc, hl⟩
    rw [hr.decode, hr.splitFrame]
    split_ifs with hlt
    · simp
    · simp

theorem admits_of (c : Codec) {t : PayloadType} {p : Bytes} (ht : t.Canonical)
    (hp : p.length ≤ c.limit.toNat) (v : UInt8) : c.Admits (.of v t p) :=
  ⟨rfl, ht, hp⟩

/-- Before the header is whole its eight bytes are asked for, and after that the whole frame. -/
theorem decode_strict_prefix {t : PayloadType} {p pre : Bytes} (ht : t.Canonical)
    (hp : p.length ≤ c.limit.toNat) (hpre : pre <+: c.encode t p) (hne : pre ≠ c.encode t p) :
    c.decode pre = .error (.incomplete
      (if pre.length < headerLength then headerLength else headerLength + p.length) pre.length) := by
  have hm : c.Admits (.of c.version t p) := c.admits_of ht hp c.version
  have henc : c.encode t p = (Header.mk c.version t p.length).toBytes ++ p := by
    rw [encode, Message.toBytes, hm.header_eq]
    rfl
  rw [henc] at hpre hne
  rcases Nat.lt_or_ge pre.length headerLength with hs | hl
  · rw [if_pos hs, decode, decodeHeader_short hs]
    rfl
  · obtain ⟨tail, rfl⟩ : (Header.mk c.version t p.length).toBytes <+: pre :=
      List.prefix_of_prefix_length_le (List.prefix_append _ _) hpre (by simpa using hl)
    have htail : tail <+: p := (List.prefix_append_right_inj _).1 hpre
    have hlt : tail.length < p.length := by
      refine Nat.lt_of_le_of_ne htail.length_le fun he => hne ?_
      rw [htail.eq_of_length he]
    have hr : c.Reads ⟨c.version, t, p.length⟩ := ⟨ht, hp⟩
    rw [hr.decode, if_pos hlt, if_neg (by simp)]
    simp

/-- A buffer is read as a frame if and only if the encoder writes that frame at its start: the version is
consistent, the type is not an assigned number given as unknown, and the payload is within the limit. So
every frame is read back, whatever follows it, and none of its proper beginnings is read at all. -/
theorem decode_iff_encoded (c : Codec) :
    (∀ buf m, c.decode buf = .ok m ↔
      m.inverse = ~~~m.version ∧
      (∀ raw, m.type = .unknown raw → PayloadType.ofRaw raw = .unknown raw) ∧
      m.payload.length ≤ c.limit.toNat ∧
      ∃ rest, buf = m.toBytes ++ rest) ∧
    ∀ t p, (∀ raw, t = .unknown raw → PayloadType.ofRaw raw = .unknown raw) → p.length ≤ c.limit.toNat →
      (∀ rest, c.decode (c.encode t p ++ rest) = .ok (.of c.version t p)) ∧
      ∀ pre, pre <+: c.encode t p → pre ≠ c.encode t p →
        c.decode pre = .error (.incomplete
          (if pre.length < headerLength then headerLength else headerLength + p.length) pre.length) := by
  refine ⟨fun buf m => ?_, fun t p ht hp => ⟨fun rest => ?_, fun pre => ?_⟩⟩
  · rw [decode_eq_ok_iff, ← PayloadType.canonical_iff]
    constructor
    · rintro ⟨rest, hs⟩
      obtain ⟨hm, hbuf⟩ := splitFrame_eq_some_iff.1 hs
      exact ⟨hm.inverse, hm.canonical, hm.fits, rest, hbuf⟩
    · rintro ⟨hi, ht, hp, rest, hbuf⟩
      exact ⟨rest, splitFrame_eq_some_iff.2 ⟨⟨hi, ht, hp⟩, hbuf⟩⟩
  · have hm := c.admits_of (PayloadType.canonical_iff.2 ht) hp c.version
    exact decode_eq_ok_iff.2 ⟨rest, splitFrame_eq_some_iff.2 ⟨hm, rfl⟩⟩
  · exact decode_strict_prefix (PayloadType.canonical_iff.2 ht) hp

/-- A frame of an unassigned type at the limit of its codec, with a byte behind it, and its first ten bytes. -/
theorem decode_iff_encoded_unassigned :
    let c : Codec := { limit := 4 }
    let frame := c.encode (.unknown 0x1234) [0xAA, 0xAB, 0xAC, 0xAD]
    (∀ raw, PayloadType.unknown 0x1234 = .unknown raw → PayloadType.ofRaw raw = .unknown raw) ∧
    c.decode (frame ++ [0x02]) = .ok (.of defaultVersion (.unknown 0x1234) [0xAA, 0xAB, 0xAC, 0xAD]) ∧
    c.decode (frame.take 10) = .error (.incomplete 12 10) := by
  have ht : ∀ raw, PayloadType.unknown 0x1234 = .unknown raw → PayloadType.ofRaw raw = .unknown raw :=
    PayloadType.canonical_iff.1 (by decide)
  have h := (decode_iff_encoded { limit := 4 }).2 (.unknown 0x1234) [0xAA, 0xAB, 0xAC, 0xAD] ht (by decide)
  exact ⟨ht, h.1 [0x02], h.2 _ (List.take_prefix _ _) (by decide)⟩

end Codec
end Doip
