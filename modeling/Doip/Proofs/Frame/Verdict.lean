import Doip.Proofs.Frame.Chunking

/-! The two readers of frames come to one verdict. What `decode` says about a buffer is told by four tests in a row
(`decode_eq_verdict`), and `takeFrame`, which takes the frame off the buffer, says the same and leaves the buffer alone
unless there is a frame (`takeFrame_agrees`). With every index and every length checked as a machine word neither ever
fails (`checkedDecode_eq`, `checkedTake_eq`). Of the codec only the limit counts, and under a higher one a buffer is
worth the same unless it was refused for its length (`verdict_mono`). -/

namespace Doip

def FrameError.isIncomplete : FrameError → Bool
  | incomplete _ _ => true
  | _ => false

namespace Codec

variable {c : Codec} {buf : Bytes} {m : Message} {h : Header} {e : FrameError}

def declared (buf : Bytes) : Nat := ofBE ((buf.drop 4).take 4)

def verdict (limit : UInt32) (buf : Bytes) : Except FrameError Message :=
  if buf.length < 8 then .error (.incomplete 8 buf.length)
  else if buf.getD 1 0 ≠ ~~~buf.getD 0 0 then .error (.invalidVersion (buf.getD 0 0) (buf.getD 1 0))
  else if limit.toNat < declared buf then .error (.malformedLength (declared buf) limit.toNat)
  else if buf.length < 8 + declared buf then .error (.incomplete (8 + declared buf) buf.length)
  else .ok (.of (buf.getD 0 0) (.ofRaw (UInt16.ofNat (ofBE ((buf.drop 2).take 2)))) ((buf.drop 8).take (declared buf)))

/-- One call on a stream buffer: what comes of it, and the buffer that it leaves. -/
def takeFrame (c : Codec) (buf : Bytes) : Except FrameError (Option Message) × Bytes :=
  match c.splitFrame buf with
  | .ok (some (m, rest)) => (.ok (some m), rest)
  | .ok none => (.ok none, buf)
  | .error e => (.error e, buf)

/-! Reading. -/

theorem decode_of_error (hd : c.decodeHeader buf = .error e) : c.decode buf = .error e := by
  simp only [decode, hd, bind, Except.bind]

theorem decode_of_ok (hd : c.decodeHeader buf = .ok h) :
    c.decode buf =
      if buf.length < headerLength + h.length then .error (.incomplete (headerLength + h.length) buf.length)
      else .ok (.of h.version h.type ((buf.take (headerLength + h.length)).drop headerLength)) := by
  simp only [decode, hd, bind, Except.bind]
  split <;> rfl

theorem decode_eq_verdict (c : Codec) (buf : Bytes) : c.decode buf = verdict c.limit buf := by
  unfold verdict
  rcases Nat.lt_or_ge buf.length 8 with hs | hl
  · rw [if_pos hs]
    exact decode_of_error (decodeHeader_short hs)
  rw [if_neg (Nat.not_lt.2 hl)]
  obtain ⟨v, i, t₁, t₀, l₃, l₂, l₁, l₀, tail, rfl⟩ := exists_header_bytes hl
  have hdeclared : declared (v :: i :: t₁ :: t₀ :: l₃ :: l₂ :: l₁ :: l₀ :: tail) = ofBE [l₃, l₂, l₁, l₀] := rfl
  rw [hdeclared, List.getD_cons_succ, List.getD_cons_zero, List.getD_cons_zero]
  by_cases hv : i = ~~~v
  · by_cases hlen : c.limit.toNat < ofBE [l₃, l₂, l₁, l₀]
    · have hd : c.decodeHeader (v :: i :: t₁ :: t₀ :: l₃ :: l₂ :: l₁ :: l₀ :: tail) =
          .error (.malformedLength (ofBE [l₃, l₂, l₁, l₀]) c.limit.toNat) := by
        simp [decodeHeader, hv, hlen]
      rw [decode_of_error hd, if_neg (not_not.2 hv), if_pos hlen]
    · have hd : c.decodeHeader (v :: i :: t₁ :: t₀ :: l₃ :: l₂ :: l₁ :: l₀ :: tail) =
          .ok ⟨v, .ofRaw (UInt16.ofNat (ofBE [t₁, t₀])), ofBE [l₃, l₂, l₁, l₀]⟩ := by
        simp [decodeHeader, hv, hlen]
      rw [decode_of_ok hd, if_neg (not_not.2 hv), if_neg hlen, List.drop_take, Nat.add_sub_cancel_left]
      rfl
  · have hd : c.decodeHeader (v :: i :: t₁ :: t₀ :: l₃ :: l₂ :: l₁ :: l₀ :: tail) = .error (.invalidVersion v i) := by
      simp [decodeHeader, hv]
    rw [decode_of_error hd, if_pos hv]

/-- The limit is asked about in one test only, and behind it no more. -/
theorem verdict_mono {limit raised : UInt32} (hle : limit ≤ raised)
    (hfits : ∀ length, verdict limit buf ≠ .error (.malformedLength length limit.toNat)) :
    verdict raised buf = verdict limit buf := by
  unfold verdict at hfits ⊢
  by_cases hshort : buf.length < 8
  · rw [if_pos hshort, if_pos hshort]
  by_cases hinverse : buf.getD 1 0 ≠ ~~~buf.getD 0 0
  · rw [if_neg hshort, if_pos hinverse, if_neg hshort, if_pos hinverse]
  by_cases hover : limit.toNat < declared buf
  · rw [if_neg hshort, if_neg hinverse, if_pos hover] at hfits
    exact absurd rfl (hfits _)
  · have hraised : ¬raised.toNat < declared buf :=
      Nat.not_lt.2 (Nat.le_trans (Nat.not_lt.1 hover) (UInt32.le_iff_toNat_le.1 hle))
    rw [if_neg hover, if_neg hraised]

/-! Taking off. -/

theorem takeFrame_of_error (hd : c.decodeHeader buf = .error e) :
    c.takeFrame buf = if e.isIncomplete then (.ok none, buf) else (.error e, buf) := by
  cases e <;> simp [takeFrame, splitFrame, hd, FrameError.isIncomplete]

theorem takeFrame_of_ok (hd : c.decodeHeader buf = .ok h) :
    c.takeFrame buf =
      if buf.length < headerLength + h.length then (.ok none, buf)
      else (.ok (some (.of h.version h.type ((buf.take (headerLength + h.length)).drop headerLength))),
        buf.drop (headerLength + h.length)) := by
  simp only [takeFrame, splitFrame, hd]
  split_ifs with hlt <;> rfl

/-- What taking a frame off a buffer comes to is what reading the buffer comes to. -/
theorem takeFrame_agrees (c : Codec) (buf : Bytes) :
    c.takeFrame buf =
      match c.decode buf with
      | .ok m => (.ok (some m), buf.drop m.frameLength)
      | .error e => if e.isIncomplete then (.ok none, buf) else (.error e, buf) := by
  cases hd : c.decodeHeader buf with
  | error e => rw [takeFrame_of_error hd, decode_of_error hd]
  | ok h =>
    rw [takeFrame_of_ok hd, decode_of_ok hd]
    by_cases hlt : buf.length < headerLength + h.length
    · simp only [if_pos hlt]
      rfl
    · have hlen : ((buf.take (headerLength + h.length)).drop headerLength).length = h.length := by
        rw [List.length_drop, List.length_take_of_le (Nat.not_lt.1 hlt), Nat.add_sub_cancel_left]
      simp only [if_neg hlt, Message.frameLength, Message.of, hlen]

/-! The readers with every index and every length checked. Lengths are words of 64 bits. -/

def sum? (a b : Nat) : Option Nat := if a + b < UInt64.size then some (a + b) else none

def difference? (a b : Nat) : Option Nat := if b ≤ a then some (a - b) else none

/-- The bytes between two positions of a buffer, if both are in it. -/
def slice? (buf : Bytes) (start stop : Nat) : Option Bytes :=
  if start ≤ stop ∧ stop ≤ buf.length then some ((buf.take stop).drop start) else none

def cut? (buf : Bytes) (n : Nat) : Option (Bytes × Bytes) :=
  if n ≤ buf.length then some (buf.take n, buf.drop n) else none

def checkedHeader (c : Codec) (buf : Bytes) : Option (Except FrameError Header) := do
  if buf.length < headerLength then return .error (.incomplete headerLength buf.length)
  let version ← buf[0]?
  let inverse ← buf[1]?
  if inverse ≠ ~~~version then return .error (.invalidVersion version inverse)
  let type := PayloadType.ofRaw (UInt16.ofNat (ofBE [← buf[2]?, ← buf[3]?]))
  let length := ofBE [← buf[4]?, ← buf[5]?, ← buf[6]?, ← buf[7]?]
  if c.limit.toNat < length then return .error (.malformedLength length c.limit.toNat)
  return .ok ⟨version, type, length⟩

def checkedDecode (c : Codec) (buf : Bytes) : Option (Except FrameError Message) := do
  match ← c.checkedHeader buf with
  | .error e => return .error e
  | .ok header =>
    let needed ← sum? headerLength header.length
    if buf.length < needed then return .error (.incomplete needed buf.length)
    let payload ← slice? buf headerLength needed
    return .ok (.of header.version header.type payload)

def checkedTake (c : Codec) (buf : Bytes) : Option (Except FrameError (Option Message) × Bytes) := do
  match ← c.checkedHeader buf with
  | .error e => return if e.isIncomplete then (.ok none, buf) else (.error e, buf)
  | .ok header =>
    let needed ← sum? headerLength header.length
    if buf.length < needed then
      let missing ← difference? needed buf.length
      let _room ← sum? buf.length missing
      return (.ok none, buf)
    let (frame, rest) ← cut? buf needed
    let (_, payload) ← cut? frame headerLength
    return (.ok (some (.of header.version header.type payload)), rest)

theorem checkedHeader_eq (c : Codec) (buf : Bytes) : c.checkedHeader buf = some (c.decodeHeader buf) := by
  rcases Nat.lt_or_ge buf.length headerLength with hs | hl
  · rw [decodeHeader_short hs, checkedHeader, if_pos hs]
    rfl
  rw [checkedHeader, if_neg (Nat.not_lt.2 hl)]
  obtain ⟨v, i, t₁, t₀, l₃, l₂, l₁, l₀, tail, rfl⟩ := exists_header_bytes hl
  by_cases hv : i = ~~~v
  · by_cases hlen : c.limit.toNat < ofBE [l₃, l₂, l₁, l₀]
    · simp [decodeHeader, hv, hlen]
    · simp [decodeHeader, hv, hlen]
  · simp [decodeHeader, hv]

theorem sum?_needed (hd : c.decodeHeader buf = .ok h) :
    sum? headerLength h.length = some (headerLength + h.length) := by
  obtain ⟨-, hle, -⟩ := decodeHeader_eq_ok_iff.1 hd
  have hlimit := c.limit_le
  refine if_pos ?_
  simp only [headerLength, maxDeclaredLength, UInt64.size] at *
  omega

theorem checkedDecode_eq (c : Codec) (buf : Bytes) : c.checkedDecode buf = some (c.decode buf) := by
  cases hd : c.decodeHeader buf with
  | error e =>
    rw [decode_of_error hd, checkedDecode, checkedHeader_eq, hd]
    rfl
  | ok h =>
    rw [decode_of_ok hd, checkedDecode, checkedHeader_eq, hd]
    simp only [Option.bind_eq_bind, Option.bind_some, sum?_needed hd]
    split_ifs with hlt
    · rfl
    · have hin : headerLength ≤ headerLength + h.length ∧ headerLength + h.length ≤ buf.length :=
        ⟨Nat.le_add_right _ _, Nat.not_lt.1 hlt⟩
      rw [slice?, if_pos hin]
      rfl

theorem checkedTake_eq (c : Codec) (buf : Bytes) : c.checkedTake buf = some (c.takeFrame buf) := by
  cases hd : c.decodeHeader buf with
  | error e =>
    rw [takeFrame_of_error hd, checkedTake, checkedHeader_eq, hd]
    rfl
  | ok h =>
    have hneeded := sum?_needed hd
    rw [takeFrame_of_ok hd, checkedTake, checkedHeader_eq, hd]
    simp only [Option.bind_eq_bind, Option.bind_some, hneeded]
    split_ifs with hlt
    · have hmissing : difference? (headerLength + h.length) buf.length =
          some (headerLength + h.length - buf.length) := if_pos (Nat.le_of_lt hlt)
      have hroom : sum? buf.length (headerLength + h.length - buf.length) = some (headerLength + h.length) := by
        rw [sum?, Nat.add_sub_cancel' (Nat.le_of_lt hlt)]
        exact hneeded
      rw [hmissing, Option.bind_some, hroom]
      rfl
    · have hframe : cut? buf (headerLength + h.length) =
          some (buf.take (headerLength + h.length), buf.drop (headerLength + h.length)) := if_pos (Nat.not_lt.1 hlt)
      have hpayload : cut? (buf.take (headerLength + h.length)) headerLength =
          some ((buf.take (headerLength + h.length)).take headerLength,
            (buf.take (headerLength + h.length)).drop headerLength) := by
        refine if_pos ?_
        rw [List.length_take_of_le (Nat.not_lt.1 hlt)]
        exact Nat.le_add_right _ _
      rw [hframe, Option.bind_some]
      simp only [hpayload, Option.bind_some]
      rfl

/-! The verdict of both. -/

/-- Both readers go by the same tests in the same order. A buffer gives a frame to both, has too few bytes for both or
is refused by both for the same fault, and only the frame is ever taken off it. The lengths they work out stay lengths
and the positions they read are in the buffer, the codec's own version does not matter, and a higher limit changes
nothing but a refusal for the length. -/
theorem readers_agree (c : Codec) (buf : Bytes) :
    c.decode buf = verdict c.limit buf ∧
    (∀ m, c.takeFrame buf = (.ok (some m), buf.drop m.frameLength) ↔ c.decode buf = .ok m) ∧
    (c.takeFrame buf = (.ok none, buf) ↔
      ∃ needed available, c.decode buf = .error (.incomplete needed available)) ∧
    (∀ e, c.takeFrame buf = (.error e, buf) ↔ c.decode buf = .error e ∧ e.isIncomplete = false) ∧
    (c.checkedDecode buf = some (c.decode buf) ∧ c.checkedTake buf = some (c.takeFrame buf)) ∧
    (∀ version, ({ c with version } : Codec).decode buf = c.decode buf ∧
      ({ c with version } : Codec).takeFrame buf = c.takeFrame buf) ∧
    (∀ limit, c.limit ≤ limit → (∀ length, c.decode buf ≠ .error (.malformedLength length c.limit.toNat)) →
      ({ c with limit } : Codec).decode buf = c.decode buf ∧
      ({ c with limit } : Codec).takeFrame buf = c.takeFrame buf) := by
  have hsame : ∀ d : Codec, d.decode buf = c.decode buf →
      d.decode buf = c.decode buf ∧ d.takeFrame buf = c.takeFrame buf := by
    intro d hd
    rw [takeFrame_agrees d, takeFrame_agrees c, hd]
    exact ⟨rfl, rfl⟩
  refine ⟨decode_eq_verdict c buf, ?some, ?none, ?error, ⟨checkedDecode_eq c buf, checkedTake_eq c buf⟩, ?version,
    ?limit⟩
  case version =>
    intro version
    apply hsame
    rw [decode_eq_verdict, decode_eq_verdict]
  case limit =>
    intro limit hle hfits
    apply hsame
    rw [decode_eq_verdict] at hfits ⊢
    rw [verdict_mono hle hfits, decode_eq_verdict]
  all_goals
    rw [takeFrame_agrees]
    cases c.decode buf with
    | ok m => simp
    | error e => cases e <;> simp [FrameError.isIncomplete]

def threeAndOne : Bytes := (Message.of 1 .diagnosticMessage [0x0E, 0x80, 0x3E]).toBytes ++ [0xFF]

/-- A limit of three is just enough, so a higher one gives the same frame and the same rest. -/
theorem agrees_above_three :
    ((3 : UInt32) ≤ 4 ∧ ∀ length, (Codec.mk 2 3).decode threeAndOne ≠ .error (.malformedLength length 3)) ∧
    (Codec.mk 2 4).decode threeAndOne = .ok (.of 1 .diagnosticMessage [0x0E, 0x80, 0x3E]) ∧
    (Codec.mk 2 4).takeFrame threeAndOne = (.ok (some (.of 1 .diagnosticMessage [0x0E, 0x80, 0x3E])), [0xFF]) := by
  have hthree : (Codec.mk 2 3).decode threeAndOne = .ok (.of 1 .diagnosticMessage [0x0E, 0x80, 0x3E]) := by
    decide +kernel
  have hfits : ∀ length, (Codec.mk 2 3).decode threeAndOne ≠ .error (.malformedLength length 3) := by
    intro length
    rw [hthree]
    exact nofun
  obtain ⟨-, htaken, -, -, -, -, hraised⟩ := readers_agree ⟨2, 3⟩ threeAndOne
  obtain ⟨hdecode, htake⟩ := hraised 4 (by decide) hfits
  exact ⟨⟨by decide, hfits⟩, hdecode.trans hthree, htake.trans ((htaken _).2 hthree)⟩

end Codec
end Doip
