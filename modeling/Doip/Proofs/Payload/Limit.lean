import Doip.Proofs.Frame.Verdict
import Doip.Proofs.Payload.RoundTrip

/-! Sender and receiver go by one limit. A frame declares the length of its payload as far as the length field goes
(`declared_toBytes`), so a receiver that reads the declared length tests the number that the sender has tested, and
`encodePayloadWithin` hands out a frame exactly when `decode` takes it (`limits_agree`). -/

namespace Doip.Codec

variable {c : Codec} {t : PayloadType} {body frame : Bytes}

/-- A type is written as its number, so the type that this number is read as has the same frames. -/
theorem encode_ofRaw (c : Codec) (t : PayloadType) (body : Bytes) :
    c.encode (.ofRaw t.raw) body = c.encode t body := by
  simp only [encode, Message.toBytes, Message.header, Message.of, Message.declaredLength, PayloadType.raw_ofRaw]

theorem declared_toBytes (m : Message) : declared m.toBytes = m.declaredLength := by
  have hfield : (m.toBytes.drop 4).take 4 = be 4 m.declaredLength := by
    obtain ⟨t₁, t₀, ht⟩ : ∃ t₁ t₀, be 2 m.type.raw.toNat = [t₁, t₀] := ⟨_, _, rfl⟩
    obtain ⟨l₃, l₂, l₁, l₀, hl⟩ : ∃ l₃ l₂ l₁ l₀, be 4 m.declaredLength = [l₃, l₂, l₁, l₀] := ⟨_, _, _, _, rfl⟩
    simp only [Message.toBytes, Message.header, ht, hl]
    rfl
  have hlt : m.declaredLength < Nat.pow 256 4 := Nat.lt_succ_of_le (Nat.min_le_right _ _)
  rw [declared, hfield, ofBE_be, Nat.mod_eq_of_lt hlt]

theorem drop_header_toBytes (m : Message) : m.toBytes.drop headerLength = m.payload := by
  rw [Message.toBytes, ← m.length_header, List.drop_left]

/-! The test of the sender. -/

theorem encodeWithin_fits (hfits : body.length ≤ c.limit.toNat) : c.encodeWithin t body = .ok (c.encode t body) :=
  if_pos hfits

theorem encodeWithin_large (hlarge : c.limit.toNat < body.length) :
    c.encodeWithin t body = .error (.payloadTooLarge body.length c.limit.toNat) :=
  if_neg (Nat.not_le.2 hlarge)

theorem declared_of_encodeWithin (hok : c.encodeWithin t body = .ok frame) :
    declared frame = (frame.drop headerLength).length := by
  rcases Nat.lt_or_ge c.limit.toNat body.length with hlarge | hfits
  · rw [encodeWithin_large hlarge] at hok
    cases hok
  · rw [encodeWithin_fits hfits] at hok
    obtain rfl := Except.ok.inj hok
    rw [encode, declared_toBytes, drop_header_toBytes]
    exact Nat.min_eq_left (Nat.le_trans hfits c.limit_le)

/-! The test of the receiver. -/

theorem decode_fits (hfits : body.length ≤ c.limit.toNat) :
    c.decode (c.encode t body) = .ok (.of c.version (.ofRaw t.raw) body) := by
  rw [← encode_ofRaw]
  exact c.decode_encode_self (PayloadType.canonical_ofRaw _) hfits

theorem decode_large (hle : body.length ≤ maxDeclaredLength) (hlarge : c.limit.toNat < body.length) :
    c.decode (c.encode t body) = .error (.malformedLength body.length c.limit.toNat) := by
  apply decode_of_error
  rw [encode, ← List.append_nil (Message.toBytes _)]
  exact decodeHeader_oversized hle hlarge []

/-- The limit under which a payload is sent is the limit under which its frame is read. As long as the length field can
hold the length of the body, both sides accept or both refuse, for the same length and the same limit, and what is
accepted is the one frame of the payload, from which the body is read back in full. Whatever the length, a frame that
is handed out declares the number of bytes that follow its header. -/
theorem limits_agree (c : Codec) (p : Payload) :
    (p.encode.length < Nat.pow 2 32 →
      ((∃ frame, c.encodePayloadWithin p = .ok frame) ↔ ∃ m, c.decode (c.encodePayload p) = .ok m) ∧
      (∀ frame, c.encodePayloadWithin p = .ok frame →
        frame = c.encodePayload p ∧ c.decode frame = .ok (.of c.version (.ofRaw p.type.raw) p.encode)) ∧
      ∀ length limit,
        (c.encodePayloadWithin p = .error (.payloadTooLarge length limit) ↔
          c.decode (c.encodePayload p) = .error (.malformedLength length limit)) ∧
        (c.encodePayloadWithin p = .error (.payloadTooLarge length limit) →
          length = p.encode.length ∧ limit = c.limit.toNat)) ∧
    ∀ frame, c.encodePayloadWithin p = .ok frame → declared frame = (frame.drop headerLength).length := by
  refine ⟨fun hshort => ?_, fun frame => declared_of_encodeWithin⟩
  rcases Nat.lt_or_ge c.limit.toNat p.encode.length with hlarge | hfits
  · have hsend : c.encodePayloadWithin p = .error (.payloadTooLarge p.encode.length c.limit.toNat) :=
      encodeWithin_large hlarge
    have hread : c.decode (c.encodePayload p) = .error (.malformedLength p.encode.length c.limit.toNat) :=
      decode_large (Nat.le_of_lt_succ hshort) hlarge
    rw [hsend, hread]
    refine ⟨by simp, nofun, fun length limit => ⟨by simp, fun he => ?_⟩⟩
    cases he
    exact ⟨rfl, rfl⟩
  · have hsend : c.encodePayloadWithin p = .ok (c.encodePayload p) := encodeWithin_fits hfits
    have hread : c.decode (c.encodePayload p) = .ok (.of c.version (.ofRaw p.type.raw) p.encode) := decode_fits hfits
    refine ⟨⟨fun _ => ⟨_, hread⟩, fun _ => ⟨_, hsend⟩⟩, fun frame hframe => ?_, fun length limit => ⟨?_, ?_⟩⟩
    · obtain rfl := Except.ok.inj (hsend.symm.trans hframe)
      exact ⟨rfl, hread⟩
    · rw [hsend, hread]
      simp
    · rw [hsend]
      exact nofun

/-- A message of nine bytes under limits of nine and of eight bytes. -/
theorem limits_agree_at_nine :
    let p : Payload := .diagnosticMessage ⟨0x0E80, 0x1010, [0x22, 0xF1, 0x90, 0x00, 0x01]⟩
    p.encode.length < Nat.pow 2 32 ∧
    (Codec.mk 2 9).encodePayloadWithin p = .ok ((Codec.mk 2 9).encodePayload p) ∧
    (Codec.mk 2 9).decode ((Codec.mk 2 9).encodePayload p) = .ok (.of 2 .diagnosticMessage p.encode) ∧
    declared ((Codec.mk 2 9).encodePayload p) = 9 ∧
    (Codec.mk 2 8).encodePayloadWithin p = .error (.payloadTooLarge 9 8) ∧
    (Codec.mk 2 8).decode ((Codec.mk 2 8).encodePayload p) = .error (.malformedLength 9 8) := by
  intro p
  have hshort : p.encode.length < Nat.pow 2 32 := by decide
  have hsent : (Codec.mk 2 9).encodePayloadWithin p = .ok ((Codec.mk 2 9).encodePayload p) := rfl
  have hrefused : (Codec.mk 2 8).encodePayloadWithin p = .error (.payloadTooLarge 9 8) := rfl
  obtain ⟨hnine, hdeclared⟩ := limits_agree ⟨2, 9⟩ p
  obtain ⟨-, hread, -⟩ := hnine hshort
  obtain ⟨-, -, height⟩ := (limits_agree ⟨2, 8⟩ p).1 hshort
  exact ⟨hshort, hsent, (hread _ hsent).2, hdeclared _ hsent, hrefused, (height 9 8).1.1 hrefused⟩

end Doip.Codec
