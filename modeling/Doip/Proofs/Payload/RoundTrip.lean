import Doip.Proofs.Frame.Decode
import Doip.Proofs.Payload.Diagnostic

/-! Typed payloads survive the wire. Each kind is read back from the body it is written as (`ofBody_encode`), optional
fields included, which are told by the length alone. With the frame around it the payload is recovered whole, so two
payloads never share a frame (`decode_encodePayload`). -/

namespace Doip

def ActivationType.Canonical : ActivationType → Prop
  | other raw => ofRaw raw = other raw
  | _ => True

theorem ActivationType.ofRaw_raw {t : ActivationType} (ht : t.Canonical) : ofRaw t.raw = t := by
  cases t with
  | other raw => exact ht
  | _ => rfl

theorem ActivationType.canonical_ofRaw (n : UInt8) : (ofRaw n).Canonical := by
  cases h : ofRaw n with
  | other raw =>
    have hraw := raw_ofRaw n
    rw [h] at hraw
    obtain rfl : raw = n := hraw
    exact h
  | _ => trivial

def ActivationCode.Canonical : ActivationCode → Prop
  | other raw => ofRaw raw = other raw
  | _ => True

theorem ActivationCode.ofRaw_raw {code : ActivationCode} (hcode : code.Canonical) : ofRaw code.raw = code := by
  cases code with
  | other raw => exact hcode
  | _ => rfl

theorem ActivationCode.canonical_ofRaw (n : UInt8) : (ofRaw n).Canonical := by
  cases h : ofRaw n with
  | other raw =>
    have hraw := raw_ofRaw n
    rw [h] at hraw
    obtain rfl : raw = n := hraw
    exact h
  | _ => trivial

theorem ActivationCode.ofRaw_eq_routingSuccessful_iff {n : UInt8} : ofRaw n = .routingSuccessful ↔ n = 0x10 := by
  constructor
  · intro h
    have hraw := raw_ofRaw n
    rw [h] at hraw
    exact hraw.symm
  · rintro rfl
    rfl

/-! Bodies with a layout of their own. -/

/-- A field is read at the place where it was written. -/
theorem Octets.slice_eq {n start : Nat} {bs before after : Bytes} {o : Octets n}
    (hbs : bs = before ++ (o.bytes ++ after)) (hbefore : before.length = start) (h : start + n ≤ bs.length) :
    slice bs start n h = o := by
  subst hbs hbefore
  apply Octets.ext
  show ((before ++ (o.bytes ++ after)).drop before.length).take n = o.bytes
  rw [List.drop_left, List.take_left' o.length_bytes]

theorem IdentificationRequest.parse_encode (r : IdentificationRequest) :
    IdentificationRequest.parse r.type r.encode = .ok r := by
  cases r with
  | any => rfl
  | eid e => exact dif_pos e.length_bytes
  | vin v => exact dif_pos v.length_bytes

theorem Announcement.parse_encode (a : Announcement) : Announcement.parse a.encode = .ok a := by
  obtain ⟨logical, vin, eid, gid, further, sync⟩ := a
  obtain ⟨hi, lo, hlogical, hread⟩ := addressBytes_eq logical
  -- the same body, cut in front of each of its fields
  have hhead : encode ⟨logical, vin, eid, gid, further, sync⟩ =
      hi :: lo :: (vin.bytes ++ (eid.bytes ++ (gid.bytes ++ further :: sync.toList))) := by
    simp only [encode, hlogical, List.append_assoc, List.cons_append, List.nil_append]
  generalize encode ⟨logical, vin, eid, gid, further, sync⟩ = bs at hhead
  have hvin : bs = [hi, lo] ++ (vin.bytes ++ (eid.bytes ++ (gid.bytes ++ further :: sync.toList))) := hhead
  have heid : bs = ([hi, lo] ++ vin.bytes) ++ (eid.bytes ++ (gid.bytes ++ further :: sync.toList)) := by
    rw [List.append_assoc, hvin]
  have hgid : bs = ([hi, lo] ++ vin.bytes ++ eid.bytes) ++ (gid.bytes ++ further :: sync.toList) := by
    rw [List.append_assoc, heid]
  have hfurther : bs = ([hi, lo] ++ vin.bytes ++ eid.bytes ++ gid.bytes) ++ further :: sync.toList := by
    rw [List.append_assoc _ gid.bytes, hgid]
  have hfront : ([hi, lo] ++ vin.bytes ++ eid.bytes ++ gid.bytes).length = 31 := by
    simp only [List.length_append, List.length_cons, List.length_nil, Octets.length_bytes]
  have hlen : bs.length = 32 ∨ bs.length = 33 := by
    rw [hfurther, List.length_append, hfront]
    cases sync with
    | none => exact .inl rfl
    | some status => exact .inr rfl
  have hsync : bs[32]? = sync := by
    rw [hfurther, List.getElem?_append_right (by omega), hfront]
    cases sync with
    | none => rfl
    | some status => rfl
  rw [parse, dif_pos hlen]
  simp only [Except.ok.injEq, Announcement.mk.injEq]
  refine ⟨?_, Octets.slice_eq hvin rfl _, Octets.slice_eq heid ?_ _, Octets.slice_eq hgid ?_ _,
    List.getElem_of_append hfurther hfront, hsync⟩
  · subst hhead
    exact hread
  · simp only [List.length_append, List.length_cons, List.length_nil, Octets.length_bytes]
  · simp only [List.length_append, List.length_cons, List.length_nil, Octets.length_bytes]

theorem ActivationRequest.parse_encode {r : ActivationRequest} (ht : r.type.Canonical) :
    ActivationRequest.parse r.encode = .ok r := by
  obtain ⟨source, type, oem⟩ := r
  obtain ⟨s₁, s₀, hs, hsource⟩ := addressBytes_eq source
  have htype : ActivationType.ofRaw type.raw = type := ActivationType.ofRaw_raw ht
  cases oem with
  | none =>
    simp only [encode, hs, oemBytes]
    show Except.ok (ActivationRequest.mk (address s₁ s₀) (.ofRaw type.raw) none) = _
    rw [hsource, htype]
  | some oem =>
    obtain ⟨bytes, hlen⟩ := oem
    match bytes, hlen with
    | [o₀, o₁, o₂, o₃], _ =>
      simp only [encode, hs, oemBytes]
      show Except.ok (ActivationRequest.mk (address s₁ s₀) (.ofRaw type.raw) (some ⟨[o₀, o₁, o₂, o₃], rfl⟩)) = _
      rw [hsource, htype]

theorem ActivationResponse.parse_encode {r : ActivationResponse} (hcode : r.code.Canonical) :
    ActivationResponse.parse r.encode = .ok r := by
  obtain ⟨client, server, code, oem⟩ := r
  obtain ⟨c₁, c₀, hc, hclient⟩ := addressBytes_eq client
  obtain ⟨s₁, s₀, hs, hserver⟩ := addressBytes_eq server
  have hraw : ActivationCode.ofRaw code.raw = code := ActivationCode.ofRaw_raw hcode
  cases oem with
  | none =>
    simp only [encode, hc, hs, oemBytes]
    show Except.ok (ActivationResponse.mk (address c₁ c₀) (address s₁ s₀) (.ofRaw code.raw) none) = _
    rw [hclient, hserver, hraw]
  | some oem =>
    obtain ⟨bytes, hlen⟩ := oem
    match bytes, hlen with
    | [o₀, o₁, o₂, o₃], _ =>
      simp only [encode, hc, hs, oemBytes]
      show Except.ok (ActivationResponse.mk (address c₁ c₀) (address s₁ s₀) (.ofRaw code.raw)
        (some ⟨[o₀, o₁, o₂, o₃], rfl⟩)) = _
      rw [hclient, hserver, hraw]

theorem AliveCheckResponse.parse_addressBytes (source : Address) :
    AliveCheckResponse.parse (addressBytes source) = .ok source := by
  obtain ⟨s₁, s₀, hs, hsource⟩ := addressBytes_eq source
  rw [hs, AliveCheckResponse.parse, hsource]

namespace Payload

/-- A payload with a body of its own in which no assigned number is given as `other`. -/
def Canonical : Payload → Prop
  | activationRequest r => r.type.Canonical
  | activationResponse r => r.code.Canonical
  | unhandled _ => False
  | _ => True

theorem ofBody_encode {p : Payload} (hp : p.Canonical) : ofBody p.type p.encode = .ok p := by
  cases p with
  | genericNack code => rfl
  | identificationRequest r =>
    have hkind : ofBody r.type r.encode = identificationRequest <$> IdentificationRequest.parse r.type r.encode := by
      cases r <;> rfl
    exact hkind.trans (congrArg (identificationRequest <$> ·) r.parse_encode)
  | announcement a => exact congrArg (announcement <$> ·) a.parse_encode
  | activationRequest r => exact congrArg (activationRequest <$> ·) (ActivationRequest.parse_encode hp)
  | activationResponse r => exact congrArg (activationResponse <$> ·) (ActivationResponse.parse_encode hp)
  | aliveCheckRequest => rfl
  | aliveCheckResponse source =>
    exact congrArg (aliveCheckResponse <$> ·) (AliveCheckResponse.parse_addressBytes source)
  | diagnosticMessage m => exact congrArg (diagnosticMessage <$> ·) m.parse_encode
  | diagnosticMessageAck a => exact congrArg (diagnosticMessageAck <$> ·) (a.parse_encode .diagnosticMessageAck)
  | diagnosticMessageNack a => exact congrArg (diagnosticMessageNack <$> ·) (a.parse_encode .diagnosticMessageNack)
  | unhandled t => exact hp.elim

theorem canonical_type {p : Payload} (hp : p.Canonical) : p.type.Canonical := by
  cases p with
  | identificationRequest r => cases r <;> rfl
  | unhandled t => exact hp.elim
  | _ => rfl

end Payload

namespace Codec

/-- Whatever version a frame is written with, another codec reads it. -/
theorem decode_encode (c c' : Codec) {t : PayloadType} {body : Bytes} (ht : t.Canonical)
    (hfits : body.length ≤ c'.limit.toNat) : c'.decode (c.encode t body) = .ok (.of c.version t body) := by
  have hm : c'.Admits (.of c.version t body) := c'.admits_of ht hfits c.version
  exact decode_eq_ok_iff.2 ⟨[], splitFrame_eq_some_iff.2 ⟨hm, (List.append_nil _).symm⟩⟩

theorem decode_encode_self (c : Codec) {t : PayloadType} {body : Bytes} (ht : t.Canonical)
    (hfits : body.length ≤ c.limit.toNat) : c.decode (c.encode t body) = .ok (.of c.version t body) :=
  c.decode_encode c ht hfits

/-- Every typed payload whose body is within the limit is read back from its frame, and no other one, of the same kind
or of another, has that frame. -/
theorem decode_encodePayload (c : Codec) {p : Payload} (hp : p.Canonical) (hfits : p.encode.length ≤ c.limit.toNat) :
    c.decode (c.encodePayload p) = .ok (.of c.version p.type p.encode) ∧
      Payload.parse (.of c.version p.type p.encode) = .ok p ∧
      ∀ q : Payload, q.Canonical → q.encode.length ≤ c.limit.toNat → q ≠ p →
        c.encodePayload q ≠ c.encodePayload p := by
  have hdecode := c.decode_encode_self (Payload.canonical_type hp) hfits
  have hparse : Payload.parse (.of c.version p.type p.encode) = .ok p := Payload.ofBody_encode hp
  refine ⟨hdecode, hparse, fun q hq hqfits hne hsame => hne ?_⟩
  have hqdecode := c.decode_encode_self (Payload.canonical_type hq) hqfits
  have hmessage : Message.of c.version q.type q.encode = .of c.version p.type p.encode :=
    Except.ok.inj (hqdecode.symm.trans ((congrArg c.decode hsame).trans hdecode))
  have hqparse : Payload.parse (.of c.version q.type q.encode) = .ok q := Payload.ofBody_encode hq
  rw [hmessage, hparse] at hqparse
  exact (Except.ok.inj hqparse).symm

/-- A response with a code of the manufacturer's and four bytes of theirs is read back whole at a limit of thirteen
bytes, and without them it has another frame. -/
theorem decode_manufacturer_response :
    let c : Codec := { limit := 13 }
    let p : Payload := .activationResponse { client := 0x0E80, server := 0xFA25, code := .other 0xA5,
                                             oem := some ⟨[1, 2, 3, 4], rfl⟩ }
    let q : Payload := .activationResponse { client := 0x0E80, server := 0xFA25, code := .other 0xA5 }
    p.Canonical ∧ p.encode.length ≤ c.limit.toNat ∧
      c.decode (c.encodePayload p) = .ok (.of defaultVersion .routingActivationResponse p.encode) ∧
      Payload.parse (.of defaultVersion .routingActivationResponse p.encode) = .ok p ∧
      q.Canonical ∧ q.encode.length ≤ c.limit.toNat ∧ q ≠ p ∧ c.encodePayload q ≠ c.encodePayload p := by
  intro c p q
  have hp : p.Canonical := (rfl : ActivationCode.ofRaw 0xA5 = .other 0xA5)
  have hq : q.Canonical := (rfl : ActivationCode.ofRaw 0xA5 = .other 0xA5)
  have hfits : p.encode.length ≤ c.limit.toNat := by decide
  have hqfits : q.encode.length ≤ c.limit.toNat := by decide
  have hne : q ≠ p := by decide
  obtain ⟨hdecode, hparse, hothers⟩ := decode_encodePayload c hp hfits
  exact ⟨hp, hfits, hdecode, hparse, hq, hqfits, hne, hothers q hq hqfits hne⟩

end Codec
end Doip
