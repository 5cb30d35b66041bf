import Doip.Proofs.Frame.Verdict
import Doip.Proofs.Payload.RoundTrip

/-! The layouts of the bodies. `Layout` says field by field which bytes stand for which payload, what is reserved and
what may follow, and `ofBody` reads exactly these bodies (`ofBody_eq_ok_iff`). The length alone decides
(`exists_layout`): a body of another length is refused in the name of its type. Reading with every position checked
comes to the same (`checkedBody_eq`), and what has been read is read again from its own encoding (`parse_layout`). -/

namespace Doip

theorem addressBytes_address (hi lo : UInt8) : addressBytes (address hi lo) = [hi, lo] := Codec.be_ofBE_word hi lo

theorem Octets.exists_append {n : Nat} {bs : Bytes} (hlen : n ≤ bs.length) :
    ∃ (o : Octets n) (rest : Bytes), bs = o.bytes ++ rest ∧ bs.length = n + rest.length := by
  refine ⟨⟨bs.take n, List.length_take_of_le hlen⟩, bs.drop n, (List.take_append_drop n bs).symm, ?_⟩
  rw [List.length_drop, Nat.add_sub_cancel' hlen]

theorem Octets.exists_four (o : Octets 4) : ∃ b₀ b₁ b₂ b₃, o = ⟨[b₀, b₁, b₂, b₃], rfl⟩ := by
  obtain ⟨bytes, hlen⟩ := o
  match bytes, hlen with
  | [b₀, b₁, b₂, b₃], _ => exact ⟨b₀, b₁, b₂, b₃, rfl⟩

/-! The bodies that keep all their bytes: each is written by the fields it is cut into. -/

theorem DiagnosticMessage.exists_encode {bs : Bytes} (hlen : 4 ≤ bs.length) :
    ∃ m : DiagnosticMessage, m.encode = bs := by
  match bs, hlen with
  | s₁ :: s₀ :: t₁ :: t₀ :: data, _ =>
    refine ⟨⟨address s₁ s₀, address t₁ t₀, data⟩, ?_⟩
    rw [encode, addressBytes_address, addressBytes_address]
    rfl

theorem Acknowledgement.exists_encode {bs : Bytes} (hlen : 5 ≤ bs.length) :
    ∃ a : Acknowledgement, a.encode = bs := by
  match bs, hlen with
  | s₁ :: s₀ :: t₁ :: t₀ :: code :: previous, _ =>
    refine ⟨⟨address s₁ s₀, address t₁ t₀, code, previous⟩, ?_⟩
    rw [encode, addressBytes_address, addressBytes_address]
    rfl

theorem ActivationRequest.parse_refused {bs : Bytes} (hlen : ¬(bs.length = 7 ∨ bs.length = 11)) :
    parse bs = .error (.malformedPayload .routingActivationRequest s!"expected 7 or 11 bytes, got {bs.length}") := by
  unfold parse
  split
  · exact absurd (.inl rfl) hlen
  · exact absurd (.inr rfl) hlen
  · rfl

theorem Announcement.exists_encode {bs : Bytes} (hlen : bs.length = 32 ∨ bs.length = 33) :
    ∃ a : Announcement, a.encode = bs := by
  match bs, hlen with
  | a₁ :: a₀ :: fields, hlen =>
    simp only [List.length_cons] at hlen
    obtain ⟨vin, behindVin, rfl, hvin⟩ := Octets.exists_append (show 17 ≤ fields.length by omega)
    obtain ⟨eid, behindEid, rfl, heid⟩ := Octets.exists_append (show 6 ≤ behindVin.length by omega)
    obtain ⟨gid, behindGid, rfl, hgid⟩ := Octets.exists_append (show 6 ≤ behindEid.length by omega)
    have hstatus : behindGid.length = 1 ∨ behindGid.length = 2 := by omega
    obtain ⟨further, sync, rfl⟩ : ∃ further, ∃ sync : Option UInt8, further :: sync.toList = behindGid := by
      match behindGid, hstatus with
      | [further], _ => exact ⟨further, none, rfl⟩
      | [further, sync], _ => exact ⟨further, some sync, rfl⟩
    refine ⟨⟨address a₁ a₀, vin, eid, gid, further, sync⟩, ?_⟩
    simp only [encode, addressBytes_address, List.append_assoc, List.cons_append, List.nil_append]

namespace PayloadType

/-- Whether a body of a type can have a length; one of an unassigned type is never read. -/
def admits : PayloadType → Nat → Bool
  | genericNack, n => 1 ≤ n
  | vehicleIdentificationRequestEid, n => n = 6
  | vehicleIdentificationRequestVin, n => n = 17
  | vehicleAnnouncement, n => n = 32 ∨ n = 33
  | routingActivationRequest, n => n = 7 ∨ n = 11
  | routingActivationResponse, n => 5 ≤ n
  | aliveCheckResponse, n => 2 ≤ n
  | diagnosticMessage, n => 4 ≤ n
  | diagnosticMessageAck, n => 5 ≤ n
  | diagnosticMessageNack, n => 5 ≤ n
  | unknown _, _ => false
  | _, _ => true

def refusal (t : PayloadType) (n : Nat) : String :=
  match t with
  | genericNack => s!"expected at least 1 bytes, got {n}"
  | vehicleIdentificationRequestEid | vehicleIdentificationRequestVin => s!"unexpected length {n}"
  | vehicleAnnouncement => s!"expected 32 or 33 bytes, got {n}"
  | routingActivationRequest => s!"expected 7 or 11 bytes, got {n}"
  | routingActivationResponse => s!"expected at least 5 bytes, got {n}"
  | aliveCheckResponse => s!"expected at least 2 bytes, got {n}"
  | diagnosticMessage => s!"expected at least 4 bytes, got {n}"
  | diagnosticMessageAck | diagnosticMessageNack => s!"expected at least 5 bytes, got {n}"
  | _ => ""

/-- The types whose bodies are read without leaving a byte out. -/
def keepsAll : PayloadType → Bool
  | vehicleIdentificationRequestEid | vehicleIdentificationRequestVin | vehicleAnnouncement | diagnosticMessage
  | diagnosticMessageAck | diagnosticMessageNack => true
  | _ => false

end PayloadType

namespace Payload

/-- Which bytes stand for which payload. -/
inductive Layout : PayloadType → Bytes → Payload → Prop
  | genericNack (code : UInt8) (tail : Bytes) : Layout .genericNack (code :: tail) (.genericNack code)
  | anyone (bs : Bytes) : Layout .vehicleIdentificationRequest bs (.identificationRequest .any)
  | eid (eid : Octets 6) : Layout .vehicleIdentificationRequestEid eid.bytes (.identificationRequest (.eid eid))
  | vin (vin : Octets 17) : Layout .vehicleIdentificationRequestVin vin.bytes (.identificationRequest (.vin vin))
  | announcement (a : Announcement) : Layout .vehicleAnnouncement a.encode (.announcement a)
  | activationRequest (source : Address) (type : UInt8) (reserved : Octets 4) (oem : Option (Octets 4)) :
      Layout .routingActivationRequest (addressBytes source ++ type :: (reserved.bytes ++ oemBytes oem))
        (.activationRequest ⟨source, .ofRaw type, oem⟩)
  /-- Without the manufacturer's field, whatever there is of it and of the reserved bytes. -/
  | activationResponse (client server : Address) (code : UInt8) (tail : Bytes) (htail : tail.length < 8) :
      Layout .routingActivationResponse (addressBytes client ++ (addressBytes server ++ code :: tail))
        (.activationResponse ⟨client, server, .ofRaw code, none⟩)
  | manufacturerResponse (client server : Address) (code : UInt8) (reserved oem : Octets 4) (tail : Bytes) :
      Layout .routingActivationResponse
        (addressBytes client ++ (addressBytes server ++ code :: (reserved.bytes ++ (oem.bytes ++ tail))))
        (.activationResponse ⟨client, server, .ofRaw code, some oem⟩)
  | aliveCheckRequest (bs : Bytes) : Layout .aliveCheckRequest bs .aliveCheckRequest
  | aliveCheckResponse (source : Address) (tail : Bytes) :
      Layout .aliveCheckResponse (addressBytes source ++ tail) (.aliveCheckResponse source)
  | diagnosticMessage (m : DiagnosticMessage) : Layout .diagnosticMessage m.encode (.diagnosticMessage m)
  | diagnosticMessageAck (a : Acknowledgement) : Layout .diagnosticMessageAck a.encode (.diagnosticMessageAck a)
  | diagnosticMessageNack (a : Acknowledgement) : Layout .diagnosticMessageNack a.encode (.diagnosticMessageNack a)
  | unhandled (t : PayloadType) (bs : Bytes)
      (ht : t ∈ [.entityStatusRequest, .entityStatusResponse, .powerModeRequest, .powerModeResponse]) :
      Layout t bs (.unhandled t)

variable {t : PayloadType} {bs : Bytes} {p : Payload}

theorem Layout.ofBody (hl : Layout t bs p) : ofBody t bs = .ok p := by
  cases hl with
  | genericNack code tail => rfl
  | anyone bs => rfl
  | eid eid => exact ofBody_encode (p := .identificationRequest (.eid eid)) trivial
  | vin vin => exact ofBody_encode (p := .identificationRequest (.vin vin)) trivial
  | announcement a => exact ofBody_encode (p := .announcement a) trivial
  | activationRequest source type reserved oem =>
    obtain ⟨s₁, s₀, hs, rfl⟩ := addressBytes_eq source
    obtain ⟨r₀, r₁, r₂, r₃, rfl⟩ := reserved.exists_four
    rw [hs]
    cases oem with
    | none => rfl
    | some oem =>
      obtain ⟨o₀, o₁, o₂, o₃, rfl⟩ := oem.exists_four
      rfl
  | activationResponse client server code tail htail =>
    obtain ⟨c₁, c₀, hc, rfl⟩ := addressBytes_eq client
    obtain ⟨s₁, s₀, hs, rfl⟩ := addressBytes_eq server
    rw [hc, hs]
    match tail, htail with
    | [], _ | [_], _ | [_, _], _ | [_, _, _], _ | [_, _, _, _], _ | [_, _, _, _, _], _ | [_, _, _, _, _, _], _
    | [_, _, _, _, _, _, _], _ => rfl
  | manufacturerResponse client server code reserved oem tail =>
    obtain ⟨c₁, c₀, hc, rfl⟩ := addressBytes_eq client
    obtain ⟨s₁, s₀, hs, rfl⟩ := addressBytes_eq server
    obtain ⟨r₀, r₁, r₂, r₃, rfl⟩ := reserved.exists_four
    obtain ⟨o₀, o₁, o₂, o₃, rfl⟩ := oem.exists_four
    rw [hc, hs]
    rfl
  | aliveCheckRequest bs => rfl
  | aliveCheckResponse source tail =>
    obtain ⟨s₁, s₀, hs, rfl⟩ := addressBytes_eq source
    rw [hs]
    rfl
  | diagnosticMessage m => exact ofBody_encode (p := .diagnosticMessage m) trivial
  | diagnosticMessageAck a => exact ofBody_encode (p := .diagnosticMessageAck a) trivial
  | diagnosticMessageNack a => exact ofBody_encode (p := .diagnosticMessageNack a) trivial
  | unhandled t bs ht =>
    simp only [List.mem_cons, List.not_mem_nil, or_false] at ht
    rcases ht with rfl | rfl | rfl | rfl <;> rfl

/-- A length that is admitted is enough for a body to have the layout of its type. -/
theorem exists_layout (hadmits : t.admits bs.length) : ∃ p, Layout t bs p := by
  cases t with
  | genericNack =>
    match bs, hadmits with
    | code :: tail, _ => exact ⟨_, .genericNack code tail⟩
  | vehicleIdentificationRequest => exact ⟨_, .anyone bs⟩
  | vehicleIdentificationRequestEid => exact ⟨_, .eid ⟨bs, of_decide_eq_true hadmits⟩⟩
  | vehicleIdentificationRequestVin => exact ⟨_, .vin ⟨bs, of_decide_eq_true hadmits⟩⟩
  | vehicleAnnouncement =>
    have hlen : bs.length = 32 ∨ bs.length = 33 := of_decide_eq_true hadmits
    obtain ⟨a, rfl⟩ := Announcement.exists_encode hlen
    exact ⟨_, .announcement a⟩
  | routingActivationRequest =>
    have hlen : bs.length = 7 ∨ bs.length = 11 := of_decide_eq_true hadmits
    match bs, hlen with
    | s₁ :: s₀ :: type :: fields, hlen =>
      simp only [List.length_cons] at hlen
      obtain ⟨reserved, rest, rfl, hrest⟩ := Octets.exists_append (show 4 ≤ fields.length by omega)
      obtain ⟨oem, rfl⟩ : ∃ oem, oemBytes oem = rest := by
        rcases hlen with hshort | hlong
        · have hempty : rest.length = 0 := by omega
          exact ⟨none, (List.length_eq_zero_iff.1 hempty).symm⟩
        · have hfour : rest.length = 4 := by omega
          exact ⟨some ⟨rest, hfour⟩, rfl⟩
      have hl := Layout.activationRequest (address s₁ s₀) type reserved oem
      rw [addressBytes_address] at hl
      exact ⟨_, hl⟩
  | routingActivationResponse =>
    match bs, hadmits with
    | c₁ :: c₀ :: s₁ :: s₀ :: code :: tail, _ =>
      rcases Nat.lt_or_ge tail.length 8 with hshort | hlong
      · have hl := Layout.activationResponse (address c₁ c₀) (address s₁ s₀) code tail hshort
        rw [addressBytes_address, addressBytes_address] at hl
        exact ⟨_, hl⟩
      · obtain ⟨reserved, fields, rfl, hfields⟩ := Octets.exists_append (show 4 ≤ tail.length by omega)
        obtain ⟨oem, rest, rfl, -⟩ := Octets.exists_append (show 4 ≤ fields.length by omega)
        have hl := Layout.manufacturerResponse (address c₁ c₀) (address s₁ s₀) code reserved oem rest
        rw [addressBytes_address, addressBytes_address] at hl
        exact ⟨_, hl⟩
  | aliveCheckRequest => exact ⟨_, .aliveCheckRequest bs⟩
  | aliveCheckResponse =>
    match bs, hadmits with
    | s₁ :: s₀ :: tail, _ =>
      have hl := Layout.aliveCheckResponse (address s₁ s₀) tail
      rw [addressBytes_address] at hl
      exact ⟨_, hl⟩
  | diagnosticMessage =>
    obtain ⟨m, rfl⟩ := DiagnosticMessage.exists_encode (of_decide_eq_true hadmits)
    exact ⟨_, .diagnosticMessage m⟩
  | diagnosticMessageAck =>
    obtain ⟨a, rfl⟩ := Acknowledgement.exists_encode (of_decide_eq_true hadmits)
    exact ⟨_, .diagnosticMessageAck a⟩
  | diagnosticMessageNack =>
    obtain ⟨a, rfl⟩ := Acknowledgement.exists_encode (of_decide_eq_true hadmits)
    exact ⟨_, .diagnosticMessageNack a⟩
  | unknown raw => cases hadmits
  | _ => exact ⟨_, .unhandled _ bs (by decide)⟩

/-! Bodies of other lengths. -/

theorem ofBody_refused (ht : ∀ raw, t ≠ .unknown raw) (hlen : t.admits bs.length = false) :
    ofBody t bs = .error (.malformedPayload t (t.refusal bs.length)) := by
  cases t with
  | genericNack =>
    match bs, hlen with
    | [], _ => rfl
  | vehicleIdentificationRequestEid =>
    exact congrArg (identificationRequest <$> ·) (dif_neg (of_decide_eq_false hlen))
  | vehicleIdentificationRequestVin =>
    exact congrArg (identificationRequest <$> ·) (dif_neg (of_decide_eq_false hlen))
  | vehicleAnnouncement => exact congrArg (announcement <$> ·) (dif_neg (of_decide_eq_false hlen))
  | routingActivationRequest =>
    exact congrArg (activationRequest <$> ·) (ActivationRequest.parse_refused (of_decide_eq_false hlen))
  | routingActivationResponse =>
    match bs, hlen with
    | [], _ | [_], _ | [_, _], _ | [_, _, _], _ | [_, _, _, _], _ => rfl
  | aliveCheckResponse =>
    match bs, hlen with
    | [], _ | [_], _ => rfl
  | diagnosticMessage =>
    match bs, hlen with
    | [], _ | [_], _ | [_, _], _ | [_, _, _], _ => rfl
  | diagnosticMessageAck | diagnosticMessageNack =>
    match bs, hlen with
    | [], _ | [_], _ | [_, _], _ | [_, _, _], _ | [_, _, _, _], _ => rfl
  | unknown raw => exact absurd rfl (ht raw)
  | _ => cases hlen

theorem ofBody_cases (t : PayloadType) (bs : Bytes) :
    (∃ raw, t = .unknown raw) ∨
    ((∀ raw, t ≠ .unknown raw) ∧ t.admits bs.length = false ∧
      ofBody t bs = .error (.malformedPayload t (t.refusal bs.length))) ∨
    ((∀ raw, t ≠ .unknown raw) ∧ t.admits bs.length = true ∧ ∃ p, Layout t bs p ∧ ofBody t bs = .ok p) := by
  by_cases ht : ∃ raw, t = .unknown raw
  · exact .inl ht
  have hassigned := not_exists.1 ht
  cases hadmits : t.admits bs.length with
  | false => exact .inr (.inl ⟨hassigned, rfl, ofBody_refused hassigned hadmits⟩)
  | true =>
    obtain ⟨p, hp⟩ := exists_layout hadmits
    exact .inr (.inr ⟨hassigned, rfl, p, hp, hp.ofBody⟩)

theorem ofBody_eq_ok_iff : ofBody t bs = .ok p ↔ Layout t bs p := by
  refine ⟨fun hok => ?_, Layout.ofBody⟩
  rcases ofBody_cases t bs with ⟨raw, rfl⟩ | ⟨-, -, hrefused⟩ | ⟨-, -, q, hq, hread⟩
  · cases hok
  · rw [hrefused] at hok
    cases hok
  · rwa [← Except.ok.inj (hread.symm.trans hok)]

/-! Reading with every position checked: first the length, then each field at its place. -/

/-- The address at a position of a body, if both its bytes are in it. -/
def address? (bs : Bytes) (start : Nat) : Option Address := do
  return address (← bs[start]?) (← bs[start + 1]?)

/-- The field of `n` bytes at a position of a body, if all of it is in it. -/
def octets? (n : Nat) (bs : Bytes) (start : Nat) : Option (Octets n) := do
  Octets.ofBytes? n (← Codec.slice? bs start (start + n))

def fields? (type : PayloadType) (bs : Bytes) : Option Payload :=
  match type with
  | .genericNack => do return genericNack (← bs[0]?)
  | .vehicleIdentificationRequest => some (identificationRequest .any)
  | .vehicleIdentificationRequestEid => do return identificationRequest (.eid (← octets? 6 bs 0))
  | .vehicleIdentificationRequestVin => do return identificationRequest (.vin (← octets? 17 bs 0))
  | .vehicleAnnouncement => do
    return announcement {
      logicalAddress := ← address? bs 0
      vin := ← octets? 17 bs 2
      eid := ← octets? 6 bs 19
      gid := ← octets? 6 bs 25
      furtherAction := ← bs[31]?
      syncStatus := bs[32]? }
  | .routingActivationRequest => do
    let oem ← if bs.length = 11 then some <$> octets? 4 bs 7 else some none
    return activationRequest ⟨← address? bs 0, .ofRaw (← bs[2]?), oem⟩
  | .routingActivationResponse => do
    let oem ← if 13 ≤ bs.length then some <$> octets? 4 bs 9 else some none
    return activationResponse ⟨← address? bs 0, ← address? bs 2, .ofRaw (← bs[4]?), oem⟩
  | .aliveCheckRequest => some aliveCheckRequest
  | .aliveCheckResponse => do return aliveCheckResponse (← address? bs 0)
  | .diagnosticMessage => do
    return diagnosticMessage ⟨← address? bs 0, ← address? bs 2, ← Codec.slice? bs 4 bs.length⟩
  | .diagnosticMessageAck => do
    return diagnosticMessageAck ⟨← address? bs 0, ← address? bs 2, ← bs[4]?, ← Codec.slice? bs 5 bs.length⟩
  | .diagnosticMessageNack => do
    return diagnosticMessageNack ⟨← address? bs 0, ← address? bs 2, ← bs[4]?, ← Codec.slice? bs 5 bs.length⟩
  | .unknown _ => none
  | other => some (unhandled other)

def checkedBody (type : PayloadType) (bs : Bytes) : Option (Except FrameError Payload) :=
  match type with
  | .unknown raw => some (.error (.unknownType raw))
  | type =>
    if type.admits bs.length then .ok <$> fields? type bs
    else some (.error (.malformedPayload type (type.refusal bs.length)))

theorem octets?_eq {n start : Nat} (hin : start + n ≤ bs.length) :
    octets? n bs start = some (.slice bs start n hin) := by
  have hslice : Codec.slice? bs start (start + n) = some ((bs.drop start).take n) := by
    rw [Codec.slice?, if_pos ⟨Nat.le_add_right _ _, hin⟩, List.drop_take, Nat.add_sub_cancel_left]
  rw [octets?, hslice]
  exact dif_pos (Octets.slice bs start n hin).length_bytes

theorem octets?_field {n start : Nat} {before after : Bytes} {o : Octets n} (hbs : bs = before ++ (o.bytes ++ after))
    (hbefore : before.length = start) : octets? n bs start = some o := by
  have hin : start + n ≤ bs.length := by
    rw [hbs, ← hbefore, List.length_append, List.length_append, o.length_bytes]
    omega
  rw [octets?_eq hin, Octets.slice_eq hbs hbefore hin]

theorem slice?_tail {start : Nat} (hin : start ≤ bs.length) :
    Codec.slice? bs start bs.length = some (bs.drop start) := by
  rw [Codec.slice?, if_pos ⟨hin, Nat.le_refl _⟩, List.take_length]

theorem fields?_announcement (a : Announcement) : fields? .vehicleAnnouncement a.encode = some (announcement a) := by
  have hparse := a.parse_encode
  generalize a.encode = bs at hparse ⊢
  rw [Announcement.parse] at hparse
  split at hparse
  next hlen =>
    have hat (i : Nat) (hi : i < bs.length) : bs[i]? = some (bs.get ⟨i, hi⟩) := List.getElem?_eq_getElem hi
    obtain rfl := Except.ok.inj hparse
    simp only [fields?, address?]
    rw [hat 0 (by omega), hat 1 (by omega), hat 31 (by omega), octets?_eq (show 2 + 17 ≤ bs.length by omega),
      octets?_eq (show 19 + 6 ≤ bs.length by omega), octets?_eq (show 25 + 6 ≤ bs.length by omega)]
    rfl
  next => cases hparse

theorem Layout.fields (hl : Layout t bs p) : fields? t bs = some p := by
  cases hl with
  | genericNack code tail => rfl
  | anyone bs => rfl
  | eid eid =>
    have hwhole : eid.bytes = [] ++ (eid.bytes ++ []) := (List.append_nil _).symm
    have hread : octets? 6 eid.bytes 0 = some eid := octets?_field hwhole rfl
    simp only [fields?, hread]
    rfl
  | vin vin =>
    have hwhole : vin.bytes = [] ++ (vin.bytes ++ []) := (List.append_nil _).symm
    have hread : octets? 17 vin.bytes 0 = some vin := octets?_field hwhole rfl
    simp only [fields?, hread]
    rfl
  | announcement a => exact fields?_announcement a
  | activationRequest source type reserved oem =>
    obtain ⟨s₁, s₀, hs, rfl⟩ := addressBytes_eq source
    obtain ⟨r₀, r₁, r₂, r₃, rfl⟩ := reserved.exists_four
    rw [hs]
    cases oem with
    | none => rfl
    | some oem =>
      obtain ⟨o₀, o₁, o₂, o₃, rfl⟩ := oem.exists_four
      rfl
  | activationResponse client server code tail htail =>
    obtain ⟨c₁, c₀, hc, rfl⟩ := addressBytes_eq client
    obtain ⟨s₁, s₀, hs, rfl⟩ := addressBytes_eq server
    rw [hc, hs]
    have hshort : ¬13 ≤ ([c₁, c₀] ++ ([s₁, s₀] ++ code :: tail)).length := by
      simp only [List.length_append, List.length_cons, List.length_nil]
      omega
    simp only [fields?, if_neg hshort]
    rfl
  | manufacturerResponse client server code reserved oem tail =>
    obtain ⟨c₁, c₀, hc, rfl⟩ := addressBytes_eq client
    obtain ⟨s₁, s₀, hs, rfl⟩ := addressBytes_eq server
    obtain ⟨r₀, r₁, r₂, r₃, rfl⟩ := reserved.exists_four
    rw [hc, hs]
    have hcut : [c₁, c₀] ++ ([s₁, s₀] ++ code :: ([r₀, r₁, r₂, r₃] ++ (oem.bytes ++ tail))) =
        [c₁, c₀, s₁, s₀, code, r₀, r₁, r₂, r₃] ++ (oem.bytes ++ tail) := rfl
    have hlong : 13 ≤ ([c₁, c₀] ++ ([s₁, s₀] ++ code :: ([r₀, r₁, r₂, r₃] ++ (oem.bytes ++ tail)))).length := by
      simp only [List.length_append, List.length_cons, List.length_nil, oem.length_bytes]
      omega
    have hread : octets? 4 ([c₁, c₀] ++ ([s₁, s₀] ++ code :: ([r₀, r₁, r₂, r₃] ++ (oem.bytes ++ tail)))) 9 = some oem :=
      octets?_field hcut rfl
    simp only [fields?, if_pos hlong, hread]
    rfl
  | aliveCheckRequest bs => rfl
  | aliveCheckResponse source tail =>
    obtain ⟨s₁, s₀, hs, rfl⟩ := addressBytes_eq source
    rw [hs]
    rfl
  | diagnosticMessage m =>
    obtain ⟨source, target, data⟩ := m
    obtain ⟨s₁, s₀, hs, rfl⟩ := addressBytes_eq source
    obtain ⟨t₁, t₀, ht, rfl⟩ := addressBytes_eq target
    simp only [DiagnosticMessage.encode, hs, ht, fields?]
    rw [slice?_tail (by simp)]
    rfl
  | diagnosticMessageAck a | diagnosticMessageNack a =>
    obtain ⟨source, target, code, previous⟩ := a
    obtain ⟨s₁, s₀, hs, rfl⟩ := addressBytes_eq source
    obtain ⟨t₁, t₀, ht, rfl⟩ := addressBytes_eq target
    simp only [Acknowledgement.encode, hs, ht, fields?]
    rw [slice?_tail (by simp)]
    rfl
  | unhandled t bs ht =>
    simp only [List.mem_cons, List.not_mem_nil, or_false] at ht
    rcases ht with rfl | rfl | rfl | rfl <;> rfl

theorem checkedBody_of_assigned (ht : ∀ raw, t ≠ .unknown raw) :
    checkedBody t bs =
      if t.admits bs.length then .ok <$> fields? t bs
      else some (.error (.malformedPayload t (t.refusal bs.length))) := by
  cases t with
  | unknown raw => exact absurd rfl (ht raw)
  | _ => rfl

theorem checkedBody_eq (t : PayloadType) (bs : Bytes) : checkedBody t bs = some (Payload.ofBody t bs) := by
  rcases ofBody_cases t bs with ⟨raw, rfl⟩ | ⟨ht, hlen, hrefused⟩ | ⟨ht, hlen, p, hp, hread⟩
  · rfl
  · rw [checkedBody_of_assigned ht, hrefused, hlen]
    rfl
  · rw [checkedBody_of_assigned ht, hread, hlen, hp.fields]
    rfl

/-! What has been read. -/

theorem Layout.type (hl : Layout t bs p) : p.type = t := by
  cases hl <;> rfl

theorem Layout.reread (hl : Layout t bs p) : Payload.ofBody p.type p.encode = .ok p := by
  cases hl with
  | activationRequest source type reserved oem => exact ofBody_encode (ActivationType.canonical_ofRaw type)
  | activationResponse client server code tail htail => exact ofBody_encode (ActivationCode.canonical_ofRaw code)
  | manufacturerResponse client server code reserved oem tail =>
    exact ofBody_encode (ActivationCode.canonical_ofRaw code)
  | unhandled t bs ht => exact (Layout.unhandled t [] ht).ofBody
  | _ => exact ofBody_encode trivial

theorem Layout.encode_eq (hl : Layout t bs p) (ht : t.keepsAll) : p.encode = bs := by
  cases hl with
  | eid | vin | announcement | diagnosticMessage | diagnosticMessageAck | diagnosticMessageNack => rfl
  | unhandled t bs hother =>
    simp only [List.mem_cons, List.not_mem_nil, or_false] at hother
    rcases hother with rfl | rfl | rfl | rfl <;> cases ht
  | _ => cases ht

theorem Layout.encode_request (hl : Layout .routingActivationRequest bs p) :
    p.encode.length = bs.length ∧ ∀ i, i < 3 ∨ 7 ≤ i → p.encode[i]? = bs[i]? := by
  cases hl with
  | activationRequest source type reserved oem =>
    obtain ⟨s₁, s₀, hs, -⟩ := addressBytes_eq source
    obtain ⟨r₀, r₁, r₂, r₃, rfl⟩ := reserved.exists_four
    have hencode : (Payload.activationRequest ⟨source, .ofRaw type, oem⟩).encode =
        s₁ :: s₀ :: type :: 0 :: 0 :: 0 :: 0 :: oemBytes oem := by
      simp only [encode, ActivationRequest.encode, hs, ActivationType.raw_ofRaw]
      rfl
    rw [hencode, hs]
    refine ⟨rfl, fun i hi => ?_⟩
    rcases hi with hfront | hbehind
    · obtain rfl | rfl | rfl : i = 0 ∨ i = 1 ∨ i = 2 := by omega
      all_goals rfl
    · obtain ⟨j, rfl⟩ := Nat.exists_eq_add_of_le' hbehind
      rfl
  | unhandled t bs hother => simp at hother

/-- A body is read exactly when its length is one that its type admits, and what is read is then told by the layout of
the type. Otherwise the type is unassigned, or the body is malformed for this type; and no position outside the body is
ever read. A payload that has been read has the type of its frame and is read again from its own encoding, which is the
body itself wherever no byte is left out, and which differs from the body of an activation request in the reserved bytes
only. -/
theorem parse_layout (m : Message) :
    ((∃ p, parse m = .ok p) ↔ m.type.admits m.payload.length) ∧
    (∀ raw, parse m = .error (.unknownType raw) ↔ m.type = .unknown raw) ∧
    ((∀ raw, m.type ≠ .unknown raw) → m.type.admits m.payload.length = false →
      parse m = .error (.malformedPayload m.type (m.type.refusal m.payload.length))) ∧
    checkedBody m.type m.payload = some (parse m) ∧
    ∀ p, parse m = .ok p →
      Layout m.type m.payload p ∧ p.type = m.type ∧
      (∀ version, parse (.of version p.type p.encode) = .ok p) ∧
      (m.type.keepsAll → p.encode = m.payload) ∧
      (m.type = .routingActivationRequest →
        p.encode.length = m.payload.length ∧ ∀ i, i < 3 ∨ 7 ≤ i → p.encode[i]? = m.payload[i]?) := by
  obtain ⟨version, inverse, t, bs⟩ := m
  refine ⟨?accepted, ?unassigned, ofBody_refused, checkedBody_eq t bs, fun p hp => ?read⟩
  case accepted =>
    show (∃ p, ofBody t bs = .ok p) ↔ t.admits bs.length
    rcases ofBody_cases t bs with ⟨raw, rfl⟩ | ⟨-, hlen, hrefused⟩ | ⟨-, hlen, p, -, hread⟩
    · exact ⟨nofun, nofun⟩
    · rw [hrefused, hlen]
      exact ⟨nofun, nofun⟩
    · rw [hread, hlen]
      exact ⟨fun _ => rfl, fun _ => ⟨p, rfl⟩⟩
  case unassigned =>
    show ∀ raw, ofBody t bs = .error (.unknownType raw) ↔ t = .unknown raw
    intro raw
    rcases ofBody_cases t bs with ⟨other, rfl⟩ | ⟨ht, -, hrefused⟩ | ⟨ht, -, p, -, hread⟩
    · simp [ofBody]
    · simp [hrefused, ht raw]
    · simp [hread, ht raw]
  case read =>
    have hl : Layout t bs p := ofBody_eq_ok_iff.1 hp
    refine ⟨hl, hl.type, fun version => hl.reread, hl.encode_eq, ?_⟩
    rintro rfl
    exact hl.encode_request

/-- A request with reserved bytes that are not zero is read, and written with zeros in their place; with one byte less
it is refused. -/
theorem parse_layout_reserved :
    let body : Bytes := [0x0E, 0x80, 0xE0, 1, 2, 3, 4, 0xA0, 0xA1, 0xA2, 0xA3]
    let p : Payload := .activationRequest ⟨0x0E80, .centralSecurity, some ⟨[0xA0, 0xA1, 0xA2, 0xA3], rfl⟩⟩
    parse (.of 2 .routingActivationRequest body) = .ok p ∧
    parse (.of 2 .routingActivationRequest p.encode) = .ok p ∧
    p.encode.length = body.length ∧ (∀ i, i < 3 ∨ 7 ≤ i → p.encode[i]? = body[i]?) ∧
    (p.encode.drop 3).take 4 = [0, 0, 0, 0] ∧
    parse (.of 2 .routingActivationRequest body.dropLast) =
      .error (.malformedPayload .routingActivationRequest "expected 7 or 11 bytes, got 10") := by
  intro body p
  have hread : parse (.of 2 .routingActivationRequest body) = .ok p := rfl
  obtain ⟨-, -, -, -, hall⟩ := parse_layout (.of 2 .routingActivationRequest body)
  obtain ⟨-, -, hagain, -, hrequest⟩ := hall p hread
  obtain ⟨hlength, hplaces⟩ := hrequest rfl
  obtain ⟨-, -, hrefused, -⟩ := parse_layout (.of 2 .routingActivationRequest body.dropLast)
  have htext : PayloadType.routingActivationRequest.refusal 10 = "expected 7 or 11 bytes, got 10" := by decide +kernel
  exact ⟨hread, hagain 2, hlength, hplaces, rfl, htext ▸ hrefused nofun rfl⟩

end Payload
end Doip
