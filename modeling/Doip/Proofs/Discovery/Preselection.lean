import Doip.Proofs.Discovery
import Doip.Proofs.Text.Hex

/-! Preselection by EID. A text is read as an EID when what remains of it without colons and dashes is twelve
hexadecimal digits (`ofEid_eq_ok_iff`); of others it is said what is wrong with them (`ofEid_eq_error_iff`). The form in
which the EID of a vehicle is printed is read back, and the request that is made of it selects that EID only
(`eids_read_back`). -/

namespace Doip

theorem Octets.ofBytes?_bytes {n : Nat} (o : Octets n) : ofBytes? n o.bytes = some o :=
  dif_pos o.length_bytes

namespace Filter

variable {text : String} {f : Filter} {e : DiscoveryError}

def eidDigits (text : String) : List Char := text.toList.filter fun c => c ≠ ':' ∧ c ≠ '-'

/-- What is wrong with a text that is no EID. Digits are counted and found bad as bytes of UTF-8. -/
inductive Misread (text : String) : DiscoveryError → Prop
  | odd (h : (Utf8.encode (eidDigits text)).length % 2 = 1) :
      Misread text (.invalidFilter s!"EID {text}: {Hex.Fault.oddLength.message}")
  | bad {b : UInt8} {position : Nat} (heven : (Utf8.encode (eidDigits text)).length % 2 = 0)
      (h : Hex.FirstBad (Utf8.encode (eidDigits text)) b position) :
      Misread text (.invalidFilter s!"EID {text}: {(Hex.Fault.badByte b position).message}")
  | size (hdigits : ∀ c ∈ eidDigits text, ∃ n, Hex.IsDigit c n) (heven : (eidDigits text).length % 2 = 0)
      (h : (eidDigits text).length ≠ 12) : Misread text (.invalidFilter s!"EID {text} must be 6 bytes")

theorem filter_isSeparator (text : String) : text.toList.filter (!isSeparator ·) = eidDigits text := by
  refine List.filter_congr fun c _ => ?_
  simp [isSeparator]

def ofDigits (text : String) : Except Hex.Fault Bytes → Except DiscoveryError Filter
  | .error fault => .error (.invalidFilter s!"EID {text}: {fault.message}")
  | .ok bs =>
    match Octets.ofBytes? 6 bs with
    | some e => .ok (eid e)
    | none => .error (.invalidFilter s!"EID {text} must be 6 bytes")

theorem ofEid_eq (text : String) : ofEid text = ofDigits text (Hex.decode (Utf8.encode (eidDigits text))) := by
  rw [ofEid, filter_isSeparator]
  rfl

theorem ofEid_of_spells {o : Octets 6} (h : Hex.Spells (eidDigits text) o.bytes) : ofEid text = .ok (eid o) := by
  rw [ofEid_eq, Hex.decode_eq_ok_iff.2 h, ofDigits, Octets.ofBytes?_bytes]

/-- The EID that is read has the digits of the text. -/
theorem ofEid_eq_ok_iff : ofEid text = .ok f ↔ ∃ o : Octets 6, f = .eid o ∧ Hex.Spells (eidDigits text) o.bytes := by
  constructor
  · intro h
    rw [ofEid_eq] at h
    cases hread : Hex.decode (Utf8.encode (eidDigits text)) with
    | error fault =>
      rw [hread] at h
      cases h
    | ok bs =>
      rw [hread, ofDigits, Octets.ofBytes?] at h
      split_ifs at h with hsix
      cases h
      exact ⟨⟨bs, hsix⟩, rfl, Hex.decode_eq_ok_iff.1 hread⟩
  · rintro ⟨o, rfl, h⟩
    exact ofEid_of_spells h

theorem exists_ofEid_iff :
    (∃ f, ofEid text = .ok f) ↔
      (eidDigits text).length = 12 ∧ ∀ c ∈ eidDigits text, ∃ n, Hex.IsDigit c n := by
  constructor
  · rintro ⟨f, h⟩
    obtain ⟨o, -, hspells⟩ := ofEid_eq_ok_iff.1 h
    exact ⟨by rw [hspells.length, o.length_bytes], hspells.isDigit⟩
  · rintro ⟨htwelve, hdigits⟩
    obtain ⟨bs, hspells⟩ := Hex.exists_spells_iff.2 ⟨by rw [htwelve], hdigits⟩
    have hsix : bs.length = 6 := by
      have := hspells.length
      omega
    exact ⟨.eid ⟨bs, hsix⟩, ofEid_of_spells hspells⟩

theorem ofDigits_of_ok {bs : Bytes} (hsix : bs.length ≠ 6) :
    ofDigits text (.ok bs) = .error (.invalidFilter s!"EID {text} must be 6 bytes") := by
  rw [ofDigits, Octets.ofBytes?, dif_neg hsix]

/-- Of a text that is no EID it is said what is wrong with it. -/
theorem ofEid_eq_error_iff : ofEid text = .error e ↔ Misread text e := by
  rw [ofEid_eq]
  constructor
  · intro h
    cases hread : Hex.decode (Utf8.encode (eidDigits text)) with
    | error fault =>
      rw [hread] at h
      cases h
      rcases Hex.decode_eq_error_iff.1 hread with ⟨hodd, rfl⟩ | ⟨heven, b, position, hbad, rfl⟩
      · exact .odd hodd
      · exact .bad heven hbad
    | ok bs =>
      have hspells := Hex.decode_eq_ok_iff.1 hread
      obtain ⟨heven, hdigits⟩ := Hex.exists_spells_iff.1 ⟨bs, hspells⟩
      rw [hread] at h
      by_cases hsix : bs.length = 6
      · rw [ofDigits, Octets.ofBytes?, dif_pos hsix] at h
        cases h
      · rw [ofDigits_of_ok hsix] at h
        cases h
        exact .size hdigits heven (by rw [hspells.length]; omega)
  · rintro (hodd | ⟨heven, hbad⟩ | ⟨hdigits, heven, htwelve⟩)
    · rw [Hex.decode_eq_error_iff.2 (.inl ⟨hodd, rfl⟩)]
      rfl
    · rw [Hex.decode_eq_error_iff.2 (.inr ⟨heven, _, _, hbad, rfl⟩)]
      rfl
    · obtain ⟨bs, hspells⟩ := Hex.exists_spells_iff.2 ⟨heven, hdigits⟩
      rw [Hex.decode_eq_ok_iff.2 hspells]
      refine ofDigits_of_ok fun hsix => htwelve ?_
      rw [hspells.length, hsix]

/-! The EID of a vehicle, as it is printed. -/

theorem eidDigits_eidText (v : Vehicle) : eidDigits v.eidText = v.eid.bytes.flatMap (Hex.pair Hex.lowerDigits) := by
  have hdigit (c : Char) (n : Nat) (h : Hex.IsDigit c n) : decide (c ≠ ':' ∧ c ≠ '-') = true :=
    h.elim (P := fun c _ => decide (c ≠ ':' ∧ c ≠ '-') = true) (by decide)
  rw [eidDigits, Vehicle.eidText, Hex.colons, String.toList_ofList]
  exact Hex.filter_separated (.inl rfl) hdigit rfl v.eid.bytes

theorem ofEid_eidText (v : Vehicle) : ofEid v.eidText = .ok (.eid v.eid) := by
  refine ofEid_of_spells ?_
  rw [eidDigits_eidText]
  exact Hex.Cased.spells (.inl rfl) v.eid.bytes

/-- An EID is read exactly when twelve digits remain of its text, and it has those digits; any other text is refused for
the first thing that is wrong with it. What is printed of a vehicle is read back as its EID, and the identification
request that is made of it reaches an entity as one that selects the announcements with this EID. -/
theorem eids_read_back :
    (∀ text, (∃ f, ofEid text = .ok f) ↔
      (eidDigits text).length = 12 ∧ ∀ c ∈ eidDigits text, ∃ n, Hex.IsDigit c n) ∧
    (∀ text f, ofEid text = .ok f ↔ ∃ o : Octets 6, f = .eid o ∧ Hex.Spells (eidDigits text) o.bytes) ∧
    (∀ text e, ofEid text = .error e ↔ Misread text e) ∧
    ∀ v : Vehicle, ofEid v.eidText = .ok (.eid v.eid) ∧
      ∃ r, (Filter.eid v.eid).request = .ok r ∧
        (∀ c : Codec, Script.identification? (c.encodePayload (.identificationRequest r)) = some r) ∧
        ∀ a, Script.selects r a = true ↔ a.eid = v.eid := by
  refine ⟨fun _ => exists_ofEid_iff, fun _ _ => ofEid_eq_ok_iff, fun _ _ => ofEid_eq_error_iff, fun v =>
    ⟨ofEid_eidText v, ?_⟩⟩
  obtain ⟨r, hrequest, hselects⟩ := request_selects (f := .eid v.eid) fun _ h => nomatch h
  refine ⟨r, hrequest, fun c => Script.identification?_encode c r, fun a => ?_⟩
  rw [hselects]
  exact decide_eq_true_iff

end Filter
end Doip
