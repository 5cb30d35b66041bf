import Doip.Payload.Basic

/-! Diagnostic messages and their acknowledgements are read back as they were written. The three kinds differ in what
they put in front of the user data, so the same data may fit in one and not in another. -/

namespace Doip

theorem addressBytes_eq (a : Address) : ∃ hi lo, addressBytes a = [hi, lo] ∧ address hi lo = a := by
  obtain ⟨hi, lo, h⟩ : ∃ hi lo, addressBytes a = [hi, lo] := ⟨_, _, rfl⟩
  refine ⟨hi, lo, h, ?_⟩
  have hlt := a.toNat_lt
  rw [address, ← h, addressBytes, ofBE_be, Nat.mod_eq_of_lt hlt]
  exact UInt16.ofNat_toNat

theorem DiagnosticMessage.parse_encode (m : DiagnosticMessage) : DiagnosticMessage.parse m.encode = .ok m := by
  obtain ⟨source, target, data⟩ := m
  obtain ⟨s₁, s₀, hs, hsource⟩ := addressBytes_eq source
  obtain ⟨t₁, t₀, ht, htarget⟩ := addressBytes_eq target
  simp only [DiagnosticMessage.encode, hs, ht, List.cons_append, List.nil_append, DiagnosticMessage.parse, hsource,
    htarget]

theorem Acknowledgement.parse_encode (type : PayloadType) (a : Acknowledgement) :
    Acknowledgement.parse type a.encode = .ok a := by
  obtain ⟨source, target, code, previous⟩ := a
  obtain ⟨s₁, s₀, hs, hsource⟩ := addressBytes_eq source
  obtain ⟨t₁, t₀, ht, htarget⟩ := addressBytes_eq target
  simp only [Acknowledgement.encode, hs, ht, List.cons_append, List.nil_append, Acknowledgement.parse, hsource, htarget]

theorem DiagnosticMessage.length_encode (m : DiagnosticMessage) : m.encode.length = 4 + m.data.length := by
  simp only [DiagnosticMessage.encode, List.length_append, length_addressBytes]

/-- One byte more than the message it repeats. -/
theorem Acknowledgement.length_encode (a : Acknowledgement) : a.encode.length = 5 + a.previous.length := by
  simp only [Acknowledgement.encode, List.length_append, length_addressBytes, List.length_cons]
  omega

namespace Payload

theorem parse_diagnosticMessage (version : UInt8) (m : DiagnosticMessage) :
    parse (.of version .diagnosticMessage m.encode) = .ok (.diagnosticMessage m) := by
  show diagnosticMessage <$> DiagnosticMessage.parse m.encode = _
  rw [m.parse_encode]
  rfl

theorem parse_diagnosticMessageAck (version : UInt8) (a : Acknowledgement) :
    parse (.of version .diagnosticMessageAck a.encode) = .ok (.diagnosticMessageAck a) := by
  show diagnosticMessageAck <$> Acknowledgement.parse _ a.encode = _
  rw [a.parse_encode]
  rfl

theorem parse_genericNack (version code : UInt8) :
    parse (.of version .genericNack [code]) = .ok (.genericNack code) := rfl

end Payload
end Doip
