import Doip.Discovery
import Doip.Entity.Session
import Doip.Proofs.Discovery.Traffic

/-! What a discovery makes of the announcements of a scripted entity. The request that is made of a preselection
selects at the entity what the preselection asks for (`Filter.request_selects`), each announcement is read as it was
sent, and of those with the same logical address the first is listed (`Discovery.collect_announcements`). -/

namespace Doip

/-- Whether a preselection asks for the sender of an announcement. -/
def Filter.asksFor : Filter → Announcement → Bool
  | .any, _ => true
  | .vin v, a => a.vin.bytes = Utf8.encode v.toList
  | .eid e, a => a.eid = e

/-- The request of a preselection selects what it asks for. -/
theorem Filter.request_selects {f : Filter} (hvin : ∀ v, f = .vin v → (Utf8.encode v.toList).length = 17) :
    ∃ r, f.request = .ok r ∧ Script.selects r = f.asksFor := by
  cases f with
  | any => exact ⟨.any, rfl, funext fun _ => rfl⟩
  | eid e => exact ⟨.eid e, rfl, funext fun _ => rfl⟩
  | vin v =>
    refine ⟨.vin ⟨Utf8.encode v.toList, hvin v rfl⟩, ?_, funext fun a => ?_⟩
    · simp only [request, Octets.ofBytes?, dif_pos (hvin v rfl)]
    · simp only [Script.selects, asksFor, Octets.ext_iff]

/-! Frames between the client and the entity, each with its own codec. -/

theorem IdentificationRequest.length_encode (r : IdentificationRequest) : r.encode.length ≤ 17 := by
  cases r with
  | any => exact Nat.zero_le 17
  | eid e => exact Nat.le_trans (Nat.le_of_eq e.length_bytes) (by decide)
  | vin v => exact Nat.le_of_eq v.length_bytes

theorem Script.identification?_encode (c : Codec) (r : IdentificationRequest) :
    identification? (c.encodePayload (.identificationRequest r)) = some r := by
  have hcanonical : (Payload.identificationRequest r).Canonical := trivial
  have hdecode := c.decode_encode codec (Payload.canonical_type hcanonical)
    (Nat.le_trans r.length_encode (by decide) : (Payload.identificationRequest r).encode.length ≤ _)
  have hparse : Payload.parse (.of c.version r.type r.encode) = .ok (.identificationRequest r) :=
    Payload.ofBody_encode hcanonical
  unfold identification?
  rw [show codec.decode (c.encodePayload (.identificationRequest r)) = _ from hdecode]
  simp only [Payload.type, Payload.encode, hparse]

namespace Discovery

variable {codec : Codec} {sender : IpAddress}

def datagramOf (a : Announcement) (sender : IpAddress) : Datagram :=
  ⟨Script.codec.encodePayload (.announcement a), sender⟩

theorem announces_datagramOf (a : Announcement) (sender : IpAddress) : (datagramOf a sender).Announces a := by
  have hbody := a.length_encode
  have hframe : (Script.codec.encodePayload (.announcement a)).length = headerLength + a.encode.length :=
    Message.length_toBytes _
  have hwhole : (Script.codec.encodePayload (.announcement a)).take datagramLimit =
      Script.codec.encodePayload (.announcement a) :=
    List.take_of_length_le (by rw [hframe, headerLength, datagramLimit]; omega)
  exact ⟨Script.codec.version, [], hwhole.trans (List.append_nil _).symm⟩

theorem vehicle?_datagramOf (hlimit : 33 ≤ codec.limit.toNat) (a : Announcement) (sender : IpAddress) :
    vehicle? codec (datagramOf a sender) = some (.ofAnnouncement a sender) :=
  (vehicle?_eq_some_iff hlimit).2 ⟨a, announces_datagramOf a sender, rfl⟩

end Discovery

/-! One vehicle for each address. -/

def Announcement.firsts : List Announcement → List Announcement
  | [] => []
  | a :: as => a :: (firsts as).filter (·.logicalAddress ≠ a.logicalAddress)

namespace Discovery

variable {codec : Codec} {sender : IpAddress}

theorem firsts_map (as : List Announcement) (sender : IpAddress) :
    firsts (as.map (Vehicle.ofAnnouncement · sender)) =
      (Announcement.firsts as).map (Vehicle.ofAnnouncement · sender) := by
  induction as with
  | nil => rfl
  | cons a as ih =>
    let other (address : Address) : Bool := !(address == a.logicalAddress)
    have hfirsts := firsts_filter other (as.map (Vehicle.ofAnnouncement · sender))
    have hother : Announcement.firsts (a :: as) =
        a :: (Announcement.firsts as).filter fun a' => other a'.logicalAddress := by
      simp only [Announcement.firsts, other, ne_eq, decide_not, beq_eq_decide]
    rw [List.map_cons, firsts_cons, hother, List.map_cons]
    exact congrArg (_ :: ·) (hfirsts.trans (by rw [ih, List.filter_map]; rfl))

/-- Of the announcements that come, the first of each address is listed. -/
theorem collect_announcements (hlimit : 33 ≤ codec.limit.toNat) (as : List Announcement) (sender : IpAddress) :
    collect codec (as.map (datagramOf · sender)) =
      (Announcement.firsts as).map (Vehicle.ofAnnouncement · sender) := by
  have hheard : (as.map (datagramOf · sender)).filterMap (vehicle? codec) =
      as.map (Vehicle.ofAnnouncement · sender) := by
    rw [List.filterMap_map, ← List.filterMap_eq_map]
    exact congrArg (List.filterMap · as) (funext fun a => vehicle?_datagramOf hlimit a sender)
  rw [collect_eq, hheard, firsts_map]

theorem collect_again (hlimit : 33 ≤ codec.limit.toNat) {as again : List Announcement} (hagain : again ⊆ as)
    (sender : IpAddress) :
    collect codec ((as ++ again).map (datagramOf · sender)) = collect codec (as.map (datagramOf · sender)) := by
  have hidle : ∀ d ∈ again.map (datagramOf · sender), Idle (as.map (datagramOf · sender)) d :=
    fun d hd a ha => ⟨d, List.map_subset _ hagain hd, a, ha, rfl⟩
  have hsame := collect_idle hlimit hidle []
  rwa [List.append_nil, List.append_nil, ← List.map_append] at hsame

end Discovery
end Doip
