import Doip.Manager
import Doip.Proofs.Payload.Layout

/-! What a discovery makes of the traffic it hears, whoever sends it and whatever it is. A datagram counts when it
starts with the frame of an announcement (`Datagram.Announces`), the first one of each logical address is listed, and
all others are passed over (`collect_eq`). So nothing is listed twice, idle datagrams can be left out
(`collect_idle`), and what was listed stays in front (`collect_prefix`). -/

namespace Doip

/-- A datagram, as far as it is looked at, starts with the frame of an announcement, in whatever version. -/
def Datagram.Announces (d : Datagram) (a : Announcement) : Prop :=
  ∃ version rest, d.data.take Discovery.datagramLimit =
    (Message.of version .vehicleAnnouncement a.encode).toBytes ++ rest

theorem Announcement.length_encode (a : Announcement) : a.encode.length ≤ 33 := by
  have hsync : a.syncStatus.toList.length ≤ 1 := Option.length_toList_le
  simp only [encode, List.length_append, List.length_cons, length_addressBytes, Octets.length_bytes]
  omega

theorem Payload.parse_eq_announcement_iff {m : Message} {a : Announcement} :
    parse m = .ok (.announcement a) ↔ m.type = .vehicleAnnouncement ∧ m.payload = a.encode := by
  obtain ⟨version, inverse, type, payload⟩ := m
  rw [parse, ofBody_eq_ok_iff]
  constructor
  · intro hl
    cases hl
    exact ⟨rfl, rfl⟩
  · rintro ⟨rfl, rfl⟩
    exact .announcement a

namespace Discovery

variable {codec : Codec} {d : Datagram} {a : Announcement} {v : Vehicle} {vs : List Vehicle}
variable {before idle after : List Datagram}

theorem announcement?_eq_some_iff (hlimit : 33 ≤ codec.limit.toNat) :
    announcement? codec d = some a ↔ d.Announces a := by
  constructor
  · intro h
    unfold announcement? at h
    split at h
    · cases h
    · rename_i m hdecode
      split at h
      · rename_i a' hparse
        cases h
        obtain ⟨rest, hsplit⟩ := Codec.decode_eq_ok_iff.1 hdecode
        obtain ⟨hadmits, hdata⟩ := Codec.splitFrame_eq_some_iff.1 hsplit
        obtain ⟨htype, hpayload⟩ := Payload.parse_eq_announcement_iff.1 hparse
        rw [hadmits.eq_of, htype, hpayload] at hdata
        exact ⟨m.version, rest, hdata⟩
      · cases h
  · rintro ⟨version, rest, hdata⟩
    have hadmits : codec.Admits (.of version .vehicleAnnouncement a.encode) :=
      codec.admits_of (by decide) (Nat.le_trans a.length_encode hlimit) version
    have hdecode : codec.decode (d.data.take datagramLimit) = .ok (.of version .vehicleAnnouncement a.encode) :=
      Codec.decode_eq_ok_iff.2 ⟨rest, Codec.splitFrame_eq_some_iff.2 ⟨hadmits, hdata⟩⟩
    have hparse : Payload.parse (.of version .vehicleAnnouncement a.encode) = .ok (.announcement a) :=
      Payload.parse_eq_announcement_iff.2 ⟨rfl, rfl⟩
    simp only [announcement?, hdecode, hparse]

def vehicle? (codec : Codec) (d : Datagram) : Option Vehicle :=
  (announcement? codec d).map (Vehicle.ofAnnouncement · d.sender)

theorem vehicle?_eq_some_iff (hlimit : 33 ≤ codec.limit.toNat) :
    vehicle? codec d = some v ↔ ∃ a, d.Announces a ∧ v = .ofAnnouncement a d.sender := by
  rw [vehicle?, Option.map_eq_some_iff]
  exact exists_congr fun a => and_congr (announcement?_eq_some_iff hlimit) eq_comm

/-! One datagram after the other. -/

/-- As far as the address tells, the vehicle is in the list. -/
def listed (vs : List Vehicle) (v : Vehicle) : Bool := vs.any (·.logicalAddress = v.logicalAddress)

def firsts (vs : List Vehicle) : List Vehicle := vs.eraseDupsBy (·.logicalAddress == ·.logicalAddress)

theorem add_eq (codec : Codec) (vs : List Vehicle) (d : Datagram) :
    add codec vs d =
      match vehicle? codec d with
      | none => vs
      | some v => if listed vs v then vs else vs ++ [v] := by
  unfold add vehicle?
  cases announcement? codec d <;> rfl

theorem listed_append_singleton (vs : List Vehicle) (v v' : Vehicle) :
    (!listed (vs ++ [v]) v') = (!listed vs v' && !(v'.logicalAddress == v.logicalAddress)) := by
  simp [listed, beq_eq_decide, eq_comm]

theorem firsts_cons (v : Vehicle) (vs : List Vehicle) :
    firsts (v :: vs) = v :: firsts (vs.filter fun v' => !(v'.logicalAddress == v.logicalAddress)) := by
  simp only [firsts, List.eraseDupsBy_cons, Bool.decide_eq_false]

theorem firsts_filter (p : Address → Bool) (vs : List Vehicle) :
    firsts (vs.filter (p ·.logicalAddress)) = (firsts vs).filter (p ·.logicalAddress) := by
  induction hn : vs.length using Nat.strongRecOn generalizing vs with
  | ind n ih =>
    cases vs with
    | nil => rfl
    | cons v vs =>
      -- what `v` leaves of the others is shorter
      let others := vs.filter fun v' => !(v'.logicalAddress == v.logicalAddress)
      have hothers := ih others.length
        (hn ▸ Nat.lt_succ_of_le (List.length_filter_le _ vs)) others rfl
      cases hv : p v.logicalAddress with
      | true =>
        simp only [List.filter_cons, hv, if_true, firsts_cons, List.filter_filter] at hothers ⊢
        rw [← hothers]
        simp only [others, List.filter_filter, Bool.and_comm]
      | false =>
        have hout : (others.filter (p ·.logicalAddress)) = vs.filter (p ·.logicalAddress) := by
          simp only [others, List.filter_filter]
          refine List.filter_congr fun v' _ => ?_
          by_cases hsame : v'.logicalAddress = v.logicalAddress
          · simp [hsame, hv]
          · simp [hsame]
        simp only [List.filter_cons, hv, Bool.false_eq_true, if_false, firsts_cons]
        rw [← hothers, hout]

theorem foldl_add (codec : Codec) (vs : List Vehicle) (ds : List Datagram) :
    ds.foldl (add codec) vs = vs ++ firsts ((ds.filterMap (vehicle? codec)).filter (!listed vs ·)) := by
  induction ds generalizing vs with
  | nil => exact (List.append_nil vs).symm
  | cons d ds ih =>
    rw [List.foldl_cons, add_eq, List.filterMap_cons]
    cases hv : vehicle? codec d with
    | none => exact ih vs
    | some v =>
      cases hlisted : listed vs v with
      | true => simp only [if_true, List.filter_cons, hlisted, Bool.not_true, Bool.false_eq_true, if_false, ih]
      | false =>
        simp only [Bool.false_eq_true, if_false, List.filter_cons, hlisted, Bool.not_false, if_true, ih, firsts_cons,
          List.filter_filter, listed_append_singleton, List.append_assoc, List.singleton_append, Bool.and_comm]

/-- Of all that is heard the announcements count, and of those the first of each address. -/
theorem collect_eq (codec : Codec) (ds : List Datagram) :
    collect codec ds = firsts (ds.filterMap (vehicle? codec)) := by
  have hall : (ds.filterMap (vehicle? codec)).filter (!listed [] ·) = ds.filterMap (vehicle? codec) :=
    List.filter_eq_self.2 fun _ _ => rfl
  rw [collect, foldl_add, hall, List.nil_append]

theorem distinct_add (h : vs.Pairwise (·.logicalAddress ≠ ·.logicalAddress)) (d : Datagram) :
    (add codec vs d).Pairwise (·.logicalAddress ≠ ·.logicalAddress) := by
  rw [add_eq]
  split
  · exact h
  · split
    · exact h
    · rename_i hnew
      refine List.pairwise_append.2 ⟨h, List.pairwise_singleton _ _, fun v hv v' hv' heq => hnew ?_⟩
      rw [List.mem_singleton.1 hv'] at heq
      exact List.any_eq_true.2 ⟨v, hv, decide_eq_true heq⟩

theorem distinct_collect (codec : Codec) (ds : List Datagram) :
    (collect codec ds).Pairwise (·.logicalAddress ≠ ·.logicalAddress) :=
  List.foldlRecOn ds (add codec) .nil fun _ h d _ => distinct_add h d

theorem collect_prefix (codec : Codec) (ds later : List Datagram) :
    collect codec ds <+: collect codec (ds ++ later) := by
  rw [collect, collect, List.foldl_append, foldl_add codec (ds.foldl (add codec) [])]
  exact List.prefix_append _ _

theorem listed_add (hv : vehicle? codec d = some v) : listed (add codec vs d) v = true := by
  simp only [add_eq, hv]
  split
  · assumption
  · exact List.any_eq_true.2 ⟨v, List.mem_append_right _ List.mem_cons_self, decide_eq_true rfl⟩

theorem listed_collect (hd : d ∈ before) (hv : vehicle? codec d = some v) : listed (collect codec before) v = true := by
  obtain ⟨front, rest, rfl⟩ := List.append_of_mem hd
  have hnow : listed (collect codec (front ++ [d])) v = true := by
    rw [collect, List.foldl_append]
    exact listed_add hv
  have hprefix := collect_prefix codec (front ++ [d]) rest
  rw [List.append_assoc, List.singleton_append] at hprefix
  obtain ⟨v', hv', haddress⟩ := List.any_eq_true.1 hnow
  exact List.any_eq_true.2 ⟨v', hprefix.subset hv', haddress⟩

/-- Whatever a datagram announces has been announced before, as far as its address tells. -/
def Idle (before : List Datagram) (d : Datagram) : Prop :=
  ∀ a, d.Announces a → ∃ d' ∈ before, ∃ a', d'.Announces a' ∧ a'.logicalAddress = a.logicalAddress

theorem add_idle (hlimit : 33 ≤ codec.limit.toNat) (hd : Idle before d) :
    add codec (collect codec before) d = collect codec before := by
  rw [add_eq]
  split
  · rfl
  · rename_i v hv
    obtain ⟨a, ha, rfl⟩ := (vehicle?_eq_some_iff hlimit).1 hv
    obtain ⟨d', hd', a', ha', haddress⟩ := hd a ha
    have hlisted := listed_collect hd' ((vehicle?_eq_some_iff hlimit).2 ⟨a', ha', rfl⟩)
    rw [if_pos]
    rw [← hlisted, listed, listed, show (Vehicle.ofAnnouncement a' d'.sender).logicalAddress = _ from haddress]
    rfl

/-- Idle datagrams can be left out wherever they come. -/
theorem collect_idle (hlimit : 33 ≤ codec.limit.toNat) (hidle : ∀ d ∈ idle, Idle before d) (after : List Datagram) :
    collect codec (before ++ idle ++ after) = collect codec (before ++ after) := by
  have hsame : idle.foldl (add codec) (collect codec before) = collect codec before :=
    List.foldlRecOn (motive := (· = collect codec before)) idle (add codec) rfl fun _ hsame d hd =>
      hsame.symm ▸ add_idle hlimit (hidle d hd)
  rw [collect, collect, List.foldl_append, List.foldl_append, List.foldl_append]
  rw [← collect, hsame]

end Discovery

namespace Manager

open Discovery (firsts vehicle?)

/-- A discovery whose request was sent lists what it hears: of the datagrams that start with the frame of an
announcement, the first of each logical address, in their order and each with the fields of its announcement and the
address of its sender. No address is listed twice, datagrams that announce nothing new can be left out wherever they
come, and more traffic only adds to the end of the list. -/
theorem discover_lists_firsts (m : Manager) {network : Network} {filter : Filter} {frame : Bytes}
    (hsent : m.identificationRequest network filter = .ok frame) :
    let found (ds : List Datagram) := firsts (ds.filterMap (vehicle? m.codec))
    (∀ d v, vehicle? m.codec d = some v ↔ ∃ a, d.Announces a ∧ v = .ofAnnouncement a d.sender) ∧
      (∀ answers, m.discover network filter answers =
        ({ m with vehicles := found (answers frame) }, .ok (found (answers frame)))) ∧
      (∀ ds, (found ds).Pairwise (·.logicalAddress ≠ ·.logicalAddress)) ∧
      (∀ before idle after, (∀ d ∈ idle, Discovery.Idle before d) →
        found (before ++ idle ++ after) = found (before ++ after)) ∧
      ∀ ds later, found ds <+: found (ds ++ later) := by
  have hlimit : 33 ≤ m.codec.limit.toNat := Nat.le_of_ble_eq_true rfl
  simp only [← Discovery.collect_eq]
  refine ⟨fun d v => Discovery.vehicle?_eq_some_iff hlimit, fun answers => ?_, Discovery.distinct_collect m.codec,
    fun before idle after hidle => Discovery.collect_idle hlimit hidle after, Discovery.collect_prefix m.codec⟩
  rw [discover, hsent]
  rfl

def bareAnnouncement (address : Address) (vin : UInt8) : Announcement :=
  ⟨address, .replicate 17 vin, .replicate 6 0, .replicate 6 0, 0, none⟩

/-- Some bytes, an announcement in an unusual version with more behind it, and one of the same address. -/
def chatter : List Datagram :=
  [⟨[0x02, 0xFD], .unspecified⟩,
    ⟨(Message.of 7 .vehicleAnnouncement (bareAnnouncement 1 0x41).encode).toBytes ++ [0xFF], .localhost⟩,
    ⟨(Message.of 2 .vehicleAnnouncement (bareAnnouncement 1 0x42).encode).toBytes, .broadcast⟩]

theorem chatter_listed :
    let m : Manager := { config := {}, lifecycle := .running }
    ∃ frame, m.identificationRequest .transparent .any = .ok frame ∧
      (m.discover .transparent .any fun _ => chatter).2 =
        .ok [.ofAnnouncement (bareAnnouncement 1 0x41) .localhost] := by
  intro m
  obtain ⟨-, hdiscover, -, -, -⟩ := m.discover_lists_firsts (rfl : m.identificationRequest .transparent .any = .ok _)
  have hheard : chatter.filterMap (vehicle? m.codec) =
      [.ofAnnouncement (bareAnnouncement 1 0x41) .localhost, .ofAnnouncement (bareAnnouncement 1 0x42) .broadcast] := by
    decide +kernel
  refine ⟨_, rfl, ?_⟩
  rw [hdiscover]
  exact congrArg (fun vs => Except.ok (firsts vs)) hheard

end Manager
end Doip
