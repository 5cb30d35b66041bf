import Doip.Proofs.Bench.Connected
import Doip.Proofs.Bench.Continues
import Doip.Proofs.Discovery
import Doip.Proofs.Manager.Run

/-! Discoveries on a bench. The entity notes the request and selects by it (`identify_request`); what it sends is
listed, one vehicle for each address, and nothing else that happens while the window is open is a discovery
(`discover_eq`). -/

namespace Doip

namespace Entity

/-- What an entity makes of the request of a client, whatever version it is written with. -/
theorem identify_request (e : Entity) (c : Codec) (r : IdentificationRequest) :
    e.identify (c.encodePayload (.identificationRequest r)) =
      ({ e with observations := e.observations ++ [.identification] },
        (e.script.announcementsFor r).map (Script.codec.encodePayload ∘ Payload.announcement)) := by
  simp only [identify, Script.identification?_encode]

end Entity

namespace Bench

variable {b : Bench} {filter : Filter} {r : IdentificationRequest}

def broadcast (b : Bench) : Endpoint :=
  ⟨b.manager.config.discovery.broadcastAddress, b.manager.config.discovery.port⟩

theorem identificationRequest_eq (hrunning : b.manager.isRunning = true) (hnet : b.network.datagramFault = none)
    (hr : filter.request = .ok r) :
    b.manager.identificationRequest b.network filter =
      .ok (b.manager.codec.encodePayload (.identificationRequest r)) := by
  rw [Manager.identificationRequest, if_pos hrunning, Discovery.send, hr, hnet]
  rfl

def answersTo (b : Bench) (r : IdentificationRequest) : List Datagram :=
  (b.entity.script.announcementsFor r).map (Discovery.datagramOf · b.broadcast.host)

def identified (b : Bench) (r : IdentificationRequest) : Bench :=
  { b with
    manager := b.manager.learn (b.answersTo r)
    entity := { b.entity with observations := b.entity.observations ++ [Observation.identification] } }

/-- A discovery that reaches the entity, and the time that passes behind it. -/
theorem discover_eq (hrunning : b.manager.isRunning = true) (hnet : b.network.datagramFault = none)
    (hudp : b.udp = some b.broadcast) (hr : filter.request = .ok r) (window : Option Nat) :
    b.discover filter window =
      ((b.identified r).pass (window.getD b.manager.config.discovery.timeout.toNat),
        .ok (Discovery.collect b.manager.codec (b.answersTo r))) := by
  have hdatagrams : ((b.entity.script.announcementsFor r).map
      (Script.codec.encodePayload ∘ Payload.announcement)).map (Datagram.mk · b.broadcast.host) = b.answersTo r :=
    List.map_map
  unfold discover
  simp only [identificationRequest_eq hrunning hnet hr, hudp]
  rw [if_pos (show b.broadcast = ⟨_, _⟩ from rfl)]
  simp only [b.entity.identify_request b.manager.codec r, hdatagrams, ← hudp]
  rfl

theorem collect_selected (hselects : Script.selects r = filter.asksFor)
    (hrepeat : b.entity.script.repeatsFirst = true →
      ∀ a ∈ b.entity.script.announcements.head?, filter.asksFor a = true) :
    Discovery.collect b.manager.codec (b.answersTo r) =
      (Announcement.firsts (b.entity.script.announcements.filter filter.asksFor)).map
        (Vehicle.ofAnnouncement · b.broadcast.host) := by
  have hlimit : 33 ≤ b.manager.codec.limit.toNat := Nat.le_of_ble_eq_true rfl
  have hagain : (if b.entity.script.repeatsFirst then b.entity.script.announcements.take 1 else []) ⊆
      b.entity.script.announcements.filter filter.asksFor := by
    split
    · rename_i hrepeats
      intro a ha
      cases hall : b.entity.script.announcements with
      | nil =>
        rw [hall] at ha
        cases ha
      | cons first rest =>
        rw [hall] at ha hrepeat
        obtain rfl := List.mem_singleton.1 ha
        exact List.mem_filter.2 ⟨List.mem_cons_self, hrepeat hrepeats a rfl⟩
    · exact List.nil_subset _
  rw [answersTo, Script.announcementsFor, hselects, Discovery.collect_again hlimit hagain,
    Discovery.collect_announcements hlimit]

/-- A discovery that reaches a scripted entity lists those of its announcements that the preselection asks for, in their
order, the first of each logical address, and the entity notes one request; and whatever comes of the discoveries of a
manager, it knows the vehicles of the last one that succeeded. -/
theorem discovers_firsts :
    (∀ (b : Bench) (filter : Filter) (window : Option Nat), b.manager.isRunning = true →
      b.network.datagramFault = none → b.udp = some b.broadcast →
      (∀ v, filter = .vin v → (Utf8.encode v.toList).length = 17) →
      (b.entity.script.repeatsFirst = true →
        ∀ a ∈ b.entity.script.announcements.head?, filter.asksFor a = true) →
      let found := (Announcement.firsts (b.entity.script.announcements.filter filter.asksFor)).map
        (Vehicle.ofAnnouncement · b.broadcast.host)
      ∃ b', b.discover filter window = (b', .ok found) ∧ b'.manager.vehicles = found ∧
        b'.entity.identifications = b.entity.identifications + 1) ∧
    ∀ (config : Config) (m : Manager) (es : List Manager.Event), Manager.ofConfig config = .ok m →
      (m.run es).vehicles = ((m.discoveries es).filterMap Except.toOption).getLast?.getD [] := by
  refine ⟨fun b filter window hrunning hnet hudp hvin hrepeat => ?_, fun config m es hm => ?_⟩
  · obtain ⟨r, hr, hselects⟩ := Filter.request_selects hvin
    have hcollect := collect_selected hselects hrepeat
    have hpass := Continues.pass (b.identified r) (window.getD b.manager.config.discovery.timeout.toNat)
    refine ⟨_, ?_, hpass.vehicles.trans hcollect, hpass.entity.identifications.trans List.countP_append⟩
    rw [discover_eq hrunning hnet hudp hr, hcollect]
  · have hnone : m.vehicles = [] := by
      unfold Manager.ofConfig at hm
      cases hvalid : config.validate with
      | error e => simp [hvalid] at hm
      | ok u =>
        simp [hvalid] at hm
        rw [← hm]
    rw [m.vehicles_run, hnone]

def blankAnnouncement (address : Address) (eid : Octets 6) : Announcement :=
  ⟨address, ⟨List.replicate 17 0, rfl⟩, eid, ⟨List.replicate 6 0, rfl⟩, 0, none⟩

def announced : Bench :=
  { narrow with
    entity := { script := {
      address := 0xFA25
      announcements := [blankAnnouncement 1 ⟨[0, 0, 0, 0, 0, 1], rfl⟩, blankAnnouncement 2 ⟨[0, 0, 0, 0, 0, 2], rfl⟩,
        blankAnnouncement 1 ⟨[0, 0, 0, 0, 0, 3], rfl⟩]
      repeatsFirst := true } } }

theorem listed_once :
    (∃ b', announced.discover .any none = (b', .ok [⟨1, "", ⟨[0, 0, 0, 0, 0, 1], rfl⟩, ⟨List.replicate 6 0, rfl⟩,
        .localhost⟩, ⟨2, "", ⟨[0, 0, 0, 0, 0, 2], rfl⟩, ⟨List.replicate 6 0, rfl⟩, .localhost⟩]) ∧
      b'.entity.identifications = 1) ∧
    ∃ m, Manager.ofConfig {} = .ok m ∧
      (m.run [.start none, .discover .unreachable .any fun _ => []]).vehicles = [] := by
  refine ⟨?_, { config := {} }, rfl, discovers_firsts.2 {} _ _ rfl⟩
  obtain ⟨b', hdiscover, -, hnoted⟩ := discovers_firsts.1 announced .any none rfl rfl rfl nofun
    (fun _ a ha => rfl)
  exact ⟨b', hdiscover, hnoted⟩

end Bench
end Doip
