import Doip.Config.Load
import Doip.Proofs.Document.Fields
import Doip.Proofs.IpAddress

/-! Settings with defaults left out. At every level any of the fields that hold their defaults may be missing from the
document that is written of settings, and still the same settings are read of it (`Config.decode_abridged`). -/

namespace Doip

/-- The fields that are left out of a document where they hold their defaults: of the settings, of those of discovery,
and of each conversation and server. -/
structure Omission where
  config : String → Bool := fun _ => false
  discovery : String → Bool := fun _ => false
  conversation : Nat → String → Bool := fun _ _ => false
  server : Nat → String → Bool := fun _ _ => false

theorem IpAddress.ofValue?_text (ip : IpAddress) : ofValue? (.text ip.text) = some ip := parse?_text ip

/-! The document of each record. -/

namespace DiscoverySettings

def members (d : DiscoverySettings) : List Field :=
  let default : DiscoverySettings := {}
  [⟨"local_address", .text d.localAddress.text, d.localAddress = default.localAddress⟩,
    ⟨"broadcast_address", .text d.broadcastAddress.text, d.broadcastAddress = default.broadcastAddress⟩,
    ⟨"port", .natural d.port.toNat, d.port = default.port⟩,
    ⟨"timeout_ms", .natural d.timeout.toNat, d.timeout = default.timeout⟩]

def abridged (omitted : String → Bool) (d : DiscoverySettings) : Value := .abridged omitted d.members

theorem abridged_nothing (d : DiscoverySettings) : d.abridged (fun _ => false) = d.toValue :=
  Value.abridged_nothing d.members

theorem named_abridged (omitted : String → Bool) (d : DiscoverySettings) : (d.abridged omitted).Named := by
  refine .abridged ?_
  simp only [members, List.forall_mem_cons]
  exact ⟨.text _, .text _, .natural _, .natural _, nofun⟩

theorem decode_abridged (longer : Bool) (omitted : String → Bool) (d : DiscoverySettings) :
    decode longer (d.abridged omitted) = some d := by
  obtain ⟨fs, hrecord, hkeeps⟩ := Value.exists_kept longer omitted (show d.members.map Field.name = fields from rfl)
    (by decide)
  simp only [members, List.forall_mem_cons] at hkeeps
  obtain ⟨hlocal, hbroadcast, hport, htimeout, -⟩ := hkeeps
  have hlocal : Value.optional fs "local_address" .unspecified IpAddress.ofValue? = some d.localAddress :=
    Value.optional_keeps hlocal (IpAddress.ofValue?_text _) of_decide_eq_true
  have hbroadcast : Value.optional fs "broadcast_address" .broadcast IpAddress.ofValue? = some d.broadcastAddress :=
    Value.optional_keeps hbroadcast (IpAddress.ofValue?_text _) of_decide_eq_true
  have hport : Value.optional fs "port" standardPort Value.word? = some d.port :=
    Value.optional_keeps hport (Value.word?_toNat _) of_decide_eq_true
  have htimeout : Value.optional fs "timeout_ms" 2000 Value.quadWord? = some d.timeout :=
    Value.optional_keeps htimeout (Value.quadWord?_toNat _) of_decide_eq_true
  simp only [decode, abridged, hrecord, hlocal, hbroadcast, hport, htimeout, Option.bind_eq_bind, Option.bind_some,
    Option.pure_def]

end DiscoverySettings

namespace ConversationSettings

def members (c : ConversationSettings) : List Field :=
  let default : ConversationSettings := { name := c.name, source := c.source }
  [⟨"name", .text c.name, false⟩,
    ⟨"source_address", .natural c.source.toNat, false⟩,
    ⟨"activation_type", .natural c.activationType.toNat, c.activationType = default.activationType⟩,
    ⟨"tcp_port", .natural c.tcpPort.toNat, c.tcpPort = default.tcpPort⟩,
    ⟨"connect_timeout_ms", .natural c.connectTimeout.toNat, c.connectTimeout = default.connectTimeout⟩,
    ⟨"activation_timeout_ms", .natural c.activationTimeout.toNat, c.activationTimeout = default.activationTimeout⟩,
    ⟨"ack_timeout_ms", .natural c.ackTimeout.toNat, c.ackTimeout = default.ackTimeout⟩,
    ⟨"response_timeout_ms", .natural c.responseTimeout.toNat, c.responseTimeout = default.responseTimeout⟩,
    ⟨"max_payload_size", .natural c.limit.toNat, c.limit = default.limit⟩]

def abridged (omitted : String → Bool) (c : ConversationSettings) : Value := .abridged omitted c.members

theorem abridged_nothing (c : ConversationSettings) : c.abridged (fun _ => false) = c.toValue :=
  Value.abridged_nothing c.members

theorem named_abridged (omitted : String → Bool) (c : ConversationSettings) : (c.abridged omitted).Named := by
  refine .abridged ?_
  simp only [members, List.forall_mem_cons]
  exact ⟨.text _, .natural _, .natural _, .natural _, .natural _, .natural _, .natural _, .natural _, .natural _, nofun⟩

theorem decode_abridged (longer : Bool) (omitted : String → Bool) (c : ConversationSettings) :
    decode longer (c.abridged omitted) = some c := by
  obtain ⟨fs, hrecord, hkeeps⟩ := Value.exists_kept longer omitted (show c.members.map Field.name = fields from rfl)
    (by decide)
  simp only [members, List.forall_mem_cons] at hkeeps
  obtain ⟨hname, hsource, htype, htcp, hconnect, hactivation, hack, hresponse, hlimit, -⟩ := hkeeps
  have hname : Value.required fs "name" Value.text? = some c.name := Value.required_keeps hname rfl rfl
  have hsource : Value.required fs "source_address" Value.word? = some c.source :=
    Value.required_keeps hsource rfl (Value.word?_toNat _)
  have htype : Value.optional fs "activation_type" 0 Value.byte? = some c.activationType :=
    Value.optional_keeps htype (Value.byte?_toNat _) of_decide_eq_true
  have htcp : Value.optional fs "tcp_port" standardPort Value.word? = some c.tcpPort :=
    Value.optional_keeps htcp (Value.word?_toNat _) of_decide_eq_true
  have hconnect : Value.optional fs "connect_timeout_ms" 5000 Value.quadWord? = some c.connectTimeout :=
    Value.optional_keeps hconnect (Value.quadWord?_toNat _) of_decide_eq_true
  have hactivation : Value.optional fs "activation_timeout_ms" 2000 Value.quadWord? = some c.activationTimeout :=
    Value.optional_keeps hactivation (Value.quadWord?_toNat _) of_decide_eq_true
  have hack : Value.optional fs "ack_timeout_ms" 2000 Value.quadWord? = some c.ackTimeout :=
    Value.optional_keeps hack (Value.quadWord?_toNat _) of_decide_eq_true
  have hresponse : Value.optional fs "response_timeout_ms" 5000 Value.quadWord? = some c.responseTimeout :=
    Value.optional_keeps hresponse (Value.quadWord?_toNat _) of_decide_eq_true
  have hlimit : Value.optional fs "max_payload_size" defaultLimit Value.doubleWord? = some c.limit :=
    Value.optional_keeps hlimit (Value.doubleWord?_toNat _) of_decide_eq_true
  simp only [decode, abridged, hrecord, hname, hsource, htype, htcp, hconnect, hactivation, hack, hresponse, hlimit,
    Option.bind_eq_bind, Option.bind_some, Option.pure_def]

end ConversationSettings

namespace ServerMapping

def members (s : ServerMapping) : List Field :=
  let default : ServerMapping := { logicalAddress := s.logicalAddress, host := s.host }
  [⟨"logical_address", .natural s.logicalAddress.toNat, false⟩,
    ⟨"host", .text s.host.text, false⟩,
    ⟨"port", .natural s.port.toNat, s.port = default.port⟩]

def abridged (omitted : String → Bool) (s : ServerMapping) : Value := .abridged omitted s.members

theorem abridged_nothing (s : ServerMapping) : s.abridged (fun _ => false) = s.toValue :=
  Value.abridged_nothing s.members

theorem named_abridged (omitted : String → Bool) (s : ServerMapping) : (s.abridged omitted).Named := by
  refine .abridged ?_
  simp only [members, List.forall_mem_cons]
  exact ⟨.natural _, .text _, .natural _, nofun⟩

theorem decode_abridged (longer : Bool) (omitted : String → Bool) (s : ServerMapping) :
    decode longer (s.abridged omitted) = some s := by
  obtain ⟨fs, hrecord, hkeeps⟩ := Value.exists_kept longer omitted
    (show s.members.map Field.name = ["logical_address", "host", "port"] from rfl) (by decide)
  simp only [members, List.forall_mem_cons] at hkeeps
  obtain ⟨haddress, hhost, hport, -⟩ := hkeeps
  have haddress : Value.required fs "logical_address" Value.word? = some s.logicalAddress :=
    Value.required_keeps haddress rfl (Value.word?_toNat _)
  have hhost : Value.required fs "host" IpAddress.ofValue? = some s.host :=
    Value.required_keeps hhost rfl (IpAddress.ofValue?_text _)
  have hport : Value.optional fs "port" standardPort Value.word? = some s.port :=
    Value.optional_keeps hport (Value.word?_toNat _) of_decide_eq_true
  simp only [decode, abridged, hrecord, haddress, hhost, hport, Option.bind_eq_bind, Option.bind_some, Option.pure_def]

end ServerMapping

namespace Config

def members (o : Omission) (c : Config) : List Field :=
  let default : Config := {}
  [⟨"protocol_version", .natural c.version.toNat, c.version = default.version⟩,
    ⟨"discovery", c.discovery.abridged o.discovery, c.discovery = default.discovery⟩,
    ⟨"conversations", .list (c.conversations.mapIdx fun i s => s.abridged (o.conversation i)),
      c.conversations = default.conversations⟩,
    ⟨"servers", .list (c.servers.mapIdx fun i s => s.abridged (o.server i)), c.servers = default.servers⟩]

def abridged (o : Omission) (c : Config) : Value := .abridged o.config (c.members o)

theorem decode_abridged (longer : Bool) (o : Omission) (c : Config) : decode longer (c.abridged o) = some c := by
  obtain ⟨fs, hrecord, hkeeps⟩ := Value.exists_kept longer o.config
    (show (c.members o).map Field.name = ["protocol_version", "discovery", "conversations", "servers"] from rfl)
    (by decide)
  simp only [members, List.forall_mem_cons] at hkeeps
  obtain ⟨hversion, hdiscovery, hconversations, hservers, -⟩ := hkeeps
  have hversion : Value.optional fs "protocol_version" defaultVersion Value.byte? = some c.version :=
    Value.optional_keeps hversion (Value.byte?_toNat _) of_decide_eq_true
  have hdiscovery : Value.optional fs "discovery" {} (DiscoverySettings.decode longer) = some c.discovery :=
    Value.optional_keeps hdiscovery (DiscoverySettings.decode_abridged longer _ _) of_decide_eq_true
  have hconversations : Value.optional fs "conversations" [] (Value.list? (ConversationSettings.decode longer)) =
      some c.conversations := Value.optional_keeps hconversations
    (Value.list?_mapIdx (fun _ _ => ConversationSettings.decode_abridged longer _ _) _) of_decide_eq_true
  have hservers : Value.optional fs "servers" [] (Value.list? (ServerMapping.decode longer)) = some c.servers :=
    Value.optional_keeps hservers (Value.list?_mapIdx (fun _ _ => ServerMapping.decode_abridged longer _ _) _)
      of_decide_eq_true
  simp only [decode, abridged, hrecord, hversion, hdiscovery, hconversations, hservers, Option.bind_eq_bind,
    Option.bind_some, Option.pure_def]

theorem named_abridged (o : Omission) (c : Config) : (c.abridged o).Named := by
  have hconversations : ∀ v ∈ c.conversations.mapIdx fun i s => s.abridged (o.conversation i), v.Named := by
    intro v hv
    obtain ⟨i, hi, rfl⟩ := List.mem_mapIdx.1 hv
    exact ConversationSettings.named_abridged _ _
  have hservers : ∀ v ∈ c.servers.mapIdx fun i s => s.abridged (o.server i), v.Named := by
    intro v hv
    obtain ⟨i, hi, rfl⟩ := List.mem_mapIdx.1 hv
    exact ServerMapping.named_abridged _ _
  refine .abridged ?_
  simp only [members, List.forall_mem_cons]
  exact ⟨.natural _, DiscoverySettings.named_abridged _ _, .list hconversations, .list hservers, nofun⟩

theorem abridged_nothing (c : Config) : c.abridged {} = c.toValue := by
  have hconversations : (c.conversations.mapIdx fun _ s => s.abridged fun _ => false) =
      c.conversations.map ConversationSettings.toValue := by
    simp only [ConversationSettings.abridged_nothing]
    exact List.ext_getElem (by simp) (by simp)
  have hservers : (c.servers.mapIdx fun _ s => s.abridged fun _ => false) = c.servers.map ServerMapping.toValue := by
    simp only [ServerMapping.abridged_nothing]
    exact List.ext_getElem (by simp) (by simp)
  rw [abridged, Value.abridged_nothing]
  simp only [members, List.map_cons, List.map_nil, DiscoverySettings.abridged_nothing, hconversations, hservers]
  rfl

/-- Settings in which all that can be left out is left out. -/
theorem decode_bare :
    decode false (.table []) = some {} ∧ DiscoverySettings.decode false (.table []) = some {} ∧
      (∀ name source, ConversationSettings.decode false
        (.ofFields [("name", .text name), ("source_address", .natural source.toNat)]) = some { name, source }) ∧
      ∀ logicalAddress host, ServerMapping.decode false
        (.ofFields [("logical_address", .natural logicalAddress.toNat), ("host", .text host.text)]) =
          some { logicalAddress, host } := by
  refine ⟨?_, ?_, fun name source => ?_, fun logicalAddress host => ?_⟩
  · exact decode_abridged false { config := fun _ => true } {}
  · exact DiscoverySettings.decode_abridged false (fun _ => true) {}
  · exact ConversationSettings.decode_abridged false (fun _ => true) { name, source }
  · exact ServerMapping.decode_abridged false (fun _ => true) { logicalAddress, host }

theorem invalid_of_validate {c : Config} {e : ConfigError} (h : c.validate = .error e) :
    ∃ v : Violation, e = .invalid v.message := by
  rw [validate] at h
  split at h
  · cases h
  · rename_i v _
    cases h
    exact ⟨v, rfl⟩

/-- A document of settings is read as those settings when they can be used, and is refused for what makes them
unusable otherwise; the defaults that may be left out are those that settings begin with. -/
theorem ofJson_abridged :
    (∀ (c : Config) (o : Omission), ∀ text ∈ [Json.text (c.abridged o), Json.indented (c.abridged o)],
      (c.validate = .ok () → ofJson text = .ok c) ∧
      ∀ e, c.validate = .error e → ofJson text = .error e ∧ ∃ v : Violation, e = .invalid v.message) ∧
    (∀ c : Config, c.abridged {} = c.toValue) ∧
    (decode false (.table []) = some {} ∧ DiscoverySettings.decode false (.table []) = some {} ∧
      (∀ name source, ConversationSettings.decode false
        (.ofFields [("name", .text name), ("source_address", .natural source.toNat)]) = some { name, source }) ∧
      ∀ logicalAddress host, ServerMapping.decode false
        (.ofFields [("logical_address", .natural logicalAddress.toNat), ("host", .text host.text)]) =
          some { logicalAddress, host }) := by
  refine ⟨fun c o text htext => ?_, abridged_nothing, decode_bare⟩
  have hparse : Json.parse? text = some (c.abridged o) := by
    have hnamed := c.named_abridged o
    simp only [List.mem_cons, List.not_mem_nil, or_false] at htext
    rcases htext with rfl | rfl
    · exact Json.parse?_text hnamed
    · exact Json.parse?_indented hnamed
  have hread : ofJson text = c.validate >>= fun _ => .ok c := by
    rw [ofJson, hparse, ofDocument]
    simp only [decode_abridged]
    rfl
  refine ⟨fun hvalid => ?_, fun e hinvalid => ⟨?_, invalid_of_validate hinvalid⟩⟩
  · rw [hread, hvalid]
    rfl
  · rw [hread, hinvalid]
    rfl

/-- One server under an address of the second notation. -/
def loopbackServer : Config where
  servers := [{ logicalAddress := 0xFA25, host := .v6 ⟨[0, 0, 0, 0, 0, 0, 0, 1], rfl⟩ }]

theorem ofJson_loopbackServer :
    ofJson "\x7b\"servers\":[\x7b\"logical_address\":64037,\"host\":\"::1\"\x7d]\x7d" = .ok loopbackServer ∧
      ofJson "\x7b\"discovery\":\x7b\"timeout_ms\":0\x7d\x7d" =
        .error (.invalid "discovery.timeout_ms must be non-zero") := by
  let everything : Omission := ⟨fun _ => true, fun _ => true, fun _ _ => true, fun _ _ => true⟩
  have hserver : Json.text (loopbackServer.abridged everything) =
      "\x7b\"servers\":[\x7b\"logical_address\":64037,\"host\":\"::1\"\x7d]\x7d" := by decide +kernel
  have htimeout : Json.text (abridged everything { discovery := { timeout := 0 } }) =
      "\x7b\"discovery\":\x7b\"timeout_ms\":0\x7d\x7d" := by decide +kernel
  rw [← hserver, ← htimeout]
  exact ⟨(ofJson_abridged.1 loopbackServer everything _ List.mem_cons_self).1 (by decide),
    ((ofJson_abridged.1 { discovery := { timeout := 0 } } everything _ List.mem_cons_self).2 _ rfl).1⟩

end Config
end Doip
