import Doip.IpAddress
import Doip.Document.Value
import Doip.Frame.Basic

/-! The client's settings: the protocol version, discovery, one conversation for each tester, and the known
servers. `Config.decode` reads them from a document, where every field but names and addresses may be
left out, and `Config.toValue` writes all of them. Times are in milliseconds. -/

namespace Doip

/-- The port of the protocol, over UDP and TCP. -/
def standardPort : UInt16 := 13400

structure DiscoverySettings where
  /-- Where the discovery socket is bound. -/
  localAddress : IpAddress := .unspecified
  /-- Where the identification request goes. -/
  broadcastAddress : IpAddress := .broadcast
  port : UInt16 := standardPort
  /-- How long answers are collected. -/
  timeout : UInt64 := 2000
deriving DecidableEq

structure ConversationSettings where
  name : String
  /-- The logical address of the tester. -/
  source : Address
  activationType : UInt8 := 0
  /-- The port of a server that no mapping names. -/
  tcpPort : UInt16 := standardPort
  connectTimeout : UInt64 := 5000
  activationTimeout : UInt64 := 2000
  ackTimeout : UInt64 := 2000
  responseTimeout : UInt64 := 5000
  limit : UInt32 := defaultLimit
deriving DecidableEq

/-- Where a server with a known logical address listens. -/
structure ServerMapping where
  logicalAddress : Address
  host : IpAddress
  port : UInt16 := standardPort
deriving DecidableEq

structure Config where
  version : UInt8 := defaultVersion
  discovery : DiscoverySettings := {}
  conversations : List ConversationSettings := []
  servers : List ServerMapping := []
deriving DecidableEq

def IpAddress.ofValue? (v : Value) : Option IpAddress := v.text?.bind IpAddress.parse?

namespace DiscoverySettings

def fields : List String := ["local_address", "broadcast_address", "port", "timeout_ms"]

def decode (longer : Bool) (v : Value) : Option DiscoverySettings := do
  let fs ← v.record? longer fields
  return {
    localAddress := ← Value.optional fs "local_address" .unspecified IpAddress.ofValue?
    broadcastAddress := ← Value.optional fs "broadcast_address" .broadcast IpAddress.ofValue?
    port := ← Value.optional fs "port" standardPort Value.word?
    timeout := ← Value.optional fs "timeout_ms" 2000 Value.quadWord? }

def toValue (d : DiscoverySettings) : Value := .ofFields [
  ("local_address", .text d.localAddress.text),
  ("broadcast_address", .text d.broadcastAddress.text),
  ("port", .natural d.port.toNat),
  ("timeout_ms", .natural d.timeout.toNat)]

end DiscoverySettings

namespace ConversationSettings

def fields : List String := ["name", "source_address", "activation_type", "tcp_port", "connect_timeout_ms",
  "activation_timeout_ms", "ack_timeout_ms", "response_timeout_ms", "max_payload_size"]

def decode (longer : Bool) (v : Value) : Option ConversationSettings := do
  let fs ← v.record? longer fields
  return {
    name := ← Value.required fs "name" Value.text?
    source := ← Value.required fs "source_address" Value.word?
    activationType := ← Value.optional fs "activation_type" 0 Value.byte?
    tcpPort := ← Value.optional fs "tcp_port" standardPort Value.word?
    connectTimeout := ← Value.optional fs "connect_timeout_ms" 5000 Value.quadWord?
    activationTimeout := ← Value.optional fs "activation_timeout_ms" 2000 Value.quadWord?
    ackTimeout := ← Value.optional fs "ack_timeout_ms" 2000 Value.quadWord?
    responseTimeout := ← Value.optional fs "response_timeout_ms" 5000 Value.quadWord?
    limit := ← Value.optional fs "max_payload_size" defaultLimit Value.doubleWord? }

def toValue (c : ConversationSettings) : Value := .ofFields [
  ("name", .text c.name),
  ("source_address", .natural c.source.toNat),
  ("activation_type", .natural c.activationType.toNat),
  ("tcp_port", .natural c.tcpPort.toNat),
  ("connect_timeout_ms", .natural c.connectTimeout.toNat),
  ("activation_timeout_ms", .natural c.activationTimeout.toNat),
  ("ack_timeout_ms", .natural c.ackTimeout.toNat),
  ("response_timeout_ms", .natural c.responseTimeout.toNat),
  ("max_payload_size", .natural c.limit.toNat)]

/-- The four timeouts with the names of their fields, in the order of a connection's life. -/
def timeouts (c : ConversationSettings) : List (String × UInt64) := [
  ("connect_timeout_ms", c.connectTimeout),
  ("activation_timeout_ms", c.activationTimeout),
  ("ack_timeout_ms", c.ackTimeout),
  ("response_timeout_ms", c.responseTimeout)]

end ConversationSettings

namespace ServerMapping

def decode (longer : Bool) (v : Value) : Option ServerMapping := do
  let fs ← v.record? longer ["logical_address", "host", "port"]
  return {
    logicalAddress := ← Value.required fs "logical_address" Value.word?
    host := ← Value.required fs "host" IpAddress.ofValue?
    port := ← Value.optional fs "port" standardPort Value.word? }

def toValue (s : ServerMapping) : Value := .ofFields [
  ("logical_address", .natural s.logicalAddress.toNat),
  ("host", .text s.host.text),
  ("port", .natural s.port.toNat)]

end ServerMapping

namespace Config

def decode (longer : Bool) (v : Value) : Option Config := do
  let fs ← v.record? longer ["protocol_version", "discovery", "conversations", "servers"]
  return {
    version := ← Value.optional fs "protocol_version" defaultVersion Value.byte?
    discovery := ← Value.optional fs "discovery" {} (DiscoverySettings.decode longer)
    conversations := ← Value.optional fs "conversations" [] (Value.list? (ConversationSettings.decode longer))
    servers := ← Value.optional fs "servers" [] (Value.list? (ServerMapping.decode longer)) }

def toValue (c : Config) : Value := .ofFields [
  ("protocol_version", .natural c.version.toNat),
  ("discovery", c.discovery.toValue),
  ("conversations", .list (c.conversations.map ConversationSettings.toValue)),
  ("servers", .list (c.servers.map ServerMapping.toValue))]

def conversation? (c : Config) (name : String) : Option ConversationSettings :=
  c.conversations.find? (·.name = name)

def server? (c : Config) (target : Address) : Option ServerMapping :=
  c.servers.find? (·.logicalAddress = target)

end Config
end Doip
