import ServiceRouting.Proxy.Basic
import ServiceRouting.Wire.Node
import ServiceRouting.Wire.Service

/-!
# Configurations

What a node is told before it starts: its identity and address, the built-in services it deploys,
its peers, where other services run, and how its proxies behave. All but identity and address have
defaults. A configuration has a JSON form, and is read from any document.
-/

namespace ServiceRouting

open Json (Value)

/-- Another node of the cluster. -/
structure PeerConfig where
  id : NodeId
  address : SocketAddress
deriving DecidableEq

/-- Where a service is known to run. -/
structure ServiceConfig where
  name : ServiceName
  topology : Topology
deriving DecidableEq

/-- How the proxies of a node behave. -/
structure ProxyConfig where
  /-- The pause before trying again, in milliseconds. -/
  retryDelayMs : Nat := 10
  /-- The largest pause, in milliseconds; pauses grow only if there is one. -/
  maxRetryDelayMs : Option Nat := none
  requestTimeoutMs : Nat := 5000
  verifySingleton : Bool := true
  sticky : Bool := false
deriving DecidableEq

/-- The configuration of a node. -/
structure NodeConfig where
  nodeId : NodeId
  /-- The address that the node listens at. -/
  bind : SocketAddress
  /-- The built-in services that the node deploys. -/
  deploy : List ServiceName
  peers : List PeerConfig
  services : List ServiceConfig
  proxy : ProxyConfig
deriving DecidableEq

namespace PeerConfig

/-- The peer as JSON. -/
def toValue (p : PeerConfig) : Value :=
  .ofMembers [("id", .string p.id), ("addr", p.address.toValue)]

/-- The fields of a peer. -/
def fields : List Document.Field :=
  [.of "id" Document.text, .of "addr" SocketAddress.ofDocument]

/-- Reads a peer. -/
def ofDocument (d : Document) : Reading PeerConfig := do
  let r ← d.record fields
  let id ← r.required "id" Document.text
  let address ← r.required "addr" SocketAddress.ofDocument
  return ⟨id, address⟩

/-- The node of a peer. -/
def node (p : PeerConfig) : Node := { id := p.id, address := p.address }

end PeerConfig

namespace ServiceConfig

/-- The service as JSON. -/
def toValue (s : ServiceConfig) : Value :=
  .ofMembers [("name", .string s.name), ("topology", s.topology.toValue)]

/-- The fields of a service. -/
def fields : List Document.Field :=
  [.of "name" Document.text, .of "topology" Topology.ofDocument]

/-- Reads a service. -/
def ofDocument (d : Document) : Reading ServiceConfig := do
  let r ← d.record fields
  let name ← r.required "name" Document.text
  let topology ← r.withDefault "topology" Table.empty Topology.ofDocument
  return ⟨name, topology⟩

end ServiceConfig

namespace ProxyConfig

/-- The settings as JSON. -/
def toValue (p : ProxyConfig) : Value :=
  .ofMembers
    [("retry_delay_ms", .ofNat p.retryDelayMs),
     ("max_retry_delay_ms", .ofOption .ofNat p.maxRetryDelayMs),
     ("request_timeout_ms", .ofNat p.requestTimeoutMs),
     ("verify_singleton", .bool p.verifySingleton),
     ("sticky", .bool p.sticky)]

/-- The fields of the settings. -/
def fields : List Document.Field :=
  [.of "retry_delay_ms" Document.count,
   .of "max_retry_delay_ms" (Document.optional Document.count),
   .of "request_timeout_ms" Document.count,
   .of "verify_singleton" Document.flag,
   .of "sticky" Document.flag]

/-- Reads the settings. -/
def ofDocument (d : Document) : Reading ProxyConfig := do
  let r ← d.record fields
  let retryDelayMs ← r.withDefault "retry_delay_ms" 10 Document.count
  let maxRetryDelayMs ←
    r.withDefault "max_retry_delay_ms" none (Document.optional Document.count)
  let requestTimeoutMs ← r.withDefault "request_timeout_ms" 5000 Document.count
  let verifySingleton ← r.withDefault "verify_singleton" true Document.flag
  let sticky ← r.withDefault "sticky" false Document.flag
  return { retryDelayMs, maxRetryDelayMs, requestTimeoutMs, verifySingleton, sticky }

/-- The backoff: none for a pause of zero, exponential if the largest pause is longer than the
first. -/
def backoff (p : ProxyConfig) : Backoff :=
  if p.retryDelayMs = 0 then .none
  else
    match p.maxRetryDelayMs with
    | some largest =>
      if p.retryDelayMs < largest then
        .exponential (.ofMillis p.retryDelayMs) (.ofMillis largest)
      else .fixed (.ofMillis p.retryDelayMs)
    | none => .fixed (.ofMillis p.retryDelayMs)

/-- How long a request may take. -/
def requestTimeout (p : ProxyConfig) : Duration := .ofMillis p.requestTimeoutMs

/-- The options of the proxies. -/
def options (p : ProxyConfig) : ProxyOptions :=
  { selector := { sticky := p.sticky, verifySingleton := p.verifySingleton }
    backoff := p.backoff }

end ProxyConfig

namespace NodeConfig

/-- The configuration as JSON. -/
def toValue (c : NodeConfig) : Value :=
  .ofMembers
    [("node_id", .string c.nodeId), ("bind", c.bind.toValue),
     ("deploy", .ofList .string c.deploy), ("peers", .ofList PeerConfig.toValue c.peers),
     ("services", .ofList ServiceConfig.toValue c.services), ("proxy", c.proxy.toValue)]

/-- The fields of a configuration. -/
def fields : List Document.Field :=
  [.of "node_id" Document.text, .of "bind" SocketAddress.ofDocument,
   .of "deploy" (Document.list Document.text),
   .of "peers" (Document.list PeerConfig.ofDocument),
   .of "services" (Document.list ServiceConfig.ofDocument),
   .of "proxy" ProxyConfig.ofDocument]

/-- Reads a configuration. -/
def ofDocument (d : Document) : Reading NodeConfig := do
  let r ← d.record fields
  let nodeId ← r.required "node_id" Document.text
  let bind ← r.required "bind" SocketAddress.ofDocument
  let deploy ← r.withDefault "deploy" [] (Document.list Document.text)
  let peers ← r.withDefault "peers" [] (Document.list PeerConfig.ofDocument)
  let services ← r.withDefault "services" [] (Document.list ServiceConfig.ofDocument)
  let proxy ← r.withDefault "proxy" {} ProxyConfig.ofDocument
  return { nodeId, bind, deploy, peers, services, proxy }

/-- The node itself. -/
def localNode (c : NodeConfig) : Node := { id := c.nodeId, address := c.bind }

/-- The nodes of the peers, as they are listed. -/
def peerNodes (c : NodeConfig) : List Node := c.peers.map PeerConfig.node

/-- The services and where they run, as they are listed. -/
def topologies (c : NodeConfig) : List (ServiceName × Topology) :=
  c.services.map fun s => (s.name, s.topology)

end NodeConfig

end ServiceRouting
