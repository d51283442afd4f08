import ServiceRouting.Cluster.Members
import ServiceRouting.Config.Validation

/-!
# Starting a node

What a node knows when it starts: the members are the node itself and its peers, the services are
the configured ones with their topologies, and the deployed ones run on the node.
-/

namespace ServiceRouting

/-- The state of a node that starts. -/
structure Startup where
  cluster : Cluster
  registry : Registry Builtin
  options : ProxyOptions
  requestTimeout : Duration

namespace Startup

/-- The member table. -/
def members (c : NodeConfig) : Cluster :=
  c.peerNodes.foldl Cluster.join (.ofNode c.localNode)

/-- The registry before services are deployed. -/
def configured (c : NodeConfig) : Registry Builtin :=
  c.topologies.foldl (fun r s => r.setTopology s.1 s.2) (.ofNode c.nodeId)

/-- Deploys a built-in service; a name that is not built in is the error. -/
def deployBuiltin (r : Registry Builtin) (name : ServiceName) :
    Except ServiceName (Registry Builtin) :=
  match Builtin.service? id name with
  | some service => .ok (r.deploy service)
  | none => .error name

/-- The configuration with another address to listen at. -/
def bound (c : NodeConfig) (bind : Option SocketAddress) : NodeConfig :=
  { c with bind := bind.getD c.bind }

/-- Starts a node, at another address than the configured one if there is one. -/
def start (config : NodeConfig) (bind : Option SocketAddress) : Except ServiceName Startup := do
  let c := bound config bind
  let registry ← c.deploy.foldlM deployBuiltin (configured c)
  return {
    cluster := members c
    registry
    options := c.proxy.options
    requestTimeout := c.proxy.requestTimeout }

end Startup

end ServiceRouting
