import ServiceRouting.Cluster.Node
import ServiceRouting.Table

/-!
# Topologies

How many instances of a service run on which node. A node may be listed with no instance.
-/

namespace ServiceRouting

/-- The unique name of a service. -/
abbrev ServiceName := String

/-- The number of instances of a service on each node. -/
abbrev Topology := Table Nat

namespace Topology

/-- The number of all instances, as an exact sum. What becomes of a sum that no 64-bit word holds is
not modelled. -/
def total (t : Topology) : Nat := t.values.foldr (· + ·) 0

/-- Whether the service has an instance on the node. -/
def hosts (t : Topology) (id : NodeId) : Bool := (t.get? id).any (0 < ·)

end Topology

/-- A deployed service and where it runs. -/
structure ServiceDescriptor where
  name : ServiceName
  topology : Topology
deriving DecidableEq

namespace ServiceDescriptor

/-- The topology of the first of the listed services with this name. -/
def findTopology? (services : List ServiceDescriptor) (name : ServiceName) : Option Topology :=
  (services.find? (·.name = name)).map (·.topology)

end ServiceDescriptor

end ServiceRouting
