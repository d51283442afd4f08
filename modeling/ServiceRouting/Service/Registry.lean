import ServiceRouting.Service.Instance

/-!
# The service registry of a node

Where each service of the cluster runs, and the services that run on this node. Deploying a service
here counts as at least one instance on this node; taking it back sets the count to zero and leaves
the other nodes as they are.
-/

namespace ServiceRouting

universe u

/-- What a node knows of the services of the cluster. -/
structure Registry (Handler : Type u) where
  /-- The node that the registry belongs to. -/
  nodeId : NodeId
  /-- The known services and where they run. -/
  topologies : Table Topology
  /-- The services running on this node. -/
  handles : Table (Service Handler)

namespace Registry

variable {Handler : Type u}

/-- A registry without services. -/
def ofNode (nodeId : NodeId) : Registry Handler := ⟨nodeId, Table.empty, Table.empty⟩

/-- Replaces the topology of a service. -/
def setTopology (r : Registry Handler) (name : ServiceName) (t : Topology) : Registry Handler :=
  { r with topologies := r.topologies.insert name t }

/-- Sets the number of instances of a service on a node. -/
def setInstances (r : Registry Handler) (name : ServiceName) (node : NodeId) (count : Nat) :
    Registry Handler :=
  let t := (r.topologies.get? name).getD Table.empty
  r.setTopology name (t.insert node count)

/-- Forgets a service, also its instance on this node. -/
def removeService (r : Registry Handler) (name : ServiceName) : Registry Handler :=
  { r with topologies := r.topologies.erase name, handles := r.handles.erase name }

/-- Runs a service on this node. -/
def deploy (r : Registry Handler) (service : Service Handler) : Registry Handler :=
  let t := (r.topologies.get? service.name).getD Table.empty
  let count := max ((t.get? r.nodeId).getD 0) 1
  { r with
    topologies := r.topologies.insert service.name (t.insert r.nodeId count)
    handles := r.handles.insert service.name service }

/-- Takes a service back from this node and gives the instance that ran. -/
def undeploy (r : Registry Handler) (name : ServiceName) :
    Registry Handler × Option (Service Handler) :=
  ({ r with
     topologies := r.topologies.modify name (·.insert r.nodeId 0)
     handles := r.handles.erase name },
   r.handles.get? name)

/-- Registers a method on the instance that runs here, if there is one. -/
def register (r : Registry Handler) (name : ServiceName) (signature : Signature)
    (handler : Handler) : Registry Handler :=
  { r with handles := r.handles.modify name (·.register signature handler) }

/-- Where a service runs. -/
def topology? (r : Registry Handler) (name : ServiceName) : Option Topology :=
  r.topologies.get? name

/-- The instance of a service on this node. -/
def handle? (r : Registry Handler) (name : ServiceName) : Option (Service Handler) :=
  r.handles.get? name

/-- The known services by name. -/
def services (r : Registry Handler) : List ServiceDescriptor :=
  r.topologies.entries.map fun e => ⟨e.1, e.2⟩

/-- The number of known services. -/
def serviceCount (r : Registry Handler) : Nat := r.topologies.size

end Registry

end ServiceRouting
