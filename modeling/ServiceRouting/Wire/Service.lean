import ServiceRouting.Document
import ServiceRouting.Service.Topology

/-!
# Services on the wire

The JSON form of a deployed service, and the bodies of the public endpoints: where a service runs,
and what came of an invocation.
-/

namespace ServiceRouting

open Json (Value)

namespace Topology

/-- The topology as JSON. -/
def toValue (t : Topology) : Value := .ofTable .ofNat t

/-- Reads a topology. -/
def ofDocument (d : Document) : Reading Topology := d.table Document.count

end Topology

namespace ServiceDescriptor

/-- The service as JSON. -/
def toValue (s : ServiceDescriptor) : Value :=
  .ofMembers [("name", .string s.name), ("topology", s.topology.toValue)]

/-- The fields of a service. -/
def fields : List Document.Field :=
  [.of "name" Document.text, .of "topology" Topology.ofDocument]

/-- Reads a service. -/
def ofDocument (d : Document) : Reading ServiceDescriptor := do
  let r ← d.record fields
  let name ← r.required "name" Document.text
  let topology ← r.required "topology" Topology.ofDocument
  return ⟨name, topology⟩

end ServiceDescriptor

/-- What the public endpoint answers to an invocation. -/
structure ServiceInvokeResponse where
  value : Option Value
  error : Option String

namespace ServiceInvokeResponse

/-- The answer as JSON. -/
def toValue (r : ServiceInvokeResponse) : Value :=
  .ofMembers [("value", .ofOption id r.value), ("error", .ofOption .string r.error)]

/-- The fields of an answer. -/
def fields : List Document.Field :=
  [.of "value" (Document.optional Document.value), .of "error" (Document.optional Document.text)]

/-- Reads an answer. -/
def ofDocument (d : Document) : Reading ServiceInvokeResponse := do
  let r ← d.record fields
  let value ← r.optional "value" Document.value
  let error ← r.optional "error" Document.text
  return ⟨value, error⟩

end ServiceInvokeResponse

/-- What the public endpoint answers about a service. -/
structure TopologyResponse where
  service : ServiceName
  topology : Topology
  /-- The number of all instances. -/
  total : Nat
deriving DecidableEq

namespace TopologyResponse

/-- The answer about a service that runs where the topology says. -/
def ofTopology (service : ServiceName) (topology : Topology) : TopologyResponse :=
  ⟨service, topology, topology.total⟩

/-- The answer as JSON. -/
def toValue (r : TopologyResponse) : Value :=
  .ofMembers
    [("service", .string r.service), ("topology", r.topology.toValue),
     ("total_instances", .ofNat r.total)]

/-- The fields of an answer. -/
def fields : List Document.Field :=
  [.of "service" Document.text, .of "topology" Topology.ofDocument,
   .of "total_instances" Document.count]

/-- Reads an answer. -/
def ofDocument (d : Document) : Reading TopologyResponse := do
  let r ← d.record fields
  let service ← r.required "service" Document.text
  let topology ← r.required "topology" Topology.ofDocument
  let total ← r.required "total_instances" Document.count
  return ⟨service, topology, total⟩

end TopologyResponse

end ServiceRouting
