import ServiceRouting.Service.Signature
import ServiceRouting.Service.Topology

/-!
# Call descriptors

All that a node needs to run a call.
-/

namespace ServiceRouting

/-- A call of a method of a service. -/
structure CallDescriptor where
  service : ServiceName
  method : String
  args : List Json.Value

/-- The signature that the call is served under. -/
def CallDescriptor.signature (c : CallDescriptor) : Signature := .ofCall c.method c.args

/-- Whether a transport may repeat a submission to the same node. -/
inductive Failover where
  | disabled
  | enabled
deriving DecidableEq

end ServiceRouting
