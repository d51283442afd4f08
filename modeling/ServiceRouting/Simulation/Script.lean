import ServiceRouting.Cluster.Projection
import ServiceRouting.Proxy.Basic
import ServiceRouting.Service.Builtin
import ServiceRouting.Wire.Response

/-!
# Scripts

What can be made to happen in a simulated process: actions that take no time, methods that do what
they are told, and prepared answers of a transport. A method or an answer may carry actions, which
happen when it has waited.
-/

namespace ServiceRouting.Simulation

open Json (Value)

/-- Whose selector is meant. -/
inductive SelectorRef where
  /-- A selector that belongs to no proxy. -/
  | named (name : String)
  /-- The selector of a proxy with this name. -/
  | proxy (name : String)
  /-- The selector of the shared proxy of a service. -/
  | shared (service : ServiceName)

/-- Which proxy is meant. -/
inductive ProxyRef where
  | named (name : String)
  /-- The proxy of the grid for a service, made on first use. -/
  | shared (service : ServiceName)

/-- The selector of a proxy. -/
def ProxyRef.selector : ProxyRef → SelectorRef
  | named name => .proxy name
  | shared service => .shared service

/-- What a scripted method does at last. -/
inductive Ending where
  /-- Gives its arguments as an array. -/
  | echo
  | fail (source : ErrorChain)
  | give (value : Value)

mutual
/-- Something that happens at once. -/
inductive Action where
  | join (n : Node)
  | leave (id : NodeId)
  | setState (id : NodeId) (state : NodeState)
  /-- Makes a registry for a node, under a name. -/
  | addRegistry (name : String) (node : NodeId)
  | setTopology (registry : String) (service : ServiceName) (topology : Topology)
  | setInstances (registry : String) (service : ServiceName) (node : NodeId) (count : Nat)
  | removeService (registry : String) (service : ServiceName)
  /-- Deploys a built-in service with methods of its own and more. -/
  | deployBuiltin (registry : String) (service : ServiceName) (methods : List Method)
  | deploy (registry : String) (service : ServiceName) (methods : List Method)
  | undeploy (registry : String) (service : ServiceName)
  /-- Registers methods on the instance that runs. -/
  | register (registry : String) (service : ServiceName) (methods : List Method)
  /-- Prepares answers of the transport. -/
  | prepare (answers : List PreparedAnswer)
  /-- The nodes on which the transport finds no service. -/
  | setMissing (ids : List NodeId)
  | attach (node : NodeId) (registry : String)
  | detach (node : NodeId)
  | makeSelector (name registry : String) (projection : Projection) (options : SelectorOptions)
  | resolve (selector : SelectorRef) (service : ServiceName)
  /-- Clears the slot with what it holds. -/
  | clearHeld (selector : SelectorRef)
  | makeProxy (name registry : String) (service : ServiceName) (projection : Projection)
      (options : ProxyOptions) (viaGrid : Bool)
  /-- Looks up a proxy, which makes a shared one on first use. -/
  | find (proxy : ProxyRef)
  | cancel (proxy : ProxyRef)
  | shutdown

/-- A method that does what it is told: it waits, then its actions happen, then it ends. -/
inductive Method where
  | mk (signature : Signature) (sleepMs : Nat) (also : List Action) (ending : Ending)

/-- A prepared answer: after a wait its actions happen, then it is given. -/
inductive PreparedAnswer where
  | mk (sleepMs : Nat) (also : List Action) (result : Except DispatchError Value)
end

namespace Method

/-- The signature that the method is registered under. -/
def signature : Method → Signature
  | mk signature .. => signature

end Method

/-- What serves a call. -/
inductive Handler where
  | builtin (method : Builtin)
  | scripted (method : Method)

/-- Scripted methods with their signatures. -/
def handlers (methods : List Method) : List (Signature × Handler) :=
  methods.map fun m => (m.signature, .scripted m)

end ServiceRouting.Simulation
