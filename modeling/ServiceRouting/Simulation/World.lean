import ServiceRouting.Proxy.Grid
import ServiceRouting.Simulation.Random
import ServiceRouting.Simulation.Script
import ServiceRouting.Transport.InProcess

/-!
# A simulated process

One member table, registries by name, a transport and a grid, with the proxies and selectors made
on them. Everything here happens at once; what takes time is in `Simulation.Call`. Random numbers
are drawn in turn from a fixed sequence.
-/

namespace ServiceRouting.Simulation

open Json (Value)

/-- A selector with the slot it fills and the registry it asks. -/
structure Resolver where
  selector : Selector
  registry : RegistryNumber
  slot : StickySlot

/-- A call handed to the scripted transport. -/
structure Submission where
  target : Node
  call : CallDescriptor
  failover : Failover

/-- The transport of the process. -/
inductive TransportKind where
  | scripted
  | inProcess
deriving DecidableEq

/-- The scripted transport. -/
structure ScriptedTransport where
  /-- The prepared answers, the next one first. -/
  queue : List PreparedAnswer := []
  missing : List NodeId := []
  /-- The calls of the current step, the last one first. -/
  log : List Submission := []

/-- The state of a simulated process. -/
structure World where
  cluster : Cluster
  /-- All registries ever made, in order. -/
  registries : List (Registry Handler)
  registryNames : Table RegistryNumber
  transport : TransportKind
  scripted : ScriptedTransport
  inProcess : InProcess
  resolvers : Table Resolver
  grid : Grid
  proxyNames : Table ProxyNumber
  /-- How many random numbers were drawn. -/
  draws : Nat
  /-- How many tags were given to resolved nodes. -/
  tags : Nat
  /-- The time in milliseconds. -/
  now : Nat

namespace World

/-- The name of the registry of the local node. -/
def mainRegistry : String := "main"

/-- The process on a node that knows no other. -/
def ofNode (localNode : Node) (transport : TransportKind) (options : ProxyOptions) : World where
  cluster := .ofNode localNode
  registries := [.ofNode localNode.id]
  registryNames := Table.empty.insert mainRegistry 0
  transport := transport
  scripted := {}
  inProcess := .empty
  resolvers := Table.empty
  grid := .make 0 options
  proxyNames := Table.empty
  draws := 0
  tags := 0
  now := 0

/-- The registry with this name. -/
def registry? (w : World) (name : String) : Option (Registry Handler) :=
  (w.registryNames.get? name).bind (w.registries[·]?)

/-- Changes the registry with this name. -/
def mapRegistry (w : World) (name : String) (f : Registry Handler → Registry Handler) : World :=
  match w.registryNames.get? name with
  | some number => { w with registries := w.registries.modify number f }
  | none => w

/-- Makes a registry under a name. -/
def addRegistry (w : World) (name : String) (node : NodeId) : World :=
  { w with
    registryNames := w.registryNames.insert name w.registries.length
    registries := w.registries ++ [.ofNode node] }

/-- The number of a proxy. A shared one is made if it is not there. -/
def findProxy (w : World) : ProxyRef → World × Option ProxyNumber
  | .named name => (w, w.proxyNames.get? name)
  | .shared service =>
    let found := w.grid.serviceProxy w.cluster service
    ({ w with grid := found.1 }, some found.2)

/-- The proxy with this number. -/
def proxy? (w : World) (number : ProxyNumber) : Option Proxy := w.grid.pool.get? number

/-- Sets the slot of a proxy. -/
def setProxySlot (w : World) (number : ProxyNumber) (slot : StickySlot) : World :=
  { w with grid := { w.grid with pool := w.grid.pool.setSlot number slot } }

/-- A resolver, and how to put back another slot for it. -/
def findResolver (w : World) :
    SelectorRef → World × Option (Resolver × (World → StickySlot → World))
  | .named name =>
    (w, (w.resolvers.get? name).map fun r =>
      (r, fun w slot => { w with resolvers := w.resolvers.insert name { r with slot } }))
  | .proxy name => pooled (w.findProxy (.named name))
  | .shared service => pooled (w.findProxy (.shared service))
where
  /-- The resolver of a proxy that was looked up. -/
  pooled (found : World × Option ProxyNumber) :
      World × Option (Resolver × (World → StickySlot → World)) :=
    (found.1, do
      let number ← found.2
      let p ← found.1.proxy? number
      return (⟨p.selector, p.registry, p.slot⟩, fun w slot => w.setProxySlot number slot))

/-- The choice that a resolver has for a service. -/
def choice (w : World) (r : Resolver) (service : ServiceName) : Choice :=
  match w.registries[r.registry]? with
  | some registry => r.selector.choice w.cluster registry service
  | none => .settled none

/-- Draws a random number and takes a tag. -/
def draw (w : World) : World × Nat × Tag :=
  ({ w with draws := w.draws + 1, tags := w.tags + 1 }, randomAt w.draws, w.tags)

/-- Resolves once. -/
def resolve (w : World) (ref : SelectorRef) (service : ServiceName) : World × Option Target :=
  match w.findResolver ref with
  | (w, none) => (w, none)
  | (w, some (r, putSlot)) =>
    match w.registries[r.registry]? with
    | none => (w, none)
    | some registry =>
      let (w, draw, tag) := w.draw
      let (slot, target) := r.selector.resolve w.cluster registry service draw tag r.slot
      (putSlot w slot, target)

/-- Clears a slot with what it holds, and tells whether it was cleared; none if it is empty. -/
def clearHeld (w : World) (ref : SelectorRef) : World × Option Bool :=
  match w.findResolver ref with
  | (w, none) => (w, none)
  | (w, some (r, putSlot)) =>
    match r.slot.held with
    | none => (w, none)
    | some target =>
      let (slot, cleared) := r.slot.clearIf target.tag
      (putSlot w slot, some cleared)

/-- Makes a proxy under a name. -/
def makeProxy (w : World) (name registry : String) (service : ServiceName)
    (projection : Projection) (options : ProxyOptions) (viaGrid : Bool) : World :=
  if viaGrid then
    let (grid, number) := w.grid.proxyFor w.cluster service projection options
    { w with grid, proxyNames := w.proxyNames.insert name number }
  else
    match w.registryNames.get? registry with
    | none => w
    | some registry =>
      let (pool, number) :=
        w.grid.pool.addSeparate w.cluster service projection registry options
      { w with
        grid := { w.grid with pool }
        proxyNames := w.proxyNames.insert name number }

/-- Makes a selector under a name. -/
def makeSelector (w : World) (name registry : String) (projection : Projection)
    (options : SelectorOptions) : World :=
  match w.registryNames.get? registry with
  | none => w
  | some registry =>
    let selector := Selector.ofProjection w.cluster projection options
    { w with resolvers := w.resolvers.insert name ⟨selector, registry, .empty⟩ }

/-- Deploys a service with these methods. -/
def deploy (w : World) (registry : String) (service : Service Handler) : World :=
  w.mapRegistry registry (·.deploy service)

/-- What happens when an action is performed. -/
def perform (w : World) : Action → World
  | .join n => { w with cluster := w.cluster.join n }
  | .leave id => { w with cluster := (w.cluster.leave id).1 }
  | .setState id state => { w with cluster := (w.cluster.setState id state).1 }
  | .addRegistry name node => w.addRegistry name node
  | .setTopology registry service topology =>
    w.mapRegistry registry (·.setTopology service topology)
  | .setInstances registry service node count =>
    w.mapRegistry registry (·.setInstances service node count)
  | .removeService registry service => w.mapRegistry registry (·.removeService service)
  | .deployBuiltin registry service methods =>
    match Builtin.service? Handler.builtin service with
    | some s => w.deploy registry (s.registerAll (handlers methods))
    | none => w
  | .deploy registry service methods =>
    w.deploy registry ((Service.ofName service).registerAll (handlers methods))
  | .undeploy registry service => w.mapRegistry registry fun r => (r.undeploy service).1
  | .register registry service methods =>
    w.mapRegistry registry fun r =>
      (handlers methods).foldl (fun r m => r.register service m.1 m.2) r
  | .prepare answers =>
    { w with scripted := { w.scripted with queue := w.scripted.queue ++ answers } }
  | .setMissing ids => { w with scripted := { w.scripted with missing := ids } }
  | .attach node registry =>
    match w.registryNames.get? registry with
    | some number => { w with inProcess := w.inProcess.attach node number }
    | none => w
  | .detach node => { w with inProcess := (w.inProcess.detach node).1 }
  | .makeSelector name registry projection options =>
    w.makeSelector name registry projection options
  | .resolve ref service => (w.resolve ref service).1
  | .clearHeld ref => (w.clearHeld ref).1
  | .makeProxy name registry service projection options viaGrid =>
    w.makeProxy name registry service projection options viaGrid
  | .find ref => (w.findProxy ref).1
  | .cancel ref =>
    match w.findProxy ref with
    | (w, some number) => { w with grid := { w.grid with pool := w.grid.pool.cancel number } }
    | (w, none) => w
  | .shutdown => { w with grid := w.grid.shutdown }

/-- Performs actions one by one. -/
def performAll (w : World) (actions : List Action) : World := actions.foldl perform w

end World

end ServiceRouting.Simulation
