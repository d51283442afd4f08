import ServiceRouting.Endpoint.Answer

/-!
# Calls among nodes

Nodes that post calls to each other on a network of which nothing is assumed. Any node may listen at
an address, or none; a request or its answer may be lost, and an answer may break off; every member
table may be stale or wrong, and all of it may change at any moment. The world decides that, and
what is done is written down. What a sender and a node do themselves is what the program does:
`Http.submit` and `Endpoint.answer`.
-/

namespace ServiceRouting

namespace Http

open Json (Value)

/-- How much of an answer comes back to the sender in time. -/
inductive Arrival where
  | lost
  | broken
  | whole

section

variable {Peer Handler : Type}

/-- What is done for a call, at the sender or at a node. -/
inductive Deed (Peer Handler : Type) where
  /-- A request was sent to an address. -/
  | sent (address : SocketAddress) (request : InvokeRequest)
  /-- A node that listens at an address received a request. -/
  | received (address : SocketAddress) (node : Peer) (request : Request)
  /-- A handler of a node ran to its end. -/
  | ran (node : Peer) (handler : Handler) (args : List Value) (outcome : Outcome)
  /-- A node invoked a method through its own proxies. -/
  | forwarded (node : Peer) (service : ServiceName) (method : String) (args : List Value)
  /-- The answer of a node came back, whole or broken off. -/
  | answered (node : Peer) (answer : Answer) (whole : Bool)

/-- What was done, in order. -/
abbrev Deeds (Peer Handler : Type) := List (Deed Peer Handler)

/-- The effects that are written down. -/
abbrev Account (Peer Handler : Type) := StateM (Deeds Peer Handler)

/-- What the world decides after anything that was done. -/
structure World (Peer Handler : Type) where
  /-- The identity that a node was started with. -/
  localId : Peer → NodeId
  /-- The member table of a node. -/
  table : Deeds Peer Handler → Peer → Cluster
  /-- In its own table a node is the local one. -/
  identified : ∀ past node, (table past node).localNode.id = localId node
  registry : Deeds Peer Handler → Peer → Registry Handler
  /-- The node that listens at an address, if a request gets to any. -/
  listener : Deeds Peer Handler → SocketAddress → Option Peer
  outcome : Deeds Peer Handler → Peer → Handler → List Value → Outcome
  /-- What an invocation through a node's own proxies comes to. -/
  invoke : Deeds Peer Handler → Peer → ServiceName → String → List Value →
    Except InvocationError Value
  arrival : Deeds Peer Handler → Peer → Answer → Arrival
  draw : Deeds Peer Handler → Nat
  /-- A status with its reason. -/
  reasoned : Nat → String

/-- Looks at the world as it is now. -/
def look {α : Type} (view : Deeds Peer Handler → α) : Account Peer Handler α :=
  fun past => (view past, past)

/-- Writes down what is done. -/
def note (deeds : Deeds Peer Handler) : Account Peer Handler Unit :=
  fun past => ((), past ++ deeds)

/-- What the sender sees of an answer. -/
def Arrival.sending (reasoned : Nat → String) (answer : Answer) : Arrival → Sending
  | lost => .lost
  | broken => .answered (reasoned answer.status) none
  | whole => .answered (reasoned answer.status) (answer.body.map Value.text)

/-- What is done when an answer comes back. -/
def Arrival.deeds (node : Peer) (answer : Answer) : Arrival → Deeds Peer Handler
  | lost => []
  | broken => [.answered node answer false]
  | whole => [.answered node answer true]

namespace World

variable (w : World Peer Handler)

/-- Runs a handler of a node. -/
def run (node : Peer) (handler : Handler) (args : List Value) : Account Peer Handler Outcome := do
  let outcome ← look (w.outcome · node handler args)
  note [.ran node handler args outcome]
  return outcome

/-- Invokes a method through a node's own proxies. -/
def forward (node : Peer) (service : ServiceName) (method : String) (args : List Value) :
    Account Peer Handler (Except InvocationError Value) := do
  note [.forwarded node service method args]
  look (w.invoke · node service method args)

/-- The answer of a node to a request, given by its registry of this moment. -/
def answer (node : Peer) (request : Request) : Account Peer Handler Answer := do
  let table ← look (w.table · node)
  let registry ← look (w.registry · node)
  Endpoint.answer (w.run node) table.localNode.id registry (w.forward node) request

/-- Sends a call to an address once. -/
def send (address : SocketAddress) (request : InvokeRequest) : Account Peer Handler Sending := do
  note [.sent address request]
  match ← look (w.listener · address) with
  | none => return .lost
  | some node =>
    note [.received address node (posted request)]
    let answer ← w.answer node (posted request)
    let arrival ← look (w.arrival · node answer)
    note (arrival.deeds node answer)
    return arrival.sending w.reasoned answer

/-- The network between the nodes. -/
def network : Network (Account Peer Handler) :=
  Network.withoutScopes
    { send := w.send
      draw := look w.draw
      wait := fun _ => return () }

/-- Submits a call at a node, by its member table of this moment. -/
def submit (caller : Peer) (target : Node) (call : CallDescriptor) (failover : Failover) :
    Account Peer Handler (Except DispatchError Value) := do
  let table ← look (w.table · caller)
  Http.submit w.network table target call failover

end World

end

end Http

end ServiceRouting
