import ServiceRouting.Cluster.Members
import ServiceRouting.Json.Reader
import ServiceRouting.Wire.Response

/-!
# Calls over HTTP

A call is posted to the address that the member table has for its node. A request that gets no
answer is repeated if the caller allows it, with growing waits; if none is answered the node counts
as gone. Only an answer that cannot be read, or a request that cannot be made, is a failure of the
transport itself.

The network is a parameter, in any monad of effects: the same definitions serve sockets and an
account of what was sent and how long was waited.
-/

namespace ServiceRouting

/-- The path that calls of other nodes are posted to. -/
def internalInvokePath : String := "/internal/service/invoke"

namespace Http

/-- What comes of sending a request once. -/
inductive Sending where
  /-- An answer came: its status with the reason, and its body unless that broke off. -/
  | answered (status : String) (body : Option String)
  /-- The connection failed, or no answer came in time. -/
  | lost
  /-- The address makes no request, for this reason. -/
  | unbuildable (reason : String)
deriving Inhabited

/-- Whether an answer came. -/
def Sending.isAnswered : Sending → Bool
  | answered .. => true
  | _ => false

/-- A network. -/
structure Network (m : Type → Type) where
  /-- Sends a request to an address once. -/
  send : SocketAddress → InvokeRequest → m Sending
  /-- Draws any number. -/
  draw : m Nat
  /-- Waits so many milliseconds. -/
  wait : Nat → m Unit

/-- How often a request may be sent. -/
def attemptLimit : Failover → Nat
  | .disabled => 1
  | .enabled => 3

/-- The wait in milliseconds before a request is sent again, without jitter. Waits are counted from
one. -/
def waitBase (number : Nat) : Nat := Nat.min (150 * Nat.pow 2 (number - 1)) 1200

/-- Each wait is twice as long as the one before, up to 1200 milliseconds. -/
theorem waitBase_succ (number : Nat) :
    waitBase (number + 2) = Nat.min (waitBase (number + 1) * 2) 1200 := by
  have hpower : Nat.pow 2 (number + 1) = Nat.pow 2 number * 2 := rfl
  show min (150 * Nat.pow 2 (number + 1)) 1200 = min (min (150 * Nat.pow 2 number) 1200 * 2) 1200
  rw [hpower]
  omega

/-- A jitter is a number of milliseconds below this one. -/
def jitterLimit : Nat := 50

/-- The wait with a jitter made of any number. -/
def waitTime (number draw : Nat) : Nat := waitBase number + draw % jitterLimit

section

variable {m : Type → Type} [Monad m]

/-- Sends a request that was sent `sent` times already, and up to `more` times again while no
answer comes. -/
def sendUpTo (network : Network m) (address : SocketAddress) (request : InvokeRequest)
    (sent : Nat) : Nat → m Sending
  | 0 => network.send address request
  | more + 1 => do
    let sending ← network.send address request
    if sending.isAnswered then return sending
    network.wait (waitTime (sent + 1) (← network.draw))
    sendUpTo network address request (sent + 1) more

/-- Posts a request, and again up to a limit while no answer comes. -/
def post (network : Network m) (address : SocketAddress) (request : InvokeRequest)
    (limit : Nat) : m Sending :=
  sendUpTo network address request 0 (limit - 1)

/-- The result that an answer of a node stands for. -/
def readAnswer (node : NodeId) (status : String) (body : Option String) :
    Except DispatchError Json.Value :=
  match body.map (Json.readText InvokeResponse.ofDocument) with
  | some (.ok response) => response.toResult node
  | _ =>
    .error (.transport
      { outermost :=
          "invalid response from node " ++ node ++ " (" ++ status
            ++ "): error decoding response body" })

/-- The result of sending a call to a node. -/
def Sending.result (node : NodeId) : Sending → Except DispatchError Json.Value
  | answered status body => readAnswer node status body
  | lost => .error (.topologyChanged node)
  | unbuildable reason => .error (.transport ⟨"builder error", [reason]⟩)

/-- Submits a call to a node. -/
def submit (network : Network m) (c : Cluster) (target : Node) (call : CallDescriptor)
    (failover : Failover) : m (Except DispatchError Json.Value) :=
  match c.node? target.id with
  | none => return .error (.topologyChanged target.id)
  | some n =>
    return (← post network n.address ⟨n.id, call⟩ (attemptLimit failover)).result n.id

/-- Why an address with a scope makes no request. -/
def scopeReason : String := "invalid IPv6 address"

/-- The network whose addresses with a scope make no request. -/
def Network.withoutScopes (network : Network m) : Network m where
  send address request :=
    if address.isScoped then return .unbuildable scopeReason else network.send address request
  draw := network.draw
  wait := network.wait

/-- The network that loses every request. -/
def Network.unreachable : Network m where
  send _ _ := return .lost
  draw := return 0
  wait _ := return ()

end

end Http

end ServiceRouting
