import ServiceRouting.Call.Execution
import ServiceRouting.Cluster.Node

/-!
# Attempts

One attempt of a call on a node. On the local node the handler is looked up and run in place; any
other node is reached through the transport, which gets the call once and does not repeat it on its
own. The registry, the handlers and the transport are a parameter, in any monad of effects.
-/

namespace ServiceRouting

open Json (Value)

/-- The way in which an attempt reaches the handler. -/
inductive Attempt where
  /-- The method runs on the node itself. -/
  | direct
  /-- The call is handed to the transport once. -/
  | submitted (target : Node) (call : CallDescriptor) (failover : Failover)

/-- The attempt of a call on a node: the local node is never reached through the transport, and the
transport does not repeat a submission on its own. -/
def Attempt.of (localId : NodeId) (call : CallDescriptor) (n : Node) : Attempt :=
  if n.id = localId then direct else submitted n call .disabled

/-- What attempts are made with, in a monad of effects. -/
structure CallSite (m : Type → Type) (Handler : Type) where
  /-- Finds the handler of a call on the local node. -/
  find : NodeId → CallDescriptor → m (Except InvocationError Handler)
  /-- Runs a handler of the local node. -/
  run : Handler → List Value → m Outcome
  /-- Hands a call to the transport. -/
  submit : Node → CallDescriptor → Failover → m (Except DispatchError Value)

namespace CallSite

variable {m : Type → Type} [Monad m] {Handler : Type}

/-- Makes an attempt of a call on a node. -/
def attempt (site : CallSite m Handler) (localId : NodeId) (call : CallDescriptor) (n : Node) :
    m (Except InvocationError Value) := do
  match Attempt.of localId call n with
  | .submitted target call failover =>
    return InvocationError.ofResult (← site.submit target call failover)
  | .direct =>
    match ← site.find n.id call with
    | .error e => return .error e
    | .ok handler => return Execution.localResult (← site.run handler call.args)

end CallSite

end ServiceRouting
