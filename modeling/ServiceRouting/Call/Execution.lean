import ServiceRouting.Call.Descriptor
import ServiceRouting.Call.Error
import ServiceRouting.Service.Registry

/-!
# Running a call on a node

The handler of a call is found first and runs afterwards. `findLocal` and `localResult` serve the
caller that runs on the same node; `findReceived` and `receivedResult` serve a call that came over
a transport, where a failure of the method keeps nothing but its full text.
-/

namespace ServiceRouting

open Json (Value)

universe u

variable {Handler : Type u}

/-- What a handler makes of its arguments. -/
abbrev Outcome := Except ErrorChain Value

namespace Execution

/-- The handler of a call made on the node itself. -/
def findLocal (r : Registry Handler) (node : NodeId) (call : CallDescriptor) :
    Except InvocationError Handler :=
  match r.handle? call.service with
  | none => .error (.serviceNotFound call.service node)
  | some service =>
    match service.lookup call.signature with
    | none => .error (.methodNotFound call.service call.signature)
    | some handler => .ok handler

/-- The result of a call made on the node itself. -/
def localResult : Outcome → Except InvocationError Value
  | .ok value => .ok value
  | .error source => .error (.failed source)

/-- The handler of a call received by a node. -/
def findReceived (r : Registry Handler) (node : NodeId) (call : CallDescriptor) :
    Except DispatchError Handler :=
  match r.handle? call.service with
  | none => .error (.serviceNotFound call.service node)
  | some service =>
    match service.lookup call.signature with
    | none => .error (.methodNotFound call.service call.signature)
    | some handler => .ok handler

/-- The result of a received call. -/
def receivedResult : Outcome → Except DispatchError Value
  | .ok value => .ok value
  | .error source => .error (.failed source.fullText)

/-- Runs a received call, if a handler was found for it. -/
def serve {m : Type → Type} [Monad m] {Handler : Type} (run : Handler → List Value → m Outcome)
    (call : CallDescriptor) : Except DispatchError Handler → m (Except DispatchError Value)
  | .error e => return .error e
  | .ok handler => return receivedResult (← run handler call.args)

/-- Runs a received call with handlers that answer at once. -/
def execute (run : Handler → List Value → Outcome) (r : Registry Handler) (node : NodeId)
    (call : CallDescriptor) : Except DispatchError Value :=
  match findReceived r node call with
  | .error e => .error e
  | .ok handler => receivedResult (run handler call.args)

/-- Runs a call made on the node itself with handlers that answer at once. -/
def executeLocal (run : Handler → List Value → Outcome) (r : Registry Handler) (node : NodeId)
    (call : CallDescriptor) : Except InvocationError Value :=
  match findLocal r node call with
  | .error e => .error e
  | .ok handler => localResult (run handler call.args)

end Execution

end ServiceRouting
