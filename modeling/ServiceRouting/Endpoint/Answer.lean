import ServiceRouting.Call.Execution
import ServiceRouting.Endpoint.Request
import ServiceRouting.Json.Writer
import ServiceRouting.Wire.Service

/-!
# Answers of a node

What a node answers to requests. A call meant for another node is refused before anything runs.
-/

namespace ServiceRouting

open Json (Value)

universe u

/-- An answer of a node: a status, and a JSON body unless there is none. -/
structure Answer where
  status : Nat
  body : Option Value

namespace Answer

/-- The body as it is read from its text. A decimal of many digits may come back with another last
bit. -/
def received (a : Answer) : Option Value :=
  a.body.map fun body => (Json.readText Document.value body.text).toOption.getD .null

/-- The answer to a refused request. -/
def ofRefusal (r : Refusal) : Answer := ⟨r.status, none⟩

/-- The answer to a call of another node. -/
def ofResponse (r : InvokeResponse) : Answer := ⟨r.status, some r.toValue⟩

/-- The answer to an invocation. -/
def ofInvocation : Except InvocationError Value → Answer
  | .ok value => ⟨200, some (ServiceInvokeResponse.toValue ⟨some value, none⟩)⟩
  | .error e => ⟨e.status, some (ServiceInvokeResponse.toValue ⟨none, some e.fullText⟩)⟩

/-- The answer about a service. -/
def ofTopology (service : ServiceName) (topology : Option Topology) (bare : Bool) : Answer :=
  let body := fun (value : Value) => if bare then none else some value
  match topology with
  | some t => ⟨200, body (TopologyResponse.ofTopology service t).toValue⟩
  | none => ⟨404, body .null⟩

end Answer

namespace Endpoint

variable {m : Type → Type} [Monad m] {Handler : Type u}

/-- The handler of a received call: a call for another node has none. -/
def findReceived (localId : NodeId) (r : Registry Handler)
    (request : InvokeRequest) : Except InvokeResponse Handler :=
  if request.target = localId then
    match Execution.findReceived r localId request.call with
    | .ok handler => .ok handler
    | .error e => .error (.ofResult (.error e))
  else .error (.wrongNode localId)

/-- The answer to a received call. -/
def execute (run : Handler → List Value → m Outcome) (localId : NodeId) (r : Registry Handler)
    (request : InvokeRequest) : m InvokeResponse := do
  match findReceived localId r request with
  | .error response => return response
  | .ok handler => return .ofResult (Execution.receivedResult (← run handler request.call.args))

/-- Answers a request, given how a node runs handlers and invokes methods through its own
proxies. -/
def answer (run : Handler → List Value → m Outcome) (localId : NodeId) (r : Registry Handler)
    (invoke : ServiceName → String → List Value → m (Except InvocationError Value))
    (request : Request) : m Answer := do
  match demand request with
  | .error refusal => return .ofRefusal refusal
  | .ok (.topology service bare) => return .ofTopology service (r.topology? service) bare
  | .ok (.execute received) => return .ofResponse (← execute run localId r received)
  | .ok (.invoke service method args) => return .ofInvocation (← invoke service method args)

end Endpoint

end ServiceRouting
