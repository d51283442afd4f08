import ServiceRouting.Endpoint.ContentType
import ServiceRouting.Endpoint.Path
import ServiceRouting.Json.Reader
import ServiceRouting.Json.Writer
import ServiceRouting.Transport.Http

/-!
# Requests to a node

Three routes: the call of another node, the invocation of a method through this node's proxy, and
the question where a service runs. A request is refused for the first of these reasons that holds:
there is no such route, the route has another method, a name in the path is not well formed, the
body is not said to be JSON, it is too long, it is not JSON, or it has another shape.
-/

namespace ServiceRouting

open Json (Value)

/-- A request as it comes. -/
structure Request where
  method : String
  path : String
  contentType : Option String
  body : String

/-- The request that a call is posted as. -/
def Http.posted (request : InvokeRequest) : Request :=
  { method := "POST"
    path := internalInvokePath
    contentType := some "application/json"
    body := request.toValue.text }

/-- Why a request is refused before anything is done. -/
inductive Refusal where
  | noRoute
  | otherMethod
  | badName
  | notJson
  | tooLong
  | badSyntax
  | otherShape
deriving DecidableEq

/-- The HTTP status of a refusal. -/
def Refusal.status : Refusal → Nat
  | noRoute => 404
  | otherMethod => 405
  | badName | badSyntax => 400
  | tooLong => 413
  | notJson => 415
  | otherShape => 422

/-- The refusal of a body with a fault. -/
def Refusal.ofFault : Fault → Refusal
  | .malformed => badSyntax
  | .mismatch => otherShape

namespace Endpoint

/-- A route and the parts of the path that fill it. -/
inductive Route where
  | execute
  | invoke (name method : String)
  | topology (name : String)

/-- The route of a path. The last part of a path must not be empty. -/
def Route.ofParts? : List String → Option Route
  | ["internal", "service", "invoke"] => some execute
  | ["service", name, method] => if method.isEmpty then none else some (invoke name method)
  | ["topology", name] => if name.isEmpty then none else some (topology name)
  | _ => none

/-- The methods that a route answers to. -/
def Route.methods : Route → List String
  | execute | invoke .. => ["POST"]
  | topology _ => ["GET", "HEAD"]

/-- What a request asks of the node. -/
inductive Demand where
  /-- Run a call on this node, if the call is meant for it. -/
  | execute (request : InvokeRequest)
  /-- Invoke a method wherever the service runs. -/
  | invoke (service : ServiceName) (method : String) (args : List Value)
  /-- Tell where a service runs; `bare` asks for the status alone. -/
  | topology (service : ServiceName) (bare : Bool)

/-- Reads a part of the path. -/
def readName (part : String) : Except Refusal String :=
  match decodePart part with
  | some name => .ok name
  | none => .error .badName

/-- How many bytes of a body are read: two binary megabytes. -/
def bodyLimit : Nat := 2097152

/-- Reads a text as the body of a request that says it is JSON. What follows the value is not looked
at. -/
def readJson {α : Type} (read : Document → Reading α) (text : String) : Except Refusal α :=
  if bodyLimit < text.utf8ByteSize then .error .tooLong
  else (Json.readFront read text).mapError .ofFault

/-- A text that is not too long is read. -/
theorem readJson_of_le {α : Type} {read : Document → Reading α} {text : String}
    (h : text.utf8ByteSize ≤ bodyLimit) :
    readJson read text = (Json.readFront read text).mapError .ofFault :=
  if_neg (Nat.not_lt.2 h)

/-- A text that is too long is refused unread. -/
theorem readJson_of_lt {α : Type} {read : Document → Reading α} {text : String}
    (h : bodyLimit < text.utf8ByteSize) : readJson read text = .error .tooLong :=
  if_pos h

/-- Reads the body of a request. -/
def readBody {α : Type} (read : Document → Reading α) (r : Request) : Except Refusal α :=
  if r.contentType.any isJson then readJson read r.body else .error .notJson

/-- Reads what a request on a route asks. -/
def Route.demand (r : Request) : Route → Except Refusal Demand
  | execute => Demand.execute <$> readBody InvokeRequest.ofDocument r
  | invoke name method => do
    let name ← readName name
    let method ← readName method
    let args ← readBody (Document.list Document.value) r
    return .invoke name method args
  | topology name => do
    let name ← readName name
    return .topology name (r.method = "HEAD")

/-- Reads what a request asks. -/
def demand (r : Request) : Except Refusal Demand :=
  match (parts? r.path).bind Route.ofParts? with
  | none => .error .noRoute
  | some route => if route.methods.contains r.method then route.demand r else .error .otherMethod

end Endpoint

end ServiceRouting
