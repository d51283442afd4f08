import ServiceRouting.Call.Error
import ServiceRouting.Wire.Call

/-!
# Answers on the wire

The answer of a node to a call that it received. Its status tells a missing service, which lets the
caller try again, from a method that failed. The node that answers is not named, except by one that
was not meant: the caller knows whom it asked.
-/

namespace ServiceRouting

open Json (Value)

/-- The answer to a call. -/
inductive InvokeResponse where
  | ok (value : Value)
  | serviceNotFound (service : ServiceName)
  | methodNotFound (service : ServiceName) (method : Signature)
  /-- The call was meant for another node than the one that answers. -/
  | wrongNode (node : NodeId)
  | failed (message : String)

namespace InvokeResponse

/-- The answer for the result of a call. -/
def ofResult : Except DispatchError Value → InvokeResponse
  | .ok value => ok value
  | .error (.serviceNotFound service _) => serviceNotFound service
  | .error (.methodNotFound service method) => methodNotFound service method
  | .error (.topologyChanged node) => wrongNode node
  | .error (.failed message) => failed message
  | .error (.transport source) => failed source.fullText

/-- The result that an answer of a node stands for. -/
def toResult (node : NodeId) : InvokeResponse → Except DispatchError Value
  | ok value => .ok value
  | serviceNotFound service => .error (.serviceNotFound service node)
  | methodNotFound service method => .error (.methodNotFound service method)
  | wrongNode _ => .error (.topologyChanged node)
  | failed message => .error (.failed message)

/-- The HTTP status that the answer is sent with. -/
def status : InvokeResponse → Nat
  | ok _ => 200
  | serviceNotFound _ | methodNotFound .. => 404
  | wrongNode _ => 421
  | failed _ => 500

/-- The members beside the status. -/
def members : InvokeResponse → List (String × Value)
  | ok value => [("value", value)]
  | serviceNotFound service => [("service", .string service)]
  | methodNotFound service method => [("service", .string service), ("method", method.toValue)]
  | wrongNode node => [("node", .string node)]
  | failed message => [("message", .string message)]

/-- The word for the status. -/
def statusWord : InvokeResponse → String
  | ok _ => "ok"
  | serviceNotFound _ => "service_not_found"
  | methodNotFound .. => "method_not_found"
  | wrongNode _ => "wrong_node"
  | failed _ => "failed"

/-- The answer as JSON. -/
def toValue (r : InvokeResponse) : Value :=
  .ofMembers (("status", .string r.statusWord) :: r.members)

/-- Reads an answer with one field. -/
def ofField {α : Type} (name : String) (read : Document → Reading α) (make : α → InvokeResponse)
    (content : Document) : Reading InvokeResponse := do
  let r ← content.record [.of name read]
  make <$> r.required name read

/-- Reads the answer with this status word from what stands beside the status. -/
def ofContent (word : String) (content : Document) : Reading InvokeResponse :=
  match word with
  | "ok" => ofField "value" Document.value ok content
  | "service_not_found" => ofField "service" Document.text serviceNotFound content
  | "method_not_found" => do
    let r ← content.record [.of "service" Document.text, .of "method" Signature.ofDocument]
    let service ← r.required "service" Document.text
    let method ← r.required "method" Signature.ofDocument
    return methodNotFound service method
  | "wrong_node" => ofField "node" Document.text wrongNode content
  | "failed" => ofField "message" Document.text failed content
  | _ => .error .mismatch

/-- Whether an entry is the status. -/
def isStatus (entry : String × Document) : Bool := entry.1 = "status"

/-- Reads an answer: all of it is looked at before the status is known. -/
def ofDocument (d : Document) : Reading InvokeResponse := do
  match ← d.buffered with
  | .mapping entries ending =>
    match entries.filter isStatus with
    | [(_, word)] =>
      ofContent (← word.text) (.mapping (entries.filter (!isStatus ·)) ending)
    | _ => .error .mismatch
  | .sequence (word :: items) ending => ofContent (← word.text) (.sequence items ending)
  | _ => .error .mismatch

end InvokeResponse

end ServiceRouting
