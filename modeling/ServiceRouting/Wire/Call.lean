import ServiceRouting.Call.Descriptor
import ServiceRouting.Document

/-!
# Calls on the wire

The JSON form of signatures, of calls and of the request that carries a call to a node. The request
names the node that it is meant for, so that a node at a reused address can refuse it.
-/

namespace ServiceRouting

open Json (Value)

namespace ArgKind

/-- The kind as JSON: its name. -/
def toValue (kind : ArgKind) : Value := .string kind.text

/-- Reads a kind. -/
def ofDocument (d : Document) : Reading ArgKind := do
  match ofText? (← d.name) with
  | some kind => return kind
  | none => .error .mismatch

end ArgKind

namespace Signature

/-- The signature as JSON. -/
def toValue (s : Signature) : Value :=
  .ofMembers [("name", .string s.name), ("arg_kinds", .ofList ArgKind.toValue s.kinds)]

/-- The fields of a signature. -/
def fields : List Document.Field :=
  [.of "name" Document.text, .of "arg_kinds" (Document.list ArgKind.ofDocument)]

/-- Reads a signature. -/
def ofDocument (d : Document) : Reading Signature := do
  let r ← d.record fields
  let name ← r.required "name" Document.text
  let kinds ← r.required "arg_kinds" (Document.list ArgKind.ofDocument)
  return ⟨name, kinds⟩

end Signature

namespace CallDescriptor

/-- The call as JSON. -/
def toValue (c : CallDescriptor) : Value :=
  .ofMembers
    [("service", .string c.service), ("method", .string c.method), ("args", .array c.args)]

/-- The fields of a call. -/
def fields : List Document.Field :=
  [.of "service" Document.text, .of "method" Document.text,
   .of "args" (Document.list Document.value)]

/-- Reads a call. -/
def ofDocument (d : Document) : Reading CallDescriptor := do
  let r ← d.record fields
  let service ← r.required "service" Document.text
  let method ← r.required "method" Document.text
  let args ← r.required "args" (Document.list Document.value)
  return ⟨service, method, args⟩

end CallDescriptor

/-- A call on its way to a node. -/
structure InvokeRequest where
  /-- The node that the caller means. -/
  target : NodeId
  call : CallDescriptor

namespace InvokeRequest

/-- The request as JSON. -/
def toValue (r : InvokeRequest) : Value :=
  .ofMembers [("target", .string r.target), ("call", r.call.toValue)]

/-- The fields of a request. -/
def fields : List Document.Field :=
  [.of "target" Document.text, .of "call" CallDescriptor.ofDocument]

/-- Reads a request. -/
def ofDocument (d : Document) : Reading InvokeRequest := do
  let r ← d.record fields
  let target ← r.required "target" Document.text
  let call ← r.required "call" CallDescriptor.ofDocument
  return ⟨target, call⟩

end InvokeRequest

end ServiceRouting
