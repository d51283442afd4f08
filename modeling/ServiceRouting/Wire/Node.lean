import ServiceRouting.Address.Parser
import ServiceRouting.Address.Printer
import ServiceRouting.Cluster.Node
import ServiceRouting.Document

/-!
# Nodes on the wire

The JSON form of addresses, states and nodes.
-/

namespace ServiceRouting

open Json (Value)

namespace SocketAddress

/-- The address as JSON: its text. -/
def toValue (a : SocketAddress) : Value := .string a.text

/-- Reads an address. -/
def ofDocument (d : Document) : Reading SocketAddress := do
  match parse? (← d.text) with
  | some a => return a
  | none => .error .mismatch

end SocketAddress

namespace NodeState

/-- The state as JSON: its name. -/
def toValue (s : NodeState) : Value := .string s.text

/-- Reads a state. -/
def ofDocument (d : Document) : Reading NodeState := do
  match ofText? (← d.name) with
  | some s => return s
  | none => .error .mismatch

end NodeState

namespace Node

/-- The node as JSON. -/
def toValue (n : Node) : Value :=
  .ofMembers
    [("id", .string n.id), ("http_addr", n.address.toValue), ("state", n.state.toValue)]

/-- The fields of a node. -/
def fields : List Document.Field :=
  [.of "id" Document.text, .of "http_addr" SocketAddress.ofDocument,
   .of "state" NodeState.ofDocument]

/-- Reads a node. -/
def ofDocument (d : Document) : Reading Node := do
  let r ← d.record fields
  let id ← r.required "id" Document.text
  let address ← r.required "http_addr" SocketAddress.ofDocument
  let state ← r.required "state" NodeState.ofDocument
  return { id, address, state }

end Node

end ServiceRouting
