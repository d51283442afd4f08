import ServiceRouting.Address.Basic

/-!
# Nodes

A node of the cluster: its identity, the address remote calls are sent to, and its state. Only
nodes that are alive count as members.
-/

namespace ServiceRouting

/-- The identity of a node. -/
abbrev NodeId := String

namespace NodeId

/-- A digit of a fresh identity. Two of the thirty-two digits tell how it was made; all the others
are random. -/
def freshDigit (random : Nat → Nat) (index : Nat) : Nat :=
  if index = 12 then 4 else if index = 16 then 8 + random index % 4 else random index % 16

/-- A fresh identity for a node without a name: a random UUID, as hexadecimal digits in five
groups. -/
def fresh (random : Nat → Nat) : NodeId :=
  let group := fun first count =>
    (List.range' first count).map fun index => Nat.digitChar (freshDigit random index)
  String.ofList
    (group 0 8 ++ '-' :: group 8 4 ++ '-' :: group 12 4 ++ '-' :: group 16 4 ++ '-' :: group 20 12)

end NodeId

/-- The state of a node in its life. -/
inductive NodeState where
  | alive
  | suspect
  | dead
deriving DecidableEq

/-- The name of a state. -/
def NodeState.text : NodeState → String
  | alive => "Alive"
  | suspect => "Suspect"
  | dead => "Dead"

/-- The state with this name. -/
def NodeState.ofText? : String → Option NodeState
  | "Alive" => some alive
  | "Suspect" => some suspect
  | "Dead" => some dead
  | _ => none

/-- A node of the cluster. -/
structure Node where
  id : NodeId
  address : SocketAddress
  state : NodeState := .alive
deriving DecidableEq

/-- Whether the node counts as a member. -/
def Node.isAlive (n : Node) : Bool := n.state = .alive

end ServiceRouting
