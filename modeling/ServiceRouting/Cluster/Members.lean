import ServiceRouting.Cluster.Node
import ServiceRouting.Table

/-!
# The member table

Every node that this process knows of, by identity. Nodes join, leave and change their state;
readers see the nodes that are alive. The local node never leaves the table, and it stays the node
that the table was made with even if its identity joins again at another address.
-/

namespace ServiceRouting

/-- Whether every node of a table is listed under its own identity. -/
def IsKeyed (known : Table Node) : Prop := ∀ id n, known.get? id = some n → n.id = id

/-- A table without nodes is keyed. -/
theorem isKeyed_empty : IsKeyed Table.empty := by
  intro id n h
  rw [Table.get?_empty] at h
  cases h

/-- A node that is listed under its identity leaves a table keyed. -/
theorem IsKeyed.insert {known : Table Node} (h : IsKeyed known) (n : Node) :
    IsKeyed (known.insert n.id n) := by
  intro id other hother
  rw [Table.get?_insert] at hother
  split at hother
  next heq =>
    obtain rfl := Option.some.inj hother
    exact heq.symm
  next => exact h id other hother

/-- A node that is taken away leaves a table keyed. -/
theorem IsKeyed.erase {known : Table Node} (h : IsKeyed known) (id : NodeId) :
    IsKeyed (known.erase id) := by
  intro other n hn
  rw [Table.get?_erase] at hn
  split at hn
  next => cases hn
  next => exact h other n hn

/-- The nodes known to a process. -/
structure Cluster where
  /-- The node that the process runs on. -/
  localNode : Node
  /-- The known nodes by identity. -/
  known : Table Node
  /-- Every node is known by its own identity. -/
  keyed : IsKeyed known

namespace Cluster

/-- The cluster of one node. -/
def ofNode (n : Node) : Cluster :=
  { localNode := n
    known := Table.empty.insert n.id n
    keyed := isKeyed_empty.insert n }

/-- Adds a node, in place of the one with its identity. -/
def join (c : Cluster) (n : Node) : Cluster :=
  { c with known := c.known.insert n.id n, keyed := c.keyed.insert n }

/-- Removes a node, unless it is the local one, and gives the node removed. -/
def leave (c : Cluster) (id : NodeId) : Cluster × Option Node :=
  if id = c.localNode.id then (c, none)
  else ({ c with known := c.known.erase id, keyed := c.keyed.erase id }, c.known.get? id)

/-- Sets the state of a known node and tells whether the node is known. -/
def setState (c : Cluster) (id : NodeId) (state : NodeState) : Cluster × Bool :=
  match c.known.get? id with
  | some n => (c.join { n with state }, true)
  | none => (c, false)

/-- The nodes that are alive, by identity. -/
def members (c : Cluster) : List Node := c.known.values.filter Node.isAlive

/-- The node with this identity, if it is alive. -/
def node? (c : Cluster) (id : NodeId) : Option Node := (c.known.get? id).filter Node.isAlive

/-- The number of known nodes. -/
def size (c : Cluster) : Nat := c.known.size

/-- Whether an identity is that of the local node. -/
def isLocal (c : Cluster) (id : NodeId) : Bool := c.localNode.id = id

end Cluster

end ServiceRouting
