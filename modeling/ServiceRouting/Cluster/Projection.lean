import ServiceRouting.Cluster.Members
import ServiceRouting.Text.Quoted

/-!
# Views of the cluster

A view keeps some of the members of the cluster. It is made of layers, each of which keeps all that
lies below it or the nodes that pass a test; below the last layer lies the member table. A
projection is a layer over a view, and is a view itself. Views hold no nodes: what they keep is
asked anew of the cluster as it is.
-/

namespace ServiceRouting

/-- A test that nodes pass or fail. -/
abbrev NodeTest := Node → Bool

namespace NodeTest

/-- The nodes with one of these identities. -/
def oneOf (ids : List NodeId) : NodeTest := fun n => ids.contains n.id

/-- The nodes whose identity starts with a text. -/
def idStartsWith (start : String) : NodeTest := fun n => start.toList.isPrefixOf n.id.toList

/-- The nodes with another identity. -/
def idIsNot (id : NodeId) : NodeTest := fun n => n.id ≠ id

/-- The nodes at this port or a higher one. -/
def portAtLeast (port : Nat) : NodeTest := fun n => port ≤ n.address.port

end NodeTest

/-- The layers of a view, the outermost first. A layer without a test keeps everything. -/
abbrev View := List (Option NodeTest)

namespace View

/-- Whether a node passes the test of a layer. -/
def passes (layer : Option NodeTest) (n : Node) : Bool := layer.all (· n)

/-- The members that the view keeps, by identity. -/
def members (c : Cluster) : View → List Node
  | [] => c.members
  | none :: below => members c below
  | some test :: below => (members c below).filter test

/-- The member with this identity, if the view keeps it. -/
def node? (c : Cluster) (id : NodeId) : View → Option Node
  | [] => c.node? id
  | layer :: below => (node? c id below).filter (passes layer)

/-- Whether no layer has a test. -/
def isUnrestricted (v : View) : Bool := v.all Option.isNone

end View

/-- The nodes that a proxy may call: a layer over a view. -/
structure Projection where
  test : Option NodeTest
  below : View

namespace Projection

/-- All that a view keeps. -/
def all (below : View) : Projection := ⟨none, below⟩

/-- What a view keeps and passes a test. -/
def filtered (below : View) (test : NodeTest) : Projection := ⟨some test, below⟩

/-- What a view keeps and has one of these identities. -/
def nodes (below : View) (ids : List NodeId) : Projection := filtered below (.oneOf ids)

/-- The projection as a view. -/
def view (p : Projection) : View := p.test :: p.below

/-- The members in the projection, by identity. -/
def members (p : Projection) (c : Cluster) : List Node := p.view.members c

/-- The member with this identity, if it is in the projection. -/
def node? (p : Projection) (c : Cluster) (id : NodeId) : Option Node := p.view.node? c id

/-- Whether the projection covers the whole cluster. -/
def isUnrestricted (p : Projection) : Bool := p.view.isUnrestricted

/-- Whether a node passes the outermost test. -/
def contains (p : Projection) (n : Node) : Bool := View.passes p.test n

/-- Whether the local node is a member in the projection. -/
def containsLocal (p : Projection) (c : Cluster) : Bool :=
  (p.members c).any (·.id = c.localNode.id)

/-- The projection as a diagnostic text. -/
def text (p : Projection) (c : Cluster) : String :=
  "Projection \x7b unrestricted: " ++ toString p.isUnrestricted ++ ", members: "
    ++ Text.quotedList ((p.members c).map (·.id)) ++ " \x7d"

end Projection

end ServiceRouting
