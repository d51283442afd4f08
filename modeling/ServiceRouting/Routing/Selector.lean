import ServiceRouting.Cluster.Projection
import ServiceRouting.Routing.CircularScan
import ServiceRouting.Routing.StickySlot
import ServiceRouting.Service.Registry

/-!
# Selecting a node

Which node the next call of a service goes to. A service that runs on the local node is called
there, if the projection had the local node when the selector was made. A topology with one entry
names its node. A projection with one member leaves that member or nothing. In the whole cluster
the node is found by a circular scan from a random entry, in a part of it by a random pick among
the members that host the service.

What is random is kept apart: a `Choice` is settled, or it says for each index below a bound what
drawing that index leads to.
-/

namespace ServiceRouting

universe u

/-- How a selector resolves. -/
structure SelectorOptions where
  /-- The first node found serves all calls until one of them fails. -/
  sticky : Bool := false
  /-- The node of a topology with one entry has to be in the projection. -/
  verifySingleton : Bool := true
deriving DecidableEq

/-- A selection before the random index is drawn. -/
inductive Choice where
  /-- No index matters. -/
  | settled (outcome : Option Node)
  /-- An index below `size` decides. -/
  | drawn (size : Nat) (positive : 0 < size) (outcome : Fin size → Option Node)

namespace Choice

/-- All outcomes, by index. -/
def outcomes : Choice → List (Option Node)
  | settled outcome => [outcome]
  | drawn _ _ outcome => List.ofFn outcome

/-- The outcome of a draw from all numbers: the remainder is the index. -/
def take (draw : Nat) : Choice → Option Node
  | settled outcome => outcome
  | drawn size positive outcome => outcome ⟨draw % size, Nat.mod_lt _ positive⟩

/-- Every draw leads to an outcome. -/
theorem take_mem_outcomes (draw : Nat) (c : Choice) : c.take draw ∈ c.outcomes := by
  cases c with
  | settled outcome => exact List.mem_singleton.2 rfl
  | drawn size positive outcome => exact List.mem_ofFn.2 ⟨_, rfl⟩

/-- The outcomes are exactly what the draws lead to. -/
theorem mem_outcomes_iff {c : Choice} {o : Option Node} :
    o ∈ c.outcomes ↔ ∃ draw, c.take draw = o := by
  refine ⟨fun h => ?_, fun ⟨draw, h⟩ => h ▸ take_mem_outcomes draw c⟩
  cases c with
  | settled outcome => exact ⟨0, (List.mem_singleton.1 h).symm⟩
  | drawn size positive outcome =>
    obtain ⟨i, rfl⟩ := List.mem_ofFn.1 h
    refine ⟨i, ?_⟩
    simp only [take]
    congr 1
    exact Fin.ext (Nat.mod_eq_of_lt i.isLt)

end Choice

/-- What a selector is made with. -/
structure Selector where
  projection : Projection
  options : SelectorOptions
  /-- The identity of the local node. -/
  localId : NodeId
  /-- Whether the local node was a member in the projection when the selector was made. -/
  hasLocalNode : Bool

namespace Selector

variable {Handler : Type u}

/-- The selector for a projection of the cluster as it is. -/
def ofProjection (c : Cluster) (projection : Projection) (options : SelectorOptions) : Selector :=
  { projection, options
    localId := c.localNode.id
    hasLocalNode := projection.containsLocal c }

/-- Whether a node is the local one. -/
def isLocal (s : Selector) (n : Node) : Bool := n.id = s.localId

/-- The members in the projection that host the service. -/
def candidates (s : Selector) (c : Cluster) (t : Topology) : List Node :=
  (s.projection.members c).filter fun n => t.hosts n.id

/-- The node of the only entry of a topology. -/
def singleton (s : Selector) (c : Cluster) (id : NodeId) : Option Node :=
  if s.options.verifySingleton then s.projection.node? c id
  else s.projection.below.node? c id

/-- The node found by a circular scan of a topology in the whole cluster. -/
def scanned (s : Selector) (c : Cluster) (t : Topology) (start : Nat) : Option Node :=
  (circularScan t.entries start).bind (s.projection.below.node? c ·)

/-- A pick by index from a list. -/
def pick (nodes : List Node) : Choice :=
  if h : 0 < nodes.length then .drawn nodes.length h fun i => nodes[i]
  else .settled none

/-- The choice for a topology with several entries. -/
def amongSeveral (s : Selector) (c : Cluster) (t : Topology) (h : 0 < t.entries.length) :
    Choice :=
  match s.projection.members c with
  | [n] => .settled (if t.hosts n.id then some n else none)
  | _ =>
    if s.projection.isUnrestricted then .drawn t.entries.length h fun i => s.scanned c t i
    else pick (s.candidates c t)

/-- The choice for a topology. -/
def amongEntries (s : Selector) (c : Cluster) (t : Topology) : Choice :=
  match h : t.entries with
  | [] => .settled none
  | [(id, _)] => .settled (s.singleton c id)
  | _ :: _ :: _ => s.amongSeveral c t (by simp [h])

/-- The choice of the node that the next call of a service goes to. -/
def choice (s : Selector) (c : Cluster) (r : Registry Handler) (service : ServiceName) : Choice :=
  if s.hasLocalNode && (r.handle? service).isSome then .settled (some c.localNode)
  else
    match r.topology? service with
    | none => .settled none
    | some t => s.amongEntries c t

/-- The node for a draw. -/
def select (s : Selector) (c : Cluster) (r : Registry Handler) (service : ServiceName)
    (draw : Nat) : Option Node :=
  (s.choice c r service).take draw

/-- One resolution: the node in the slot, or else a node selected and installed under a tag. A
selector that is not sticky leaves the slot alone. -/
def resolve (s : Selector) (c : Cluster) (r : Registry Handler) (service : ServiceName)
    (draw : Nat) (tag : Tag) (slot : StickySlot) : StickySlot × Option Target :=
  if s.options.sticky then
    match slot.held with
    | some target => (slot, some target)
    | none =>
      match s.select c r service draw with
      | none => (slot, none)
      | some n =>
        let installed := slot.install ⟨tag, n⟩
        (installed.1, some installed.2)
  else (slot, (s.select c r service draw).map (⟨tag, ·⟩))

end Selector

end ServiceRouting
