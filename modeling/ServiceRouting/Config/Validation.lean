import ServiceRouting.Config.Basic
import ServiceRouting.Service.Builtin
import ServiceRouting.Text.Blank

/-!
# Valid configurations

The identity of a node is not blank, peers have identities of their own, deployed services are
built in and deployed once, and configured services have names of their own. `violation?` gives the
first rule broken, in this order and in the order of the lists.
-/

namespace ServiceRouting

/-- A broken rule. -/
inductive Violation where
  | blankId
  /-- A peer has the identity of the node itself. -/
  | peerIsLocal (id : NodeId)
  | repeatedPeer (id : NodeId)
  | notBuiltin (name : ServiceName)
  | deployedTwice (name : ServiceName)
  | unnamedService
  | configuredTwice (name : ServiceName)
deriving DecidableEq

/-- The text of a violation. -/
def Violation.message : Violation → String
  | blankId => "node_id must not be empty"
  | peerIsLocal id => "peer " ++ id ++ " has the local node id"
  | repeatedPeer id => "duplicate peer id " ++ id
  | notBuiltin name =>
    "unknown built-in service " ++ name ++ " (expected one of "
      ++ Text.quotedList Builtin.serviceNames ++ ")"
  | deployedTwice name => "service " ++ name ++ " deployed twice"
  | unnamedService => "service name must not be empty"
  | configuredTwice name => "service " ++ name ++ " is configured twice"

/-- The first violation in a list, where the rule for an element may look at those before it. -/
def firstViolation (rule : List String → String → Option Violation) (before : List String) :
    List String → Option Violation
  | [] => none
  | name :: rest =>
    match rule before name with
    | some v => some v
    | none => firstViolation rule (before ++ [name]) rest

namespace NodeConfig

/-- The rule for the identity of a peer. -/
def peerRule (nodeId : NodeId) (before : List String) (id : String) : Option Violation :=
  if id = nodeId then some (.peerIsLocal id)
  else if id ∈ before then some (.repeatedPeer id)
  else none

/-- The rule for a deployed service. -/
def deployRule (before : List String) (name : String) : Option Violation :=
  if name ∉ Builtin.serviceNames then some (.notBuiltin name)
  else if name ∈ before then some (.deployedTwice name)
  else none

/-- The rule for the name of a configured service. -/
def serviceRule (before : List String) (name : String) : Option Violation :=
  if name = "" then some .unnamedService
  else if name ∈ before then some (.configuredTwice name)
  else none

/-- The first rule that the configuration breaks. -/
def violation? (c : NodeConfig) : Option Violation :=
  if Text.isBlank c.nodeId then some .blankId
  else
    (firstViolation (peerRule c.nodeId) [] (c.peers.map (·.id))).or
      ((firstViolation deployRule [] c.deploy).or
        (firstViolation serviceRule [] (c.services.map (·.name))))

end NodeConfig

end ServiceRouting
