import ServiceRouting.Proxy.Basic
import ServiceRouting.Proxy.Invocation

/-!
# The callers of a proxy

Any number of invocations that share one proxy, as one machine. Each step is an atomic step of one
invocation, or a change of the cluster, the registry or the token around them, so that a sequence of
steps is an interleaving. A selection gives one of the outcomes that the selector has at that
moment; an attempt may end in any way.

The node that a selection gives gets a tag that nothing refers to any more. Tags are taken again and
again, as addresses are: two targets with one tag can differ, but not while both are in use.
-/

namespace ServiceRouting

open Json (Value)

universe u

namespace Invocation

/-- The target that an invocation at a stage refers to. -/
def Stage.target? : Stage → Option Target
  | installing target | calling target | clearing target => some target
  | _ => none

end Invocation

/-- The invocations of a proxy under way, with the slot they share and what surrounds them. -/
structure Callers (Handler : Type u) where
  cluster : Cluster
  registry : Registry Handler
  /-- Whether the token of the proxy counts as cancelled. -/
  cancelled : Bool
  slot : StickySlot
  /-- The invocations in the order in which they began. One that was given up is gone. -/
  invocations : List (Option Invocation)

namespace Callers

/-- A step of one of the callers or of what surrounds them. Callers are numbered from zero. -/
inductive Move (Handler : Type u) where
  /-- Cluster and registry change in any way. -/
  | change (cluster : Cluster) (registry : Registry Handler)
  | cancel
  /-- Another invocation begins. -/
  | begin
  /-- An invocation is given up. -/
  | abandon (caller : Nat)
  /-- An invocation uses the slot: it looks at it, installs its target or clears it. -/
  | use (caller : Nat)
  /-- An invocation hears of something outside the slot. -/
  | hear (caller : Nat) (event : Invocation.Event)

/-- The caller whose step it is. -/
def Move.caller? {Handler : Type u} : Move Handler → Option Nat
  | abandon caller | use caller | hear caller _ => some caller
  | change .. | cancel | begin => none

variable {Handler : Type u}

/-- No invocation has begun. -/
def idle (cluster : Cluster) (registry : Registry Handler) : Callers Handler :=
  { cluster, registry, cancelled := false, slot := .empty, invocations := [] }

/-- The invocation of a caller. -/
def invocation? (s : Callers Handler) (caller : Nat) : Option Invocation :=
  (s.invocations[caller]?).join

/-- The stage that a caller has reached. -/
def stage? (s : Callers Handler) (caller : Nat) : Option Invocation.Stage :=
  (s.invocation? caller).map (·.stage)

/-- Whether an invocation refers to a target with this tag. -/
def refersTo (tag : Tag) (i : Invocation) : Bool := i.stage.target?.any (·.tag = tag)

/-- Whether the slot or an invocation refers to a target with this tag. -/
def isInUse (s : Callers Handler) (tag : Tag) : Bool :=
  s.slot.holds tag || s.invocations.any fun i => i.any (refersTo tag)

/-- Whether an event from outside the slot can come: a selection gives an outcome of the selector
under a tag that is not in use, and a pause ends early exactly if the token is cancelled. -/
def allows (p : Proxy) (s : Callers Handler) : Invocation.Event → Bool
  | .selected outcome =>
    decide (outcome.map (·.node) ∈ (p.selector.choice s.cluster s.registry p.name).outcomes)
      && outcome.all fun fresh => !s.isInUse fresh.tag
  | .answered _ => true
  | .paused ending => PauseEnd.poll s.cancelled true = some ending
  | .read _ | .installed _ | .cleared => false

/-- The callers with this slot and another invocation in place of one of theirs. -/
def put (s : Callers Handler) (slot : StickySlot) (caller : Nat) (i : Invocation) :
    Callers Handler :=
  { s with slot, invocations := s.invocations.set caller (some i) }

/-- One step, if it can be taken. -/
def step (p : Proxy) (s : Callers Handler) : Move Handler → Option (Callers Handler)
  | .change cluster registry => some { s with cluster, registry }
  | .cancel => some { s with cancelled := true }
  | .begin => some { s with invocations := s.invocations ++ [some .start] }
  | .abandon caller => some { s with invocations := s.invocations.set caller none }
  | .use caller =>
    (s.invocation? caller).bind fun i =>
      (i.stage.onSlot s.slot).bind fun used =>
        (i.step p.isSticky p.name used.2).map (s.put used.1 caller)
  | .hear caller event =>
    (s.invocation? caller).bind fun i =>
      if s.allows p event then (i.step p.isSticky p.name event).map (s.put s.slot caller)
      else none

/-- Several steps, if they can all be taken. -/
def run (p : Proxy) (s : Callers Handler) : List (Move Handler) → Option (Callers Handler)
  | [] => some s
  | move :: moves => (s.step p move).bind (run p · moves)

end Callers

end ServiceRouting
