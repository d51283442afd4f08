import ServiceRouting.Call.Descriptor
import ServiceRouting.Call.Error
import ServiceRouting.Document
import ServiceRouting.Routing.StickySlot

/-!
# Invocations

One invocation of a method through a proxy, as a machine. Its steps are the atomic ones: looking at
the slot that the proxy's invocations share, selecting a node, installing it, the attempt on the
node, clearing the slot, and the pause. What the world answers comes in as an `Event`, so any
interleaving of invocations with each other and with changes of the cluster is a sequence of steps.

An attempt that fails because the service or its node has gone is followed by a clearing, a pause
and a new resolution, any number of times. Everything else ends the invocation.
-/

namespace ServiceRouting

open Json (Value)

/-- How a pause ends. -/
inductive PauseEnd where
  /-- The delay is over. -/
  | resumed
  /-- The proxy was cancelled. -/
  | interrupted
deriving DecidableEq

namespace PauseEnd

/-- What a pause that looks at its token and its delay finds. The token is looked at first. -/
def poll (cancelled elapsed : Bool) : Option PauseEnd :=
  if cancelled then some interrupted else if elapsed then some resumed else none

end PauseEnd

namespace Invocation

/-- The point that an invocation has reached. -/
inductive Stage where
  /-- About to look at the slot. -/
  | reading
  /-- About to select a node. -/
  | selecting
  /-- About to install the node selected. -/
  | installing (fresh : Target)
  /-- Within an attempt. -/
  | calling (target : Target)
  /-- About to clear the slot after a failed attempt. -/
  | clearing (failed : Target)
  /-- Within a pause. -/
  | pausing
  | finished (result : Except InvocationError Value)

/-- What happens to an invocation next, with what the world answers. -/
inductive Event where
  /-- What the slot holds is seen. -/
  | read (held : Option Target)
  /-- The selection gives a node, under a tag, or none. -/
  | selected (outcome : Option Target)
  /-- The slot holds this target after the installation. -/
  | installed (winner : Target)
  /-- The attempt ends. -/
  | answered (result : Except InvocationError Value)
  | cleared
  /-- The pause ends. -/
  | paused (ending : PauseEnd)

end Invocation

/-- An invocation under way. -/
structure Invocation where
  stage : Invocation.Stage
  /-- The number of the last pause begun. -/
  pauses : Nat

namespace Invocation

/-- Pauses are numbered up to 2^32 - 1; all later ones have this number too. -/
def pauseLimit : Nat := 4294967295

/-- An invocation that has not begun. -/
def start : Invocation := ⟨.reading, 0⟩

/-- The same invocation at another stage. -/
def moveTo (i : Invocation) (stage : Stage) : Invocation := { i with stage }

/-- The invocation after its attempt on a target ended. -/
def afterAttempt (i : Invocation) (target : Target) (result : Except InvocationError Value) :
    Invocation :=
  match result with
  | .ok value => i.moveTo (.finished (.ok value))
  | .error e =>
    if e.isRetryable then i.moveTo (.clearing target) else i.moveTo (.finished (.error e))

/-- One step of an invocation of a service, if the event belongs to its stage. -/
def step (sticky : Bool) (service : ServiceName) (i : Invocation) (event : Event) :
    Option Invocation :=
  match i.stage, event with
  | .reading, .read held =>
    match sticky, held with
    | true, some target => some (i.moveTo (.calling target))
    | _, _ => some (i.moveTo .selecting)
  | .selecting, .selected none =>
    some (i.moveTo (.finished (.error (.serviceUnavailable service))))
  | .selecting, .selected (some fresh) =>
    some (i.moveTo (if sticky then .installing fresh else .calling fresh))
  | .installing _, .installed winner => some (i.moveTo (.calling winner))
  | .calling target, .answered result => some (i.afterAttempt target result)
  | .clearing _, .cleared => some ⟨.pausing, Nat.min (i.pauses + 1) pauseLimit⟩
  | .pausing, .paused .resumed => some (i.moveTo .reading)
  | .pausing, .paused .interrupted => some (i.moveTo (.finished (.error .interrupted)))
  | _, _ => none

/-- What a slot makes of an invocation at a stage that uses it: the slot afterwards and the
event. -/
def Stage.onSlot (slot : StickySlot) : Stage → Option (StickySlot × Event)
  | reading => some (slot, .read slot.held)
  | installing fresh => some ((slot.install fresh).1, .installed (slot.install fresh).2)
  | clearing failed => some ((slot.clearIf failed.tag).1, .cleared)
  | _ => none

/-- The result of an invocation that has ended. -/
def result? (i : Invocation) : Option (Except InvocationError Value) :=
  match i.stage with
  | .finished result => some result
  | _ => none

end Invocation

/-- Reads the value of an invocation. One that has another shape is a failure of the transport. -/
def readResult {α : Type} (read : Document → Reading α)
    (result : Except InvocationError Value) : Except InvocationError α := do
  let value ← result
  match read (.ofValue value) with
  | .ok a => .ok a
  | .error _ => .error (.dispatch ⟨"the value has another shape", []⟩)

end ServiceRouting
