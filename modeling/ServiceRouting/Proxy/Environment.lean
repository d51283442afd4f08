import ServiceRouting.Proxy.Invocation

/-!
# What surrounds an invocation

An invocation asks its surroundings for events: for what the slot holds, for a node, for the result
of an attempt, for the end of a pause. `Environment.advance` asks for the next event and takes the
step that belongs to it; an invocation that has not ended always finds one (`step_isSome`). The slot
is used in single operations, so that others who share it see it only before and after each.
-/

namespace ServiceRouting

open Json (Value)

/-- The surroundings of an invocation, in a monad of effects. -/
structure Environment (m : Type → Type) where
  sticky : Bool
  service : ServiceName
  /-- Looks at the slot. -/
  held : m (Option Target)
  /-- Selects a node for the service and gives it a tag. -/
  select : m (Option Target)
  /-- Installs a target, if the slot is empty, and gives the target that the slot holds then. -/
  install : Target → m Target
  /-- Makes an attempt on a node. -/
  attempt : Node → m (Except InvocationError Value)
  /-- Empties the slot if it holds the installation with this tag. -/
  clear : Tag → m Unit
  /-- Makes the pause of this number. -/
  pause : Nat → m PauseEnd

namespace Invocation

/-- Whether an event is the answer to what a stage asks for. -/
def Event.fits : Event → Stage → Bool
  | .read _, .reading => true
  | .selected _, .selecting => true
  | .installed _, .installing _ => true
  | .answered _, .calling _ => true
  | .cleared, .clearing _ => true
  | .paused _, .pausing => true
  | _, _ => false

/-- An event that a stage asks for always leads to a step. -/
theorem step_isSome {sticky : Bool} {service : ServiceName} {i : Invocation} {event : Event}
    (h : event.fits i.stage = true) : (i.step sticky service event).isSome = true := by
  obtain ⟨stage, pauses⟩ := i
  cases event with
  | read held =>
    cases stage <;> simp_all [Event.fits, step]
    cases sticky <;> cases held <;> rfl
  | selected outcome =>
    cases stage <;> simp_all [Event.fits, step]
    cases outcome <;> rfl
  | installed winner => cases stage <;> simp_all [Event.fits, step]
  | answered result => cases stage <;> simp_all [Event.fits, step]
  | cleared => cases stage <;> simp_all [Event.fits, step]
  | paused ending =>
    cases stage <;> simp_all [Event.fits, step]
    cases ending <;> rfl

end Invocation

namespace Environment

variable {m : Type → Type} [Monad m]

/-- The event that an invocation waits for. The slot is looked at only to keep to its node. -/
def event (env : Environment m) (i : Invocation) : m Invocation.Event :=
  match i.stage with
  | .reading => if env.sticky then return .read (← env.held) else return .read none
  | .selecting => return .selected (← env.select)
  | .installing fresh => return .installed (← env.install fresh)
  | .calling target => return .answered (← env.attempt target.node)
  | .clearing failed => do
    env.clear failed.tag
    return .cleared
  | .pausing => return .paused (← env.pause i.pauses)
  | .finished _ => return .read none

/-- The next step of an invocation. -/
def advance (env : Environment m) (i : Invocation) : m Invocation := do
  let event ← env.event i
  return (i.step env.sticky env.service event).getD i

/-- Goes through the steps of an invocation until it has ended, at most `fuel` of them. -/
def run (env : Environment m) : Nat → Invocation → m Invocation
  | 0, i => return i
  | fuel + 1, i => do
    match i.result? with
    | some _ => return i
    | none => run env fuel (← env.advance i)

end Environment

end ServiceRouting
