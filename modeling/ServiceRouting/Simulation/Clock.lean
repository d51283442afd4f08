import ServiceRouting.Simulation.World

/-!
# Virtual time

Time stands still while something happens and jumps to the next moment when everything waits. While
a call waits, the actions of its timeline are performed at their times. Where the end of the wait
and an action fall on one moment, the call goes first; all actions that are due are performed before
the call looks at what they did. A call that lasts too long is given up.
-/

namespace ServiceRouting.Simulation

/-- The longest time that a call may take, in milliseconds. -/
def patience : Nat := 100000

/-- Moments in milliseconds, with the actions that happen then. -/
abbrev Timeline := List (Nat × List Action)

/-- A call under way. -/
structure Session where
  world : World
  /-- The moments still to come, with the actions of each. -/
  timeline : Timeline
  /-- How many moments of the timeline have come. -/
  fired : Nat
  /-- The moment at which the call is given up. -/
  limit : Nat

/-- Why a call came to no result. -/
inductive Stop where
  /-- It lasted too long. -/
  | hang
  /-- It was broken off with a message. -/
  | broken (message : String)

/-- A computation that takes time. -/
abbrev Timed := ExceptT Stop (StateM Session)

namespace Session

/-- The session in which a call begins. Moments count from its beginning, and none comes before the
one listed ahead of it. -/
def begin (w : World) (timeline : Timeline) : Session :=
  { world := w, fired := 0, limit := w.now + patience
    timeline := timeline.map fun e => (w.now + e.1, e.2) }

/-- Moves the clock forward to a moment. -/
def advanceTo (s : Session) (moment : Nat) : Session :=
  { s with world := { s.world with now := Nat.max s.world.now moment } }

/-- Performs the actions of a moment. -/
def fire (s : Session) (actions : List Action) : Session :=
  { s with world := s.world.performAll actions, fired := s.fired + 1 }

/-- Whether the next moment of a timeline has come. -/
def isDue (s : Session) : Timeline → Bool
  | [] => false
  | (time, _) :: _ => time ≤ s.world.now

/-- Waits until a moment, or until a test of the world holds after actions of the timeline. Tells
whether the test held. -/
def waitUntil (moment : Nat) (woken : World → Bool) (s : Session) : Timeline → Bool × Session
  | [] => (false, { s.advanceTo moment with timeline := [] })
  | (time, actions) :: rest =>
    if time < moment then
      let s := (s.advanceTo time).fire actions
      if !s.isDue rest && woken s.world then (true, { s with timeline := rest })
      else waitUntil moment woken s rest
    else (false, { s.advanceTo moment with timeline := (time, actions) :: rest })

/-- Performs the actions of all moments of a timeline that have come. -/
def fireDue (s : Session) : Timeline → Session
  | [] => { s with timeline := [] }
  | (time, actions) :: rest =>
    if time ≤ s.world.now then fireDue (s.fire actions) rest
    else { s with timeline := (time, actions) :: rest }

end Session

namespace Timed

/-- The world as it is. -/
def world : Timed World := return (← get).world

/-- Changes the world. -/
def setWorld (w : World) : Timed Unit := modify fun s => { s with world := w }

/-- Waits so many milliseconds, or until a test of the world holds after something happened. Tells
whether the test held. Waiting beyond the limit of the call ends it. -/
def waitWhile (ms : Nat) (woken : World → Bool) : Timed Bool := do
  let s ← get
  if ms = 0 then return false
  let moment := s.world.now + ms
  let (held, s) := s.waitUntil (Nat.min moment s.limit) woken s.timeline
  set s
  if held then return true
  if s.limit < moment then throw .hang
  return false

/-- Waits so many milliseconds. -/
def sleep (ms : Nat) : Timed Unit := discard (waitWhile ms fun _ => false)

/-- Waits so many milliseconds for something that happens beside the call: the call is given up
before it, and the actions that are due are performed before it. -/
def awaitBeside (ms : Nat) : Timed Unit := do
  sleep ms
  let s ← get
  if s.limit ≤ s.world.now then throw .hang
  set (s.fireDue s.timeline)

end Timed

end ServiceRouting.Simulation
