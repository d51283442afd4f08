import ServiceRouting.Proxy.Attempt
import ServiceRouting.Proxy.Callers

/-!
# Callers and time

The callers of a proxy as `Callers` has them, with a clock. An attempt ends with what the handler or
the transport makes of the call, and a pause is made of the steps that it takes: the caller looks at
the token, draws a jitter and begins to wait, and a caller that waits looks at the token and at the
clock, the token first. Each step is one step of the callers, or it leaves them as they are.
-/

namespace ServiceRouting

open Json (Value)

namespace PacedCallers

/-- What becomes of an attempt: the handlers that it finds on the local node, and what running them
or handing the call to the transport gives. -/
structure Course (Handler : Type) where
  registry : Registry Handler
  call : CallDescriptor
  run : Handler → List Value → Outcome
  submit : Node → CallDescriptor → Failover → Except DispatchError Value

/-- A step of one of the callers, of the clock or of what surrounds them. -/
inductive Move (Handler : Type) where
  /-- A step of the callers that is neither the end of an attempt nor part of a pause. -/
  | go (move : Callers.Move Handler)
  /-- The attempt of a caller ends. -/
  | answer (caller : Nat) (course : Course Handler)
  /-- Time passes, in milliseconds. -/
  | pass (ms : Nat)
  /-- A caller enters its pause, with what it draws for the jitter. -/
  | enter (caller draw : Nat)
  /-- A caller that waits is woken. -/
  | wake (caller : Nat)

end PacedCallers

/-- The callers of a proxy and a clock. -/
structure PacedCallers (Handler : Type) where
  callers : Callers Handler
  /-- The time in milliseconds. -/
  now : Nat
  /-- The time at which the delay of a caller is over, once it waits. -/
  due? : Nat → Option Nat

namespace PacedCallers

variable {Handler : Type}

/-- No invocation has begun. -/
def idle (cluster : Cluster) (registry : Registry Handler) : PacedCallers Handler :=
  { callers := .idle cluster registry, now := 0, due? := fun _ => none }

/-- The result of an attempt on a node. -/
def Course.result (course : Course Handler) (localId : NodeId) (n : Node) :
    Except InvocationError Value :=
  let site : CallSite Id Handler :=
    { find := fun id call => Execution.findLocal course.registry id call
      run := course.run
      submit := course.submit }
  site.attempt localId course.call n

/-- What a step amounts to: the step of the callers in it, the time, and the delays after it. -/
structure Reaction (Handler : Type) where
  move : Callers.Move Handler
  now : Nat
  due? : Nat → Option Nat

/-- The callers take a step, and nothing else happens. -/
def plainly (s : PacedCallers Handler) (move : Callers.Move Handler) : Reaction Handler :=
  ⟨move, s.now, s.due?⟩

/-- The step that leaves the callers as they are. -/
def still (s : PacedCallers Handler) : Callers.Move Handler :=
  .change s.callers.cluster s.callers.registry

/-- A caller takes a step, and after it waits until a time or does not wait. -/
def waiting (s : PacedCallers Handler) (caller : Nat) (move : Callers.Move Handler)
    (due : Option Nat) : Reaction Handler :=
  ⟨move, s.now, fun other => if other = caller then due else s.due? other⟩

/-- A caller enters the pause of this number. It looks at the token first. A delay that is no
duration breaks the invocation off. -/
def enterPause (p : Proxy) (s : PacedCallers Handler) (caller number draw : Nat) :
    Reaction Handler :=
  match PauseEnd.poll s.callers.cancelled false with
  | some ending => s.waiting caller (.hear caller (.paused ending)) none
  | none =>
    match p.backoff.delay? number (draw % Backoff.jitterLimit) with
    | some delay => s.waiting caller s.still (some (s.now + delay.timerMillis))
    | none => s.waiting caller (.abandon caller) none

/-- A caller that waits is woken. It looks at the token first, and then at the clock. -/
def wakeUp (s : PacedCallers Handler) (caller due : Nat) : Reaction Handler :=
  match PauseEnd.poll s.callers.cancelled (due ≤ s.now) with
  | some ending => s.waiting caller (.hear caller (.paused ending)) none
  | none => s.plainly s.still

/-- Whether a step is neither the end of an attempt nor that of a pause. -/
def isFree : Callers.Move Handler → Bool
  | .hear _ (.answered _) | .hear _ (.paused _) => false
  | _ => true

/-- What a step amounts to, if it can be taken. -/
def react (p : Proxy) (s : PacedCallers Handler) : Move Handler → Option (Reaction Handler)
  | .go move => if isFree move then some (s.plainly move) else none
  | .answer caller course =>
    match s.callers.stage? caller with
    | some (.calling target) =>
      some (s.plainly
        (.hear caller (.answered (course.result p.selector.localId target.node))))
    | _ => none
  | .pass ms => some { s.plainly s.still with now := s.now + ms }
  | .enter caller draw =>
    match s.callers.invocation? caller, s.due? caller with
    | some ⟨.pausing, number⟩, none => some (s.enterPause p caller number draw)
    | _, _ => none
  | .wake caller =>
    match s.callers.stage? caller, s.due? caller with
    | some .pausing, some due => some (s.wakeUp caller due)
    | _, _ => none

/-- One step, if it can be taken. -/
def step (p : Proxy) (s : PacedCallers Handler) (move : Move Handler) :
    Option (PacedCallers Handler) :=
  (s.react p move).bind fun reaction =>
    (s.callers.step p reaction.move).map fun callers => ⟨callers, reaction.now, reaction.due?⟩

/-- Several steps, if they can all be taken. -/
def run (p : Proxy) (s : PacedCallers Handler) :
    List (Move Handler) → Option (PacedCallers Handler)
  | [] => some s
  | move :: moves => (s.step p move).bind (run p · moves)

end PacedCallers

end ServiceRouting
