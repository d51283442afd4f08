import ServiceRouting.Endpoint.Answer
import ServiceRouting.Json.Writer
import ServiceRouting.Proxy.Attempt
import ServiceRouting.Proxy.Environment
import ServiceRouting.Simulation.Clock

/-!
# Calls in a simulated process

What takes time: running a handler, submitting a call to the transport, pausing, invoking a method
through a proxy, and answering a request. An invocation goes through its steps, and the simulated
process gives the events.
-/

namespace ServiceRouting.Simulation

open Json (Value)

/-- What a scripted method makes of its arguments at last. -/
def Ending.outcome (args : List Value) : Ending → Outcome
  | echo => .ok (.array args)
  | fail source => .error source
  | give value => .ok value

/-- Runs a handler. -/
def Handler.run (args : List Value) : Handler → Timed Outcome
  | builtin method => return method.run args
  | scripted (.mk _ sleepMs also ending) => do
    Timed.sleep sleepMs
    Timed.setWorld ((← Timed.world).performAll also)
    return ending.outcome args

/-- The answer of the scripted transport. -/
def submitScripted (target : Node) (call : CallDescriptor) (failover : Failover) :
    Timed (Except DispatchError Value) := do
  let w ← Timed.world
  let t := { w.scripted with log := ⟨target, call, failover⟩ :: w.scripted.log }
  if t.missing.contains target.id then
    Timed.setWorld { w with scripted := t }
    return .error (.serviceNotFound call.service target.id)
  match t.queue with
  | [] =>
    Timed.setWorld { w with scripted := t }
    return .ok (.string target.id)
  | .mk sleepMs also result :: queue =>
    Timed.setWorld { w with scripted := { t with queue } }
    Timed.sleep sleepMs
    Timed.setWorld ((← Timed.world).performAll also)
    return result

/-- Submits a call to the transport of the process. -/
def submit (target : Node) (call : CallDescriptor) (failover : Failover) :
    Timed (Except DispatchError Value) := do
  match (← Timed.world).transport with
  | .scripted => submitScripted target call failover
  | .inProcess =>
    InProcess.submit (return ((← Timed.world).inProcess, (← Timed.world).registries))
      (fun handler args => handler.run args) target call

/-- Runs a received call on a registry. -/
def executeOn (registry : Registry Handler) (node : NodeId) (call : CallDescriptor) :
    Timed (Except DispatchError Value) :=
  Execution.serve (fun handler args => handler.run args) call
    (Execution.findReceived registry node call)

/-- Pauses before an attempt, with a jitter of zero, unless the token is cancelled. -/
def pause (isCancelled : World → Bool) (backoff : Backoff) (attempt : Nat) : Timed PauseEnd := do
  if isCancelled (← Timed.world) then return .interrupted
  match backoff.delay? attempt 0 with
  | none => throw (.broken Backoff.overflowMessage)
  | some delay =>
    let held ← Timed.waitWhile delay.timerMillis isCancelled
    return if held then .interrupted else .resumed

/-- Pauses on a token of its own that is cancelled after so many milliseconds: where the end of the
delay and the cancellation fall on one moment, the delay is over. -/
def pauseWithCancel (backoff : Backoff) (attempt : Nat) (cancelMs : Option Nat) :
    Timed PauseEnd := do
  match cancelMs, backoff.delay? attempt 0 with
  | some 0, _ => return .interrupted
  | _, none => throw (.broken Backoff.overflowMessage)
  | some ms, some delay =>
    if ms < delay.timerMillis then
      Timed.awaitBeside ms
      return .interrupted
    else
      Timed.sleep delay.timerMillis
      return .resumed
  | none, some delay =>
    Timed.sleep delay.timerMillis
    return .resumed

/-- What the attempts of a proxy are made with. -/
def callSite (p : Proxy) : CallSite Timed Handler where
  find id call := do
    match (← Timed.world).registries[p.registry]? with
    | none => return .error (.serviceNotFound call.service id)
    | some registry => return Execution.findLocal registry id call
  run handler args := handler.run args
  submit := submit

/-- The slot of a proxy. -/
def slotOf (number : ProxyNumber) (w : World) : StickySlot :=
  ((w.proxy? number).map (·.slot)).getD .empty

/-- The surroundings of an invocation through a proxy. -/
def surroundings (number : ProxyNumber) (p : Proxy) (call : CallDescriptor) :
    Environment Timed where
  sticky := p.isSticky
  service := p.name
  held := return (slotOf number (← Timed.world)).held
  select := do
    let (w, draw, tag) := (← Timed.world).draw
    Timed.setWorld w
    let choice := w.choice ⟨p.selector, p.registry, p.slot⟩ call.service
    return (choice.take draw).map (⟨tag, ·⟩)
  install fresh := do
    let w ← Timed.world
    let (slot, winner) := (slotOf number w).install fresh
    Timed.setWorld (w.setProxySlot number slot)
    return winner
  attempt := (callSite p).attempt p.selector.localId call
  clear tag := do
    let w ← Timed.world
    Timed.setWorld (w.setProxySlot number ((slotOf number w).clearIf tag).1)
  pause := pause (·.grid.pool.isCancelled number) p.backoff

/-- More steps than an invocation takes that pauses a millisecond each time. -/
def stepLimit : Nat := 8 * patience

/-- Invokes a method through a proxy. -/
def invoke (number : ProxyNumber) (method : String) (args : List Value) :
    Timed (Except InvocationError Value) := do
  match (← Timed.world).proxy? number with
  | none => throw .hang
  | some p =>
    match (← (surroundings number p ⟨p.name, method, args⟩).run stepLimit .start).result? with
    | some result => return result
    | none => throw .hang

/-- Invokes a method so many times, and gives the results in order. -/
def invokeMany (number : ProxyNumber) (method : String) (args : List Value) :
    Nat → Timed (List (Except InvocationError Value))
  | 0 => return []
  | n + 1 => do
    let result ← invoke number method args
    return result :: (← invokeMany number method args n)

/-- Invokes a method through the shared proxy of a service. -/
def invokeShared (service : ServiceName) (method : String) (args : List Value) :
    Timed (Except InvocationError Value) := do
  let (w, number) := (← Timed.world).findProxy (.shared service)
  Timed.setWorld w
  match number with
  | none => throw .hang
  | some number => invoke number method args

/-- Answers a request to the node. -/
def answer (request : Request) : Timed Answer := do
  let w ← Timed.world
  match w.registries[w.grid.registry]? with
  | none => throw .hang
  | some registry =>
    Endpoint.answer (fun handler args => handler.run args) w.cluster.localNode.id registry
      invokeShared request

/-- What came of a call. -/
structure Report (α : Type) where
  world : World
  outcome : Except Stop α
  /-- The milliseconds that it took. -/
  ms : Nat
  /-- How many moments of the timeline came. -/
  fired : Nat
  /-- The calls handed to the scripted transport, in order. -/
  submissions : List Submission

/-- Makes a call and performs the actions of a timeline meanwhile. -/
def call {α : Type} (w : World) (timeline : Timeline) (action : Timed α) : Report α :=
  let w := { w with scripted := { w.scripted with log := [] } }
  let (outcome, s) := action.run (Session.begin w timeline)
  { world := s.world, outcome
    ms := s.world.now - w.now
    fired := s.fired
    submissions := s.world.scripted.log.reverse }

/-- The distinct texts of the results of invocations made one after the other, in order: a value as
JSON, an error as its message. -/
def outcomeTexts (results : List (Except InvocationError Value)) : List String :=
  (Table.ofList (results.map fun
    | .ok value => (value.text, ())
    | .error e => (e.message, ()))).keys

end ServiceRouting.Simulation
