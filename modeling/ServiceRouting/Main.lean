import ServiceRouting.CommandLine
import ServiceRouting.Endpoint.Answer
import ServiceRouting.Json.Writer
import ServiceRouting.Proxy.Attempt
import ServiceRouting.Proxy.Environment
import ServiceRouting.Proxy.Grid
import ServiceRouting.Transport.Message
import Std.Async.Signal
import Std.Async.TCP
import Std.Async.Timer

/-!
# The program of a node

Reads the command line and the configuration, listens at the address of the node, and answers
requests until it is interrupted. All that a node decides is decided elsewhere; here are its files,
sockets, clocks and random numbers.
-/

namespace ServiceRouting

open Json (Value)
open Std.Async

/-- The program's name in its own messages. -/
def programName : String := "service-grid-node"

/-- The fault behind an error of the file system. -/
def FileFault.ofError : IO.Error → FileFault
  | .noFileOrDirectory .. => .notFound
  | .inappropriateType _ code _ => if code = 21 then .isDirectory else .notDirectory
  | e => .other (toString e)

/-- Reads a file. -/
def readFile (path : String) : IO (Except FileFault ByteArray) := do
  if path.toList.contains '\x00' then return .error .unusablePath
  try return .ok (← IO.FS.readBinFile path)
  catch e => return .error (.ofError e)

/-- A running node. -/
structure Process where
  cluster : Cluster
  registry : Registry Builtin
  requestTimeoutMs : Nat
  /-- The proxies, and how many tags were given to resolved nodes. -/
  grid : IO.Ref (Grid × Tag)
  /-- How many connections are being served. -/
  active : IO.Ref Nat

/-- An address of the system's sockets. -/
def SocketAddress.toNet : SocketAddress → Std.Net.SocketAddress
  | .v4 a b c d port =>
    .v4 ⟨.ofParts a.val.toUInt8 b.val.toUInt8 c.val.toUInt8 d.val.toUInt8, port.val.toUInt16⟩
  | .v6 segments _ port => .v6 ⟨⟨segments.map fun s => s.val.toUInt16⟩, port.val.toUInt16⟩

/-- Waits so many milliseconds. -/
def sleepMs (ms : Nat) : Async Unit := sleep ⟨(ms : Int)⟩

/-- A random number. -/
def randomNumber : IO Nat := IO.rand 0 4294967295

/-- Receives a message, unless the connection ends before it is whole. -/
partial def receive (socket : TCP.Socket.Client) (isRequest : Bool) (got : ByteArray) :
    Async (Option Message) := do
  match Message.ofBytes? isRequest false got with
  | some m => return some m
  | none =>
    match ← socket.recv? 65536 with
    | some more => receive socket isRequest (got ++ more)
    | none => return Message.ofBytes? isRequest true got

namespace Process

/-- Sends a request to an address and waits for the answer. -/
def exchange (address : SocketAddress) (request : InvokeRequest) : Async Http.Sending := do
  let socket ← TCP.Socket.Client.mk
  socket.connect address.toNet
  let posted := Http.posted request
  socket.send (Message.postBytes address.text posted.path posted.body)
  match ← receive socket false .empty with
  | none => return .lost
  | some m =>
    match m.status? with
    | none => return .lost
    | some status => return .answered status m.text?

/-- Sends a request, unless that takes too long or fails. -/
def sendOnce (p : Process) (address : SocketAddress) (request : InvokeRequest) :
    Async Http.Sending := do
  try
    Async.race (exchange address request) (do sleepMs p.requestTimeoutMs; return .lost)
  catch _ => return .lost

/-- The network that the node is in. -/
def network (p : Process) : Http.Network Async :=
  Http.Network.withoutScopes
    { send := p.sendOnce
      draw := randomNumber
      wait := sleepMs }

/-- Waits so many milliseconds, unless a proxy is cancelled. -/
partial def waitUncancelled (p : Process) (number : ProxyNumber) (ms : Nat) : Async PauseEnd := do
  let (grid, _) ← p.grid.get
  match PauseEnd.poll (grid.pool.isCancelled number) (ms = 0) with
  | some ending => return ending
  | none =>
    let part := Nat.min ms 10
    sleepMs part
    waitUncancelled p number (ms - part)

/-- What the attempts of the node's proxies are made with. -/
def callSite (p : Process) : CallSite Async Builtin where
  find id call := return Execution.findLocal p.registry id call
  run handler args := return handler.run args
  submit := Http.submit p.network p.cluster

/-- Changes the slot of a proxy in one piece. -/
def updateSlot {α : Type} (p : Process) (number : ProxyNumber)
    (change : StickySlot → StickySlot × α) : Async α :=
  p.grid.modifyGet fun (grid, tag) =>
    let (slot, a) := change (((grid.pool.get? number).map (·.slot)).getD .empty)
    (a, { grid with pool := grid.pool.setSlot number slot }, tag)

/-- The surroundings of an invocation through a proxy. -/
def surroundings (p : Process) (number : ProxyNumber) (proxy : Proxy) (call : CallDescriptor) :
    Environment Async where
  sticky := proxy.isSticky
  service := proxy.name
  held := p.updateSlot number fun slot => (slot, slot.held)
  select := do
    let tag ← p.grid.modifyGet fun (grid, tag) => (tag, grid, tag + 1)
    let outcome := proxy.selector.select p.cluster p.registry call.service (← randomNumber)
    return outcome.map (⟨tag, ·⟩)
  install fresh := p.updateSlot number (·.install fresh)
  attempt := p.callSite.attempt proxy.selector.localId call
  clear tag := p.updateSlot number fun slot => ((slot.clearIf tag).1, ())
  pause number' := do
    let (grid, _) ← p.grid.get
    match PauseEnd.poll (grid.pool.isCancelled number) false with
    | some ending => return ending
    | none =>
      match proxy.backoff.delay? number' ((← randomNumber) % Backoff.jitterLimit) with
      | none => throw (IO.userError Backoff.overflowMessage)
      | some delay => p.waitUncancelled number delay.timerMillis

/-- Goes through the steps of an invocation. -/
partial def runInvocation (env : Environment Async) (i : Invocation) :
    Async (Except InvocationError Value) := do
  match i.result? with
  | some result => return result
  | none => runInvocation env (← env.advance i)

/-- Invokes a method through the shared proxy of a service. -/
def invoke (p : Process) (service : ServiceName) (method : String) (args : List Value) :
    Async (Except InvocationError Value) := do
  let (number, proxy) ← p.grid.modifyGet fun (grid, tag) =>
    let (grid, number) := grid.serviceProxy p.cluster service
    ((number, grid.pool.get? number), grid, tag)
  match proxy with
  | none => return .error (.serviceUnavailable service)
  | some proxy => runInvocation (p.surroundings number proxy ⟨service, method, args⟩) .start

/-- Answers a request. -/
def answer (p : Process) : Request → Async Answer :=
  Endpoint.answer (fun handler args => return handler.run args) p.cluster.localNode.id p.registry
    p.invoke

/-- The request that a message stands for. -/
def requestOf? (m : Message) : Option Request :=
  m.methodAndPath?.map fun (method, path) =>
    { method, path, contentType := m.header? "content-type", body := m.text?.getD "" }

/-- Serves one connection. -/
def serveConnection (p : Process) (socket : TCP.Socket.Client) : Async Unit := do
  p.active.modify (· + 1)
  try
    match (← receive socket true .empty).bind requestOf? with
    | none => pure ()
    | some r =>
      let answer ← p.answer r
      socket.send (Message.answerBytes answer.status (answer.body.map Value.text))
    socket.shutdown
  catch _ => pure ()
  p.active.modify (· - 1)

/-- Accepts connections, each served on its own. -/
partial def serve (p : Process) (server : TCP.Socket.Server) : Async Unit := do
  let socket ← server.accept
  background (p.serveConnection socket)
  p.serve server

/-- Waits until no connection is being served. -/
partial def drain (p : Process) : Async Unit := do
  if (← p.active.get) = 0 then return
  sleepMs 10
  p.drain

/-- Listens until the program is interrupted. -/
def listen (p : Process) (address : SocketAddress) : Async Unit := do
  let server ← TCP.Socket.Server.mk
  server.bind address.toNet
  server.listen 1024
  let interrupt ← Signal.Waiter.mk .sigint false
  let interrupted ← interrupt.wait
  background (p.serve server)
  let _ ← await interrupted
  p.grid.modify fun (grid, tag) => (grid.shutdown, tag)
  p.drain

end Process

/-- Starts the node that the arguments describe, and gives the fault that kept it from starting. -/
def startNode (args : List String) : IO (Option StartFault) := do
  match CommandLine.parse args with
  | .error fault => return some fault
  | .ok (path, bind) =>
    match CommandLine.start path bind (← readFile path) with
    | .error fault => return some fault
    | .ok (config, startup) =>
      let grid ← IO.mkRef (Grid.make 0 startup.options, 0)
      let active ← IO.mkRef 0
      let p : Process :=
        { cluster := startup.cluster, registry := startup.registry, grid, active
          requestTimeoutMs := startup.requestTimeout.timerMillis }
      try
        (p.listen config.bind).block
        return none
      catch e => return some (.cannotListen (toString e))

end ServiceRouting

/-- Starts a node. -/
def main (args : List String) : IO UInt32 := do
  match ← ServiceRouting.startNode args with
  | none => return 0
  | some fault =>
    IO.eprint (fault.report ServiceRouting.programName)
    return 1
