import ServiceRouting.Call.Execution
import ServiceRouting.Proxy.Basic

/-!
# Calls within the process

A transport between registries that live in the same process. Each node attached to it stands for
a registry; calling a node that is not attached is like calling one that cannot be reached.
-/

namespace ServiceRouting

universe u

/-- The nodes attached, with the registry of each. -/
structure InProcess where
  attached : Table RegistryNumber

namespace InProcess

/-- The transport without nodes. -/
def empty : InProcess := ⟨Table.empty⟩

/-- Attaches a node, in place of what was attached under its identity. -/
def attach (t : InProcess) (id : NodeId) (registry : RegistryNumber) : InProcess :=
  ⟨t.attached.insert id registry⟩

/-- Detaches a node and tells whether it was attached. -/
def detach (t : InProcess) (id : NodeId) : InProcess × Bool :=
  (⟨t.attached.erase id⟩, t.attached.contains id)

/-- The handler of a call handed to the transport. -/
def find {Handler : Type u} (t : InProcess) (registries : List (Registry Handler))
    (target : Node) (call : CallDescriptor) : Except DispatchError Handler :=
  match (t.attached.get? target.id).bind (registries[·]?) with
  | none => .error (.topologyChanged target.id)
  | some registry => Execution.findReceived registry target.id call

/-- Submits a call to an attached node. The nodes and the registries are looked up first; the
handler runs afterwards. -/
def submit {m : Type → Type} [Monad m] {Handler : Type}
    (lookUp : m (InProcess × List (Registry Handler)))
    (run : Handler → List Json.Value → m Outcome) (target : Node) (call : CallDescriptor) :
    m (Except DispatchError Json.Value) := do
  let (t, registries) ← lookUp
  Execution.serve run call (t.find registries target call)

end InProcess

end ServiceRouting
