import ServiceRouting.Service.Signature
import ServiceRouting.Service.Topology
import ServiceRouting.Text.Quoted

/-!
# Service instances

A service that runs on this node: its methods, each registered under a signature with a handler.
A call is served by the handler registered under its own signature, or else by one whose registered
signature serves it.
-/

namespace ServiceRouting

universe u

/-- A service running on this node, with handlers of any kind. -/
structure Service (Handler : Type u) where
  name : ServiceName
  /-- The methods in the order of their first registration. -/
  methods : List (Signature × Handler)

namespace Service

variable {Handler : Type u}

/-- A service without methods. -/
def ofName (name : ServiceName) : Service Handler := ⟨name, []⟩

/-- Registers a handler among methods, in place of the one under the same signature. -/
def registerIn (signature : Signature) (handler : Handler) :
    List (Signature × Handler) → List (Signature × Handler)
  | [] => [(signature, handler)]
  | (s, h) :: rest =>
    if s = signature then (signature, handler) :: rest
    else (s, h) :: registerIn signature handler rest

/-- Registers a method. -/
def register (s : Service Handler) (signature : Signature) (handler : Handler) :
    Service Handler :=
  { s with methods := registerIn signature handler s.methods }

/-- Registers methods one by one. -/
def registerAll (s : Service Handler) (methods : List (Signature × Handler)) : Service Handler :=
  methods.foldl (fun s m => s.register m.1 m.2) s

/-- The handler that serves a call. -/
def lookup (s : Service Handler) (call : Signature) : Option Handler :=
  match s.methods.find? (·.1 = call) with
  | some m => some m.2
  | none => (s.methods.find? (·.1.serves call)).map (·.2)

/-- Whether a call is served. -/
def hasMethod (s : Service Handler) (call : Signature) : Bool := (s.lookup call).isSome

/-- The registered signatures. -/
def signatures (s : Service Handler) : List Signature := s.methods.map (·.1)

/-- The number of methods. -/
def methodCount (s : Service Handler) : Nat := s.methods.length

/-- The service as a diagnostic text. -/
def text (s : Service Handler) : String :=
  "ServiceContext \x7b name: " ++ Text.quoted s.name ++ ", methods: " ++ toString s.methodCount
    ++ " \x7d"

end Service

end ServiceRouting
