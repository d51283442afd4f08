import ServiceRouting.Call.Error
import ServiceRouting.Service.Instance

/-!
# Built-in services

Two services that a node deploys by name: `echo` gives its argument back, `calculator` adds two
numbers.
-/

namespace ServiceRouting

open Json (Value)

/-- A method of a built-in service. -/
inductive Builtin where
  /-- Gives its argument back. -/
  | echo
  /-- Adds two numbers. -/
  | add
deriving DecidableEq

namespace Builtin

/-- The names of the built-in services. -/
def serviceNames : List ServiceName := ["echo", "calculator"]

/-- The methods of the built-in service with this name. -/
def methods? : ServiceName → Option (List (Signature × Builtin))
  | "echo" => some [(⟨"echo", [.any]⟩, echo)]
  | "calculator" => some [(⟨"add", [.number, .number]⟩, add)]
  | _ => none

/-- The built-in service with this name, its handlers wrapped. -/
def service? {Handler : Type} (wrap : Builtin → Handler) (name : ServiceName) :
    Option (Service Handler) :=
  (methods? name).map fun methods =>
    (Service.ofName name).registerAll (methods.map fun m => (m.1, wrap m.2))

/-- An argument as a binary64 number. -/
def operand (args : List Value) (index : Nat) (position : String) : Except ErrorChain Float :=
  match args[index]? with
  | some (.number n) => .ok n.toFloat
  | some _ => .error ⟨position ++ " operand is not a number", []⟩
  | none => .error ⟨position ++ " operand is missing", []⟩

/-- Runs the method. -/
def run : Builtin → List Value → Except ErrorChain Value
  | echo, args => .ok (args.head?.getD .null)
  | add, args => do
    let a ← operand args 0 "first"
    let b ← operand args 1 "second"
    return Value.ofFloat (a + b)

end Builtin

end ServiceRouting
