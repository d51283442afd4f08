import ServiceRouting.Json.Value

/-!
# Signatures

A method is registered under its name and the kinds of its parameters. A call has a signature of
its own, made of the kinds of its arguments; a registered signature serves it if names and lengths
agree and every parameter accepts its argument.
-/

namespace ServiceRouting

open Json (Value)

/-- The kind of an argument. `any` occurs only in registered signatures. -/
inductive ArgKind where
  | null
  | bool
  | number
  | string
  | array
  | object
  | any
deriving DecidableEq

namespace ArgKind

/-- The kind of a value. -/
def of : Value → ArgKind
  | .null => null
  | .bool _ => bool
  | .number _ => number
  | .string _ => string
  | .array _ => array
  | .object _ => object

/-- Whether a parameter of this kind accepts an argument of that kind. -/
def accepts (registered actual : ArgKind) : Bool := registered = any || registered = actual

/-- The name of the kind. -/
def text : ArgKind → String
  | null => "null"
  | bool => "bool"
  | number => "number"
  | string => "string"
  | array => "array"
  | object => "object"
  | any => "any"

/-- The kind with this name. -/
def ofText? : String → Option ArgKind
  | "null" => some null
  | "bool" => some bool
  | "number" => some number
  | "string" => some string
  | "array" => some array
  | "object" => some object
  | "any" => some any
  | _ => none

/-- A kind is read back from its name. -/
theorem ofText?_text (kind : ArgKind) : ofText? kind.text = some kind := by cases kind <;> rfl

end ArgKind

/-- What a method is registered and called under. -/
structure Signature where
  name : String
  kinds : List ArgKind
deriving DecidableEq

namespace Signature

/-- The signature of a call. -/
def ofCall (name : String) (args : List Value) : Signature := ⟨name, args.map ArgKind.of⟩

/-- Whether parameters accept arguments one by one. -/
def acceptAll : List ArgKind → List ArgKind → Bool
  | [], [] => true
  | registered :: rs, actual :: as => registered.accepts actual && acceptAll rs as
  | _, _ => false

/-- Whether the registered signature serves a call. -/
def serves (registered call : Signature) : Bool :=
  registered.name = call.name && acceptAll registered.kinds call.kinds

/-- The signature as a text. -/
def text (s : Signature) : String :=
  s.name ++ "(" ++ String.intercalate ", " (s.kinds.map ArgKind.text) ++ ")"

end Signature

end ServiceRouting
