import ServiceRouting.Decimal.Shortest
import ServiceRouting.Json.Value

/-!
# Writing JSON texts

The compact text of a value: no blanks, the members of an object in their order, and of a binary64
number the shortest decimal that reads back.
-/

namespace ServiceRouting.Json

/-- Numbers from 10^-5 on and below 10^16 are written positionally, a positive exponent with its
sign. -/
def numberLayout : Decimal.Layout := ⟨16, 4, true⟩

/-- The text of a finite binary64 number. -/
def floatText (bits : UInt64) : String :=
  let magnitude := bits &&& 0x7FFFFFFFFFFFFFFF
  let sign := if bits = magnitude then "" else "-"
  sign ++ if magnitude = 0 then "0.0" else numberLayout.write (Decimal.shortest magnitude)

/-- The text of a number. -/
def Number.text : Number → String
  | .integer value => toString value
  | .float bits => floatText bits

/-- The hexadecimal digits of a control character. -/
def controlDigits (c : Char) : List Char :=
  [Nat.digitChar (c.toNat / 16), Nat.digitChar (c.toNat % 16)]

/-- One character between quotes. -/
def escapedChar (c : Char) : List Char :=
  match c with
  | '"' => ['\\', '"']
  | '\\' => ['\\', '\\']
  | '\x08' => ['\\', 'b']
  | '\x0c' => ['\\', 'f']
  | '\n' => ['\\', 'n']
  | '\r' => ['\\', 'r']
  | '\t' => ['\\', 't']
  | c => if c.toNat < 0x20 then ['\\', 'u', '0', '0'] ++ controlDigits c else [c]

/-- A text between quotes. -/
def quotedText (text : String) : String :=
  String.ofList ('"' :: text.toList.flatMap escapedChar ++ ['"'])

mutual
/-- The text of a value. -/
def Value.text : Value → String
  | .null => "null"
  | .bool true => "true"
  | .bool false => "false"
  | .number value => value.text
  | .string value => quotedText value
  | .array items => "[" ++ itemsText items ++ "]"
  | .object members => "\x7b" ++ membersText members ++ "\x7d"

/-- The texts of the items of an array, separated by commas. -/
def itemsText : List Value → String
  | [] => ""
  | [item] => item.text
  | item :: rest => item.text ++ "," ++ itemsText rest

/-- The texts of the members of an object, separated by commas. -/
def membersText : List (String × Value) → String
  | [] => ""
  | [(key, value)] => quotedText key ++ ":" ++ value.text
  | (key, value) :: rest => quotedText key ++ ":" ++ value.text ++ "," ++ membersText rest
end

end ServiceRouting.Json
