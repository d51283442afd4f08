/-!
# Paths of requests

The path of a request is cut at slashes as it is written; a part that names a service or a method
is then read by taking each percent sign with two hexadecimal digits as one byte. A percent sign
without them stands for itself. The bytes have to be well-formed UTF-8.
-/

namespace ServiceRouting.Endpoint

/-- The value of a hexadecimal digit. -/
def hexValue? (b : UInt8) : Option UInt8 :=
  if 0x30 ≤ b ∧ b ≤ 0x39 then some (b - 0x30)
  else if 0x41 ≤ b ∧ b ≤ 0x46 then some (b - 0x37)
  else if 0x61 ≤ b ∧ b ≤ 0x66 then some (b - 0x57)
  else none

/-- The byte that three bytes stand for, if they are a percent sign and two digits. -/
def escapedByte? (sign high low : UInt8) : Option UInt8 :=
  match hexValue? high, hexValue? low with
  | some h, some l => if sign = 0x25 then some (h * 16 + l) else none
  | _, _ => none

/-- The bytes that percent signs stand for, put in their places. -/
def percentDecoded : List UInt8 → List UInt8
  | b :: high :: low :: rest =>
    match escapedByte? b high low with
    | some c => c :: percentDecoded rest
    | none => b :: percentDecoded (high :: low :: rest)
  | bytes => bytes

/-- The text that a part of a path stands for, unless it is not well formed. -/
def decodePart (part : String) : Option String :=
  String.fromUTF8? ⟨(percentDecoded part.toUTF8.toList).toArray⟩

/-- The characters before the query and the fragment. -/
def withoutQuery (path : List Char) : List Char := path.takeWhile fun c => c ≠ '?' && c ≠ '#'

/-- The parts of a path that starts with a slash. -/
def parts? (path : String) : Option (List String) :=
  match (withoutQuery path.toList).splitOn '/' with
  | [] :: parts => some (parts.map String.ofList)
  | _ => none

end ServiceRouting.Endpoint
