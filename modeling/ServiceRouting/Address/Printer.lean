import ServiceRouting.Address.Basic

/-!
# Texts of socket addresses

Addresses of version 6 are written as RFC 5952 lays down: hexadecimal segments without leading
zeros, the first of the longest runs of two or more zero segments left out. An address that stands
for one of version 4 ends in dotted octets.
-/

namespace ServiceRouting.SocketAddress

/-- Octets with dots between them. -/
def dotted (octets : List Nat) : String := String.intercalate "." (octets.map toString)

/-- Segments with colons between them. -/
def colonSeparated (segments : List Nat) : String :=
  String.intercalate ":" (segments.map fun s => String.ofList (Nat.toDigits 16 s))

/-- The run of zeros at the front of some segments. -/
def zeroRun (segments : List Nat) : Nat := (segments.takeWhile (· = 0)).length

/-- Where the first of the longest runs of zeros starts, and its length. -/
def longestZeroRun (segments : List Nat) : Nat × Nat :=
  (List.range segments.length).foldl (fun best start =>
    let length := zeroRun (segments.drop start)
    if best.2 < length then (start, length) else best) (0, 0)

/-- The text of an address of version 6, without scope and port. -/
def segmentsText (segments : List Nat) : String :=
  match segments with
  | [0, 0, 0, 0, 0, 0xFFFF, x, y] =>
    "::ffff:" ++ dotted [x / 256, x % 256, y / 256, y % 256]
  | _ =>
    let (start, length) := longestZeroRun segments
    if 1 < length then
      colonSeparated (segments.take start) ++ "::" ++
        colonSeparated (segments.drop (start + length))
    else colonSeparated segments

/-- The text of the address. -/
def text : SocketAddress → String
  | v4 a b c d port => dotted [a, b, c, d] ++ ":" ++ toString port.val
  | v6 segments scope port =>
    let scopeText := if scope.val = 0 then "" else "%" ++ toString scope.val
    "[" ++ segmentsText (segments.toList.map Fin.val) ++ scopeText ++ "]:" ++ toString port.val

end ServiceRouting.SocketAddress
