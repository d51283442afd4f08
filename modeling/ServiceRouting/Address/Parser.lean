import ServiceRouting.Address.Basic

/-!
# Reading socket addresses

`SocketAddress.parse?` reads `1.2.3.4:80` and `[::1%2]:80`. Octets have no leading zeros; ports and
scopes may have them. In an address of version 6 one run of segments may be left out, and four
octets may stand for the last two segments.
-/

namespace ServiceRouting.SocketAddress

/-- A number in the given base at the front of a text and what follows it: at most `maxDigits`
digits are taken where a limit is given, and the number stays below `bound`. -/
def number? (base : Nat) (bound : Nat) (maxDigits : Option Nat) (leadingZero : Bool)
    (text : List Char) : Option (Nat × List Char) :=
  let value? (c : Char) : Option Nat :=
    let v :=
      if c.isDigit then c.toNat - '0'.toNat
      else if 'a' ≤ c ∧ c ≤ 'f' then c.toNat - 'a'.toNat + 10
      else if 'A' ≤ c ∧ c ≤ 'F' then c.toNat - 'A'.toNat + 10
      else base
    if v < base then some v else none
  let digits := text.takeWhile fun c => (value? c).isSome
  let rest := text.dropWhile fun c => (value? c).isSome
  let value := digits.foldl (fun n c => n * base + (value? c).getD 0) 0
  if digits.isEmpty || bound ≤ value || maxDigits.any (· < digits.length)
      || (!leadingZero && 1 < digits.length && digits.head? = some '0') then none
  else some (value, rest)

/-- A character at the front of a text. -/
def char? (c : Char) : List Char → Option (List Char)
  | d :: rest => if c = d then some rest else none
  | [] => none

/-- An octet: at most three digits, without leading zeros. -/
def octet? (text : List Char) : Option (Fin 256 × List Char) :=
  match number? 10 256 (some 3) false text with
  | some (n, rest) => if h : n < 256 then some (⟨n, h⟩, rest) else none
  | none => none

/-- Four octets with dots between them. -/
def octets? (text : List Char) :
    Option ((Fin 256 × Fin 256 × Fin 256 × Fin 256) × List Char) := do
  let (a, text) ← octet? text
  let (b, text) ← char? '.' text >>= octet?
  let (c, text) ← char? '.' text >>= octet?
  let (d, text) ← char? '.' text >>= octet?
  return ((a, b, c, d), text)

/-- A segment: at most four hexadecimal digits. -/
def segment? (text : List Char) : Option (Fin 65536 × List Char) :=
  match number? 16 65536 (some 4) true text with
  | some (n, rest) => if h : n < 65536 then some (⟨n, h⟩, rest) else none
  | none => none

/-- The segment made of two octets. -/
def segmentOf (high low : Fin 256) : Fin 65536 :=
  ⟨high.val * 256 + low.val, by have := high.isLt; have := low.isLt; omega⟩

/-- At most `room` segments with colons between them, the first one after a colon unless `first`.
Four octets may take the place of two segments, and end the group: the flag says whether they
did. -/
def segments (first : Bool) (text : List Char) : Nat → List (Fin 65536) × Bool × List Char
  | 0 => ([], false, text)
  | room + 1 =>
    let start := if first then some text else char? ':' text
    let octets := if 0 < room then start >>= octets? else none
    match octets with
    | some ((a, b, c, d), rest) => ([segmentOf a b, segmentOf c d], true, rest)
    | none =>
      match start >>= segment? with
      | some (s, rest) =>
        let (more, dotted, rest) := segments false rest room
        (s :: more, dotted, rest)
      | none => ([], false, text)

/-- Eight segments, if there are so many. -/
def vector? (parts : List (Fin 65536)) : Option (Vector (Fin 65536) 8) :=
  if h : parts.toArray.size = 8 then some ⟨parts.toArray, h⟩ else none

/-- Eight segments, of which one run may be left out. -/
def ipv6? (text : List Char) : Option (Vector (Fin 65536) 8 × List Char) := do
  let (front, dotted, rest) := segments true text 8
  if front.length = 8 then
    return (← vector? front, rest)
  else if dotted then none
  else
    let rest ← char? ':' rest >>= char? ':'
    let (back, _, rest) := segments true rest (8 - (front.length + 1))
    let zeros := List.replicate (8 - front.length - back.length) 0
    return (← vector? (front ++ zeros ++ back), rest)

/-- A colon and a port. -/
def port? (text : List Char) : Option (Fin 65536 × List Char) :=
  match char? ':' text >>= number? 10 65536 none true with
  | some (n, rest) => if h : n < 65536 then some (⟨n, h⟩, rest) else none
  | none => none

/-- A percent sign and a scope, or nothing. -/
def scope? (text : List Char) : Option (Fin 4294967296 × List Char) :=
  match text with
  | '%' :: rest =>
    match number? 10 4294967296 none true rest with
    | some (n, rest) => if h : n < 4294967296 then some (⟨n, h⟩, rest) else none
    | none => none
  | _ => some (⟨0, by decide⟩, text)

/-- The address that a text denotes, if it denotes one. -/
def parse? (source : String) : Option SocketAddress :=
  match source.toList with
  | '[' :: inner => do
    let (segments, rest) ← ipv6? inner
    let (scope, rest) ← scope? rest
    let (port, rest) ← char? ']' rest >>= port?
    if rest.isEmpty then some (v6 segments scope port) else none
  | outer => do
    let ((a, b, c, d), rest) ← octets? outer
    let (port, rest) ← port? rest
    if rest.isEmpty then some (v4 a b c d port) else none

end ServiceRouting.SocketAddress
