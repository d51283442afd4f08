/-!
# Shortest decimals of binary floating-point numbers

The fewest decimal digits that are rounded back to a given binary64 number, and of those the
nearest to it; of two that are equally near, the even one. All arithmetic is exact: a number and
the ends of the interval of reals rounded to it are fractions with one denominator.
-/

namespace ServiceRouting.Decimal

/-- `significand · 2 ^ exponent`, a positive finite binary64 number. -/
structure Binary where
  significand : Nat
  exponent : Int
  /-- Whether the next smaller number is nearer than the next larger one. -/
  narrowBelow : Bool

/-- `digits · 10 ^ exponent`. -/
structure Scientific where
  digits : Nat
  exponent : Int
deriving DecidableEq, Repr

/-- The number with the given bits, without its sign. -/
def Binary.ofBits (bits : UInt64) : Binary :=
  let fraction : Nat := bits.toNat % 4503599627370496
  let biased : Nat := bits.toNat / 4503599627370496 % 2048
  if biased = 0 then ⟨fraction, -1074, false⟩
  else ⟨4503599627370496 + fraction, (biased : Int) - 1075, fraction = 0 && 1 < biased⟩

/-- A number and the reals that are rounded to it: three numerators over one denominator. -/
structure Rounding where
  low : Nat
  value : Nat
  high : Nat
  denominator : Nat
  /-- Whether the ends are rounded to the number too. -/
  closed : Bool

/-- The reals rounded to a number. -/
def Binary.rounding (b : Binary) : Rounding :=
  let scale := Nat.pow 2 (b.exponent - 2).toNat
  { low := (4 * b.significand - if b.narrowBelow then 1 else 2) * scale
    value := 4 * b.significand * scale
    high := (4 * b.significand + 2) * scale
    denominator := Nat.pow 2 (2 - b.exponent).toNat
    closed := b.significand % 2 = 0 }

/-- The decimal point of the number: the exponent of its first digit. -/
def Rounding.magnitude (r : Rounding) : Int :=
  ((Nat.toDigits 10 (r.value * Nat.pow 10 400 / r.denominator)).length : Int) - 401

/-- The point of the grid `10 ^ exponent` nearest to the number among its two neighbours there,
if one of them is rounded to the number. -/
def Rounding.onGrid? (r : Rounding) (exponent : Int) : Option Scientific :=
  let up := Nat.pow 10 (-exponent).toNat
  let unit := Nat.pow 10 exponent.toNat * r.denominator
  let below := r.value * up / unit
  let inside (n : Nat) : Bool :=
    if r.closed then r.low * up ≤ n * unit && n * unit ≤ r.high * up
    else r.low * up < n * unit && n * unit < r.high * up
  let distanceBelow := r.value * up - below * unit
  let distanceAbove := (below + 1) * unit - r.value * up
  let belowIsNearer :=
    distanceBelow < distanceAbove || distanceBelow = distanceAbove && below % 2 = 0
  if inside below && (!inside (below + 1) || belowIsNearer) then
    some ⟨below, exponent⟩
  else if inside (below + 1) then some ⟨below + 1, exponent⟩
  else none

/-- The first of the grids with `17 - tries + 1`, … digits that has a hit. -/
def Rounding.search (r : Rounding) (magnitude : Int) : Nat → Scientific
  | 0 => ⟨0, 0⟩
  | tries + 1 =>
    match r.onGrid? (magnitude + 1 - ((18 - (tries + 1) : Nat) : Int)) with
    | some found => found
    | none => r.search magnitude tries

/-- Moves zeros at the end of the digits into the exponent. -/
def Scientific.normalize (s : Scientific) : Nat → Scientific
  | 0 => s
  | fuel + 1 =>
    if s.digits ≠ 0 ∧ s.digits % 10 = 0 then
      Scientific.normalize ⟨s.digits / 10, s.exponent + 1⟩ fuel
    else s

/-- The shortest decimal of a positive finite number, without zeros at its end. -/
def shortest (bits : UInt64) : Scientific :=
  let r := (Binary.ofBits bits).rounding
  (r.search r.magnitude 17).normalize 17

/-- How a shortest decimal is written. -/
structure Layout where
  /-- The largest number of digits before the point that is written without an exponent. -/
  maxWhole : Int
  /-- The largest number of zeros between the point and the first digit that is written out. -/
  maxZeros : Int
  /-- Whether a plus sign stands before a positive exponent. -/
  plus : Bool

/-- Writes the decimal: positional where the layout allows it, otherwise one digit before the
point and an exponent. -/
def Layout.write (style : Layout) (s : Scientific) : String :=
  let digits := Nat.toDigits 10 s.digits
  let length : Int := digits.length
  let point := length + s.exponent
  let zeros (n : Int) : List Char := List.replicate n.toNat '0'
  if 0 ≤ s.exponent ∧ point ≤ style.maxWhole then
    String.ofList (digits ++ zeros s.exponent ++ ['.', '0'])
  else if 0 < point ∧ point ≤ style.maxWhole then
    String.ofList (digits.take point.toNat ++ '.' :: digits.drop point.toNat)
  else if -style.maxZeros ≤ point ∧ point ≤ 0 then
    String.ofList ('0' :: '.' :: zeros (-point) ++ digits)
  else
    let sign := if style.plus && 0 < point then ['+'] else []
    let exponent := 'e' :: sign ++ (toString (point - 1)).toList
    match digits with
    | [d] => String.ofList (d :: exponent)
    | d :: rest => String.ofList (d :: '.' :: rest ++ exponent)
    | [] => ""

end ServiceRouting.Decimal
