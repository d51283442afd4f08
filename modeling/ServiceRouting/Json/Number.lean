import ServiceRouting.Json.Value
import ServiceRouting.Text.Digits

/-!
# Reading JSON numbers

A number is read digit by digit into a 64-bit significand. Digits that no longer fit are left out:
those before the point raise the exponent. The significand is then multiplied or divided once by a
power of ten, so the result may differ from the nearest binary64 number in its last bit.
-/

namespace ServiceRouting.Json.Number

/-- The parts of a number as written. -/
structure Parts where
  negative : Bool
  /-- The digits before the point. -/
  whole : List Nat
  /-- The digits after the point. -/
  fraction : List Nat := []
  /-- Whether the exponent is negative, and its digits. -/
  exponent : Option (Bool × List Nat) := none

/-- Appends digits to a significand while it stays below 2^64, and gives the digits left out. -/
def accumulate (significand : Nat) : List Nat → Nat × List Nat
  | [] => (significand, [])
  | d :: rest =>
    if significand * 10 + d < 18446744073709551616 then accumulate (significand * 10 + d) rest
    else (significand, d :: rest)

/-- The power of ten as a binary64 number. -/
def powerOfTen (n : Nat) : Float := Float.ofScientific 1 false n

/-- `f · 10 ^ exponent`, unless it is infinite. Powers beyond the largest are divided out in steps
of 308, of which four leave nothing of any significand. -/
def scale (f : Float) (exponent : Int) : Nat → Option Float
  | 0 => some 0.0
  | steps + 1 =>
    if exponent.natAbs ≤ 308 then
      if 0 ≤ exponent then
        let product := f * powerOfTen exponent.natAbs
        if product.isFinite then some product else none
      else some (f / powerOfTen exponent.natAbs)
    else if f == 0.0 then some f
    else if 0 ≤ exponent then none
    else scale (f / powerOfTen 308) (exponent + 308) steps

/-- The binary64 number with a sign and a magnitude. -/
def signed (negative : Bool) (magnitude : Float) : Number :=
  .float (if negative then -magnitude else magnitude).toBits

/-- The largest exponent that is taken for what it says. -/
def exponentLimit : Nat := 2147483647

/-- The number that the parts denote, unless it is too large. Without fraction and exponent it is
an integer if it fits 64 bits; `-0` is the negative zero of binary64. -/
def ofParts (parts : Parts) : Option Number :=
  let (significand, wholeLeft) := accumulate 0 parts.whole
  if parts.fraction.isEmpty && parts.exponent.isNone && wholeLeft.isEmpty then
    if !parts.negative then some (.integer significand)
    else if 0 < significand ∧ significand ≤ 9223372036854775808 then
      some (.integer (-(significand : Int)))
    else some (signed true significand.toUInt64.toFloat)
  else
    let (significand, fractionLeft) := accumulate significand parts.fraction
    let point : Int := wholeLeft.length - (parts.fraction.length - fractionLeft.length : Nat)
    match parts.exponent with
    | some (negativeExponent, digits) =>
      let exponent := Text.ofDigits 10 digits
      if exponentLimit < exponent then
        if significand ≠ 0 ∧ !negativeExponent then none
        else some (signed parts.negative 0.0)
      else
        (scale significand.toUInt64.toFloat
          (point + if negativeExponent then -(exponent : Int) else exponent) 4).map
          (signed parts.negative)
    | none => (scale significand.toUInt64.toFloat point 4).map (signed parts.negative)

end ServiceRouting.Json.Number
