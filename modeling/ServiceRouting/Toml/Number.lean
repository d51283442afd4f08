import ServiceRouting.Document
import ServiceRouting.Toml.Character
import ServiceRouting.Text.Digits

/-!
# Numbers in TOML

Integers of 64 bits with a sign, in base ten, sixteen, eight or two, and binary64 numbers. One
underscore may stand between two digits. A number that is too large is no number, except a negative
one with a fraction or an exponent.
-/

namespace ServiceRouting.Toml

open Json (Number)

/-- Digits in a base, where an underscore is followed by a digit. -/
def readMoreDigits (base : Nat) (done : List Nat) : List Char → Option (List Nat × List Char)
  | [] => some (done.reverse, [])
  | '_' :: c :: rest => (Text.digit? base c).bind fun d => readMoreDigits base (d :: done) rest
  | c :: rest =>
    match Text.digit? base c with
    | some d => readMoreDigits base (d :: done) rest
    | none => if c = '_' then none else some (done.reverse, c :: rest)

/-- Digits in a base, at least one. -/
def readDigits (base : Nat) : List Char → Option (List Nat × List Char)
  | [] => none
  | c :: rest => (Text.digit? base c).bind fun d => readMoreDigits base [d] rest

/-- The integer as a document, if it fits 64 bits. -/
def integer? (n : Int) : Option Document :=
  if -9223372036854775808 ≤ n ∧ n < 9223372036854775808 then some (.number (.integer n)) else none

/-- An integer in a base, after the sign of the base. -/
def readInBase (base : Nat) (text : List Char) : Option (Document × List Char) := do
  let (digits, rest) ← readDigits base text
  let d ← integer? (Text.ofDigits base digits)
  return (d, rest)

/-- Exponents beyond these are of no use to any number of so many digits. -/
def exponentBound (digits : Nat) : Nat := digits + 400

/-- The binary64 number nearest to `significand · 10 ^ exponent`. -/
def decimal (digits : List Nat) (exponent : Int) : Float :=
  let bound := exponentBound digits.length
  let magnitude := Nat.min exponent.natAbs bound
  Float.ofScientific (Text.ofDigits 10 digits) (exponent < 0) magnitude

/-- The fraction of a number, if there is one. -/
def readFraction : List Char → Option (Option (List Nat) × List Char)
  | '.' :: rest => (readDigits 10 rest).map fun r => (some r.1, r.2)
  | text => some (none, text)

/-- The exponent of a number, if there is one. -/
def readExponent (text : List Char) : Option (Option Int × List Char) :=
  match text with
  | 'e' :: rest => signed rest
  | 'E' :: rest => signed rest
  | _ => some (none, text)
where
  /-- Digits after an optional sign. -/
  signed : List Char → Option (Option Int × List Char)
    | '+' :: rest => (readDigits 10 rest).map fun r => (some (Text.ofDigits 10 r.1 : Int), r.2)
    | '-' :: rest => (readDigits 10 rest).map fun r => (some (-(Text.ofDigits 10 r.1 : Int)), r.2)
    | rest => (readDigits 10 rest).map fun r => (some (Text.ofDigits 10 r.1 : Int), r.2)

/-- A binary64 number as a document. -/
def floatDocument (negative : Bool) (magnitude : Float) : Document :=
  .number (.float (if negative then -magnitude else magnitude).toBits)

/-- The digits before the point: no zero before others. -/
def readWhole : List Char → Option (List Nat × List Char)
  | '0' :: rest => some ([0], rest)
  | text => readDigits 10 text

/-- A number in base ten after its sign. -/
def readUnsigned (negative : Bool) (text : List Char) : Option (Document × List Char) := do
  let (whole, text) ← readWhole text
  let (fraction, text) ← readFraction text
  let (exponent, text) ← readExponent text
  if fraction.isNone && exponent.isNone then
    let magnitude : Int := Text.ofDigits 10 whole
    let d ← integer? (if negative then -magnitude else magnitude)
    return (d, text)
  else
    let after := fraction.getD []
    let magnitude := decimal (whole ++ after) (exponent.getD 0 - after.length)
    if magnitude.isInf && !negative then none
    else return (floatDocument negative magnitude, text)

/-- A number in base ten, or infinity or an undefined number, after its sign. -/
def readMagnitude (negative : Bool) : List Char → Option (Document × List Char)
  | 'i' :: 'n' :: 'f' :: rest => some (floatDocument negative (1.0 / 0.0), rest)
  | 'n' :: 'a' :: 'n' :: rest => some (floatDocument negative (0.0 / 0.0), rest)
  | text => readUnsigned negative text

/-- A number of any form. -/
def readNumber : List Char → Option (Document × List Char)
  | '0' :: 'x' :: rest => readInBase 16 rest
  | '0' :: 'o' :: rest => readInBase 8 rest
  | '0' :: 'b' :: rest => readInBase 2 rest
  | '+' :: rest => readMagnitude false rest
  | '-' :: rest => readMagnitude true rest
  | text => readMagnitude false text

end ServiceRouting.Toml
