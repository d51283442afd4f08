import ServiceRouting.Text.Digits
import ServiceRouting.Toml.Character

/-!
# Dates and times in TOML

A date, a time of day, or both with a `T` or a blank between them and an offset behind. Days fit
their month, and the sixtieth second is allowed.
-/

namespace ServiceRouting.Toml

/-- A number of exactly so many digits that lies between two bounds. -/
def readField (width low high : Nat) (text : List Char) : Option (Nat × List Char) := do
  let digits := text.take width
  if digits.length < width then none
  let values ← digits.mapM (Text.digit? 10)
  let n := Text.ofDigits 10 values
  if low ≤ n ∧ n ≤ high then some (n, text.drop width) else none

/-- A given character. -/
def readChar (accepted : List Char) : List Char → Option (List Char)
  | c :: rest => if accepted.contains c then some rest else none
  | [] => none

/-- Whether a year has a leap day. -/
def isLeapYear (year : Nat) : Bool := year % 4 = 0 && (year % 100 ≠ 0 || year % 400 = 0)

/-- The number of days of a month. -/
def daysInMonth (year month : Nat) : Nat :=
  match month with
  | 2 => if isLeapYear year then 29 else 28
  | 4 | 6 | 9 | 11 => 30
  | _ => 31

/-- What follows a date. -/
def afterDate? (text : List Char) : Option (List Char) := do
  let (year, text) ← readField 4 0 9999 text
  let text ← readChar ['-'] text
  let (month, text) ← readField 2 1 12 text
  let text ← readChar ['-'] text
  let (_, text) ← readField 2 1 (daysInMonth year month) text
  return text

/-- What follows the fraction of a second, if there is one. -/
def afterFraction? : List Char → Option (List Char)
  | '.' :: c :: rest => if c.isDigit then some (rest.dropWhile Char.isDigit) else none
  | '.' :: [] => none
  | text => some text

/-- What follows a time of day. -/
def afterTime? (text : List Char) : Option (List Char) := do
  let (_, text) ← readField 2 0 23 text
  let text ← readChar [':'] text
  let (_, text) ← readField 2 0 59 text
  let text ← readChar [':'] text
  let (_, text) ← readField 2 0 60 text
  afterFraction? text

/-- What follows an offset, if there is one. -/
def afterOffset? (text : List Char) : Option (List Char) :=
  match text with
  | 'Z' :: rest => some rest
  | 'z' :: rest => some rest
  | '+' :: rest => afterHours? rest
  | '-' :: rest => afterHours? rest
  | _ => some text
where
  /-- What follows the hours and minutes of an offset. -/
  afterHours? (text : List Char) : Option (List Char) := do
    let (_, text) ← readField 2 0 23 text
    let text ← readChar [':'] text
    let (_, text) ← readField 2 0 59 text
    return text

/-- What follows a date, a time, or both. -/
def afterMoment? (text : List Char) : Option (List Char) :=
  match afterDate? text with
  | none => afterTime? text
  | some rest =>
    match (readChar ['T', 't', ' '] rest).bind afterTime? with
    | none => some rest
    | some rest => afterOffset? rest

end ServiceRouting.Toml
