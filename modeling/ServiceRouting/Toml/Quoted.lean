import ServiceRouting.Text.Digits
import ServiceRouting.Toml.Character

/-!
# Quoted texts in TOML

Four forms: between double quotes with escapes or between single quotes without, each on one line
or, between three quotes, on several. A line end right after three quotes is dropped, and one or
two more quotes may stand before the closing three. In the form with escapes a backslash at the end
of a line drops all blanks and line ends that follow.
-/

namespace ServiceRouting.Toml

/-- The character that a short escape stands for. -/
def shortEscape? : Char → Option Char
  | '"' => some '"'
  | '\\' => some '\\'
  | 'b' => some '\x08'
  | 'f' => some '\x0c'
  | 'n' => some '\n'
  | 'r' => some '\r'
  | 't' => some '\t'
  | _ => none

/-- The character whose number is written by hexadecimal digits. -/
def numberedChar? (digits : List Char) : Option Char := do
  let n ← Text.hexNumber? digits
  if n.isValidChar then some (Char.ofNat n) else none

/-- The text of characters in reverse. -/
def reversedText (done : List Char) : String := String.ofList done.reverse

/-- The rest of a text with escapes on one line. -/
def readBasic (done : List Char) : List Char → Option (String × List Char)
  | [] => none
  | '"' :: rest => some (reversedText done, rest)
  | '\\' :: 'u' :: a :: b :: c :: d :: rest =>
    match numberedChar? [a, b, c, d] with
    | some char => readBasic (char :: done) rest
    | none => none
  | '\\' :: 'U' :: a :: b :: c :: d :: e :: f :: g :: h :: rest =>
    match numberedChar? [a, b, c, d, e, f, g, h] with
    | some char => readBasic (char :: done) rest
    | none => none
  | '\\' :: e :: rest =>
    match shortEscape? e with
    | some char => readBasic (char :: done) rest
    | none => none
  | c :: rest => if isTextChar c then readBasic (c :: done) rest else none

/-- The rest of a text without escapes on one line. -/
def readLiteral (done : List Char) : List Char → Option (String × List Char)
  | [] => none
  | '\'' :: rest => some (reversedText done, rest)
  | c :: rest => if isTextChar c then readLiteral (c :: done) rest else none

/-- Whether nothing but blanks is left of a line that ends in a line end. -/
def isLineEnd (text : List Char) : Bool := (afterNewline? (skipBlanks text)).isSome

/-- Adds a character, unless blanks and line ends are being dropped. -/
def keepUnless (skipping : Bool) (c : Char) (done : List Char) : List Char :=
  if skipping then done else c :: done

/-- The rest of a text with escapes on several lines. -/
def readBasicLines (skipping : Bool) (done : List Char) : List Char → Option (String × List Char)
  | [] => none
  | '"' :: '"' :: '"' :: '"' :: '"' :: rest => some (reversedText ('"' :: '"' :: done), rest)
  | '"' :: '"' :: '"' :: '"' :: rest => some (reversedText ('"' :: done), rest)
  | '"' :: '"' :: '"' :: rest => some (reversedText done, rest)
  | '\r' :: '\n' :: rest => readBasicLines skipping (keepUnless skipping '\n' done) rest
  | '\n' :: rest => readBasicLines skipping (keepUnless skipping '\n' done) rest
  | '\\' :: 'u' :: a :: b :: c :: d :: rest =>
    match numberedChar? [a, b, c, d] with
    | some char => readBasicLines false (char :: done) rest
    | none => none
  | '\\' :: 'U' :: a :: b :: c :: d :: e :: f :: g :: h :: rest =>
    match numberedChar? [a, b, c, d, e, f, g, h] with
    | some char => readBasicLines false (char :: done) rest
    | none => none
  | '\\' :: e :: rest =>
    if isLineEnd (e :: rest) then readBasicLines true done rest
    else
      match shortEscape? e with
      | some char => readBasicLines false (char :: done) rest
      | none => none
  | c :: rest =>
    if isBlank c then readBasicLines skipping (keepUnless skipping c done) rest
    else if isTextChar c then readBasicLines false (c :: done) rest
    else none

/-- The rest of a text without escapes on several lines. -/
def readLiteralLines (done : List Char) : List Char → Option (String × List Char)
  | [] => none
  | '\'' :: '\'' :: '\'' :: '\'' :: '\'' :: rest =>
    some (reversedText ('\'' :: '\'' :: done), rest)
  | '\'' :: '\'' :: '\'' :: '\'' :: rest => some (reversedText ('\'' :: done), rest)
  | '\'' :: '\'' :: '\'' :: rest => some (reversedText done, rest)
  | '\r' :: '\n' :: rest => readLiteralLines ('\n' :: done) rest
  | '\n' :: rest => readLiteralLines ('\n' :: done) rest
  | c :: rest => if isTextChar c then readLiteralLines (c :: done) rest else none

/-- Drops the line end at the front of a text, if there is one. -/
def skipNewline (text : List Char) : List Char := (afterNewline? text).getD text

/-- A quoted text of any form. -/
def readQuoted : List Char → Option (String × List Char)
  | '"' :: '"' :: '"' :: rest => readBasicLines false [] (skipNewline rest)
  | '"' :: rest => readBasic [] rest
  | '\'' :: '\'' :: '\'' :: rest => readLiteralLines [] (skipNewline rest)
  | '\'' :: rest => readLiteral [] rest
  | _ => none

end ServiceRouting.Toml
