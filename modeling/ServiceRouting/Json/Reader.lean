import ServiceRouting.Document
import ServiceRouting.Json.Number
import ServiceRouting.Text.Digits

/-!
# Reading JSON texts

A text is read into a `Document` in one pass. Where the grammar fails the document ends as broken.
What is grammatical but has no value becomes unreadable: a number that is too large, a text with an
unpaired surrogate, and an array or object nested `depthLimit` deep or deeper.
-/

namespace ServiceRouting.Json

/-- The nesting depth at which arrays and objects are no longer read. -/
def depthLimit : Nat := 128

/-- A part of a text that was read, and the text after it where the grammar held. -/
structure Scanned (α : Type) where
  found : α
  rest : Option (List Char)

/-- Drops blanks, tabulators and line ends. -/
def skipBlanks : List Char → List Char
  | ' ' :: rest | '\t' :: rest | '\n' :: rest | '\r' :: rest => skipBlanks rest
  | text => text

/-- The character that a short escape stands for. -/
def shortEscape? : Char → Option Char
  | '"' => some '"'
  | '\\' => some '\\'
  | '/' => some '/'
  | 'b' => some '\x08'
  | 'f' => some '\x0c'
  | 'n' => some '\n'
  | 'r' => some '\r'
  | 't' => some '\t'
  | _ => none

/-- A unit of 16 bits that begins a pair. -/
def isLeading (unit : Nat) : Bool := 0xD800 ≤ unit && unit < 0xDC00

/-- A unit of 16 bits that ends a pair. -/
def isTrailing (unit : Nat) : Bool := 0xDC00 ≤ unit && unit < 0xE000

/-- The character that a pair of units stands for. -/
def pairedChar (leading trailing : Nat) : Char :=
  Char.ofNat (0x10000 + (leading - 0xD800) * 0x400 + (trailing - 0xDC00))

/-- A text after its opening quote, up to its closing one: none of a text if it holds an unpaired
surrogate. The characters before are given in reverse. -/
def scanText : List Char → Option (List Char) → Option (Option String × List Char)
  | [], _ => none
  | '"' :: rest, done => some (done.map fun cs => String.ofList cs.reverse, rest)
  | '\\' :: 'u' :: a :: b :: c :: d :: '\\' :: 'u' :: a' :: b' :: c' :: d' :: rest, done =>
    match Text.hexNumber? [a, b, c, d], Text.hexNumber? [a', b', c', d'] with
    | some unit, some next =>
      if isLeading unit && isTrailing next then
        scanText rest (done.map (pairedChar unit next :: ·))
      else if isLeading unit || isTrailing unit then
        scanText ('\\' :: 'u' :: a' :: b' :: c' :: d' :: rest) none
      else
        scanText ('\\' :: 'u' :: a' :: b' :: c' :: d' :: rest) (done.map (Char.ofNat unit :: ·))
    | _, _ => none
  | '\\' :: 'u' :: a :: b :: c :: d :: rest, done =>
    match Text.hexNumber? [a, b, c, d] with
    | some unit =>
      if isLeading unit || isTrailing unit then scanText rest none
      else scanText rest (done.map (Char.ofNat unit :: ·))
    | none => none
  | '\\' :: e :: rest, done =>
    match shortEscape? e with
    | some c => scanText rest (done.map (c :: ·))
    | none => none
  | c :: rest, done => if c.toNat < 0x20 then none else scanText rest (done.map (c :: ·))
termination_by text => text.length

/-- The digits at the front of a text, and what follows them. -/
def takeDigits (text : List Char) : List Nat × List Char :=
  ((text.takeWhile Char.isDigit).map fun c => c.toNat - '0'.toNat, text.dropWhile Char.isDigit)

/-- The digits after the point of a number: none if there is no point. -/
def scanFraction : List Char → Option (List Nat × List Char)
  | '.' :: rest => if (takeDigits rest).1.isEmpty then none else some (takeDigits rest)
  | text => some ([], text)

/-- Whether a minus stands at the front of a text, and what follows the sign. -/
def takeSign : List Char → Bool × List Char
  | '+' :: rest => (false, rest)
  | '-' :: rest => (true, rest)
  | text => (false, text)

/-- The exponent of a number after its letter. -/
def scanPower (text : List Char) : Option (Option (Bool × List Nat) × List Char) :=
  let (negative, text) := takeSign text
  let (digits, rest) := takeDigits text
  if digits.isEmpty then none else some (some (negative, digits), rest)

/-- The exponent of a number, if it has one. -/
def scanExponent : List Char → Option (Option (Bool × List Nat) × List Char)
  | 'e' :: rest => scanPower rest
  | 'E' :: rest => scanPower rest
  | text => some (none, text)

/-- The fraction and the exponent of a number. -/
def scanTail (negative : Bool) (whole : List Nat) (text : List Char) :
    Option (Number.Parts × List Char) := do
  let (fraction, text) ← scanFraction text
  let (exponent, text) ← scanExponent text
  return ({ negative, whole, fraction, exponent }, text)

/-- The parts of a number at the front of a text. -/
def scanParts (text : List Char) : Option (Number.Parts × List Char) :=
  let (negative, text) : Bool × List Char :=
    match text with
    | '-' :: rest => (true, rest)
    | _ => (false, text)
  match text with
  | '0' :: c :: rest => if c.isDigit then none else scanTail negative [0] (c :: rest)
  | _ =>
    let (digits, rest) := takeDigits text
    if digits.isEmpty then none else scanTail negative digits rest

/-- A number at the front of a text. -/
def scanNumber (text : List Char) : Scanned Document :=
  match scanParts text with
  | none => ⟨.broken, none⟩
  | some (parts, rest) =>
    match Number.ofParts parts with
    | some number => ⟨.number number, some rest⟩
    | none => ⟨.unreadable, some rest⟩

/-- A word at the front of a text. -/
def scanWord (word : String) (document : Document) (text : List Char) : Scanned Document :=
  if word.toList.isPrefixOf text then ⟨document, some (text.drop word.length)⟩
  else ⟨.broken, none⟩

/-- The document of something whose content was scanned: unreadable if it lies too deep. -/
def atDepth (depth : Nat) (content : Scanned Document) : Scanned Document :=
  if depth = 0 then ⟨if content.rest.isSome then .unreadable else .broken, content.rest⟩
  else content

mutual
/-- A value at the front of a text. `depth` is the number of levels that may still be read, and
every call uses up some fuel. -/
def scanValue (fuel depth : Nat) (text : List Char) : Scanned Document :=
  match fuel with
  | 0 => ⟨.broken, none⟩
  | fuel + 1 =>
    match skipBlanks text with
    | 'n' :: rest => scanWord "ull" .null rest
    | 't' :: rest => scanWord "rue" (.bool true) rest
    | 'f' :: rest => scanWord "alse" (.bool false) rest
    | '"' :: rest =>
      match scanText rest (some []) with
      | none => ⟨.broken, none⟩
      | some (some text, rest) => ⟨.string text, some rest⟩
      | some (none, rest) => ⟨.unreadable, some rest⟩
    | '[' :: rest =>
      atDepth (depth - 1) <|
        match skipBlanks rest with
        | ']' :: rest => ⟨.sequence [] .closed, some rest⟩
        | rest =>
          let items := scanItems fuel (depth - 1) rest
          ⟨.sequence items.found (if items.rest.isSome then .closed else .broken), items.rest⟩
    | '\x7b' :: rest =>
      atDepth (depth - 1) <|
        match skipBlanks rest with
        | '\x7d' :: rest => ⟨.mapping [] .closed, some rest⟩
        | rest =>
          let entries := scanEntries fuel (depth - 1) rest
          ⟨.mapping entries.found.1 entries.found.2, entries.rest⟩
    | '-' :: rest => scanNumber ('-' :: rest)
    | c :: rest => if c.isDigit then scanNumber (c :: rest) else ⟨.broken, none⟩
    | [] => ⟨.broken, none⟩

/-- The items of an array up to its end. -/
def scanItems (fuel depth : Nat) (text : List Char) : Scanned (List Document) :=
  match fuel with
  | 0 => ⟨[], none⟩
  | fuel + 1 =>
    let item := scanValue fuel depth text
    match item.rest with
    | none => ⟨[item.found], none⟩
    | some rest =>
      match skipBlanks rest with
      | ',' :: rest =>
        let items := scanItems fuel depth rest
        ⟨item.found :: items.found, items.rest⟩
      | ']' :: rest => ⟨[item.found], some rest⟩
      | _ => ⟨[item.found], none⟩

/-- The members of an object up to its end. -/
def scanEntries (fuel depth : Nat) (text : List Char) :
    Scanned (List (String × Document) × Ending) :=
  match fuel with
  | 0 => ⟨([], .broken), none⟩
  | fuel + 1 =>
    match skipBlanks text with
    | '"' :: rest =>
      match scanText rest (some []) with
      | none => ⟨([], .broken), none⟩
      | some (key, rest) =>
        let keyed (d : Document) : List (String × Document) :=
          match key with
          | some key => [(key, d)]
          | none => []
        /- A key that cannot be read hides all that follows it. -/
        let joined (d : Document) (entries : Scanned (List (String × Document) × Ending)) :
            Scanned (List (String × Document) × Ending) :=
          match key with
          | some key => ⟨((key, d) :: entries.found.1, entries.found.2), entries.rest⟩
          | none => ⟨([], if entries.rest.isSome then .unreadable else .broken), entries.rest⟩
        match skipBlanks rest with
        | ':' :: rest =>
          let item := scanValue fuel depth rest
          match item.rest with
          | none => ⟨(keyed item.found, .broken), none⟩
          | some rest =>
            match skipBlanks rest with
            | ',' :: rest => joined item.found (scanEntries fuel depth rest)
            | '\x7d' :: rest => joined item.found ⟨([], .closed), some rest⟩
            | _ => ⟨(keyed item.found, .broken), none⟩
        | _ => ⟨(keyed .broken, .broken), none⟩
    | _ => ⟨([], .broken), none⟩
end

/-- The value at the front of a text. -/
def scan (text : List Char) : Scanned Document := scanValue (text.length + 1) depthLimit text

/-- Reads the value at the front of a text, whatever follows it. -/
def readFront {α : Type} (read : Document → Reading α) (text : String) : Reading α :=
  read (scan text.toList).found

/-- Reads a text that holds one value and nothing else. -/
def readText {α : Type} (read : Document → Reading α) (text : String) : Reading α := do
  let scanned := scan text.toList
  let result ← read scanned.found
  if scanned.rest.any fun rest => (skipBlanks rest).isEmpty then return result
  else .error .malformed

end ServiceRouting.Json
