import ServiceRouting.Toml.Date
import ServiceRouting.Toml.Number
import ServiceRouting.Toml.Quoted
import ServiceRouting.Toml.Tree

/-!
# Keys and values in TOML

A key is made of parts with points between them. A value is a quoted text, a truth value, a date or
time, a number, an array, or a table in braces. Arrays and tables in braces may not lie too deep in
each other, and keys may not have too many parts.
-/

namespace ServiceRouting.Toml

/-- Arrays and tables in braces lie less than this deep; keys have fewer parts than this. -/
def nestingLimit : Nat := 80

/-- One part of a key, with the blanks around it. -/
def readKeyPart (text : List Char) : Option (String × List Char) :=
  let text := skipBlanks text
  let found : Option (String × List Char) :=
    match text with
    | '"' :: rest => readBasic [] rest
    | '\'' :: rest => readLiteral [] rest
    | _ =>
      let part := text.takeWhile isBareKeyChar
      if part.isEmpty then none else some (String.ofList part, text.drop part.length)
  found.map fun r => (r.1, skipBlanks r.2)

/-- The parts of a key, of which there are at most `fuel`. -/
def readKeyParts : Nat → List Char → Option (List String × List Char)
  | 0, _ => none
  | fuel + 1, text => do
    let (part, rest) ← readKeyPart text
    match rest with
    | '.' :: rest =>
      let (parts, rest) ← readKeyParts fuel rest
      return (part :: parts, rest)
    | _ => return ([part], rest)

/-- A key: the parts before the last one, and the last one. -/
def readKey (text : List Char) : Option ((List String × String) × List Char) := do
  let (parts, rest) ← readKeyParts (nestingLimit - 1) text
  let last ← parts.getLast?
  return ((parts.dropLast, last), rest)

/-- What follows a key up to its value. -/
def afterEquals? : List Char → Option (List Char)
  | '=' :: rest => some (skipBlanks rest)
  | _ => none

/-- A date or time as a document: a record of it has none of the fields of any other record. -/
def dateDocument (written : List Char) : Document :=
  .mapping [("date-time", .string (String.ofList written))] .closed

/-- A date, a time or a number. -/
def readMomentOrNumber (text : List Char) : Option (Document × List Char) :=
  match afterMoment? text with
  | some rest => some (dateDocument (text.take (text.length - rest.length)), rest)
  | none => readNumber text

mutual
/-- A value, in which arrays and tables lie at most `depth` deep. -/
def readValue (fuel depth : Nat) (text : List Char) : Option (Document × List Char) :=
  match fuel with
  | 0 => none
  | fuel + 1 =>
    match text with
    | '"' :: _ => (readQuoted text).map fun r => (.string r.1, r.2)
    | '\'' :: _ => (readQuoted text).map fun r => (.string r.1, r.2)
    | 't' :: 'r' :: 'u' :: 'e' :: rest => some (.bool true, rest)
    | 'f' :: 'a' :: 'l' :: 's' :: 'e' :: rest => some (.bool false, rest)
    | '[' :: rest =>
      if depth = 0 then none
      else (readItems fuel (depth - 1) rest).map fun r => (.sequence r.1 .lax, r.2)
    | '\x7b' :: rest =>
      if depth = 0 then none
      else
        match skipBlanks rest with
        | '\x7d' :: rest => some (.mapping [] .closed, rest)
        | rest =>
          (readEntries fuel (depth - 1) [] rest).map fun r =>
            (.mapping (entriesDocuments r.1) .closed, r.2)
    | _ => readMomentOrNumber text

/-- The rest of an array. -/
def readItems (fuel depth : Nat) (text : List Char) : Option (List Document × List Char) :=
  match fuel with
  | 0 => none
  | fuel + 1 =>
    match skipLines false text with
    | none => none
    | some (']' :: rest) => some ([], rest)
    | some text =>
      match readValue fuel depth text with
      | none => none
      | some (item, rest) =>
        match skipLines false rest with
        | some (']' :: rest) => some ([item], rest)
        | some (',' :: rest) => (readItems fuel depth rest).map fun r => (item :: r.1, r.2)
        | _ => none

/-- The rest of a table in braces that holds at least one more entry. -/
def readEntries (fuel depth : Nat) (entries : Entries) (text : List Char) :
    Option (Entries × List Char) :=
  match fuel with
  | 0 => none
  | fuel + 1 =>
    match readKey text with
    | none => none
    | some ((path, key), rest) =>
      match (afterEquals? rest).bind (readValue fuel depth) with
      | none => none
      | some (value, rest) =>
        match entries.insertAt path key value with
        | none => none
        | some entries =>
          match skipBlanks rest with
          | '\x7d' :: rest => some (entries, rest)
          | ',' :: rest => readEntries fuel depth entries rest
          | _ => none
end

/-- A key and its value. -/
def readKeyValue (text : List Char) :
    Option (((List String × String) × Document) × List Char) := do
  let (key, rest) ← readKey text
  let rest ← afterEquals? rest
  let (value, rest) ← readValue (text.length + 1) (nestingLimit - 1) rest
  return ((key, value), rest)

end ServiceRouting.Toml
