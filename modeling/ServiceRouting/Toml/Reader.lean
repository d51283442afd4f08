import ServiceRouting.Toml.Value

/-!
# Reading TOML texts

A text is read line by line: blank lines and comments, keys with their values, and headers, which
say whose entries follow. The outcome is one document, or none if the text is faulty anywhere.
-/

namespace ServiceRouting.Toml

/-- The table whose entries are being read. -/
inductive Section where
  /-- The table of the whole text, before any header. -/
  | whole
  | table (path : List String) (key : String)
  /-- The newest table of an array. -/
  | item (path : List String) (key : String)

/-- What has been read so far. -/
structure Progress where
  /-- The entries of the whole text without the current section. -/
  root : Entries
  current : Entries
  currentSection : Section

namespace Progress

/-- Nothing read. -/
def start : Progress := ⟨[], [], .whole⟩

/-- The entries of the whole text with the current section in its place. -/
def finish (p : Progress) : Option Entries :=
  match p.currentSection with
  | .whole => some p.current
  | .table path key => p.root.finish path key p.current
  | .item path key => p.root.finishItem path key p.current

/-- Begins the section of a header. -/
def begin (p : Progress) (next : Section) : Option Progress := do
  let root ← p.finish
  let current ←
    match next with
    | .whole => none
    | .table path key => root.begin path key
    | .item path key => root.beginItem path key
  return ⟨root, current, next⟩

/-- Adds a value to the current section. -/
def add (p : Progress) (path : List String) (key : String) (value : Document) :
    Option Progress := do
  let current ← p.current.insertAt path key value
  return { p with current }

end Progress

/-- The section that a header begins, after its opening bracket. -/
def readHeader : List Char → Option (Section × List Char)
  | '[' :: rest => do
    let ((path, key), rest) ← readKey rest
    match rest with
    | ']' :: ']' :: rest => return (.item path key, rest)
    | _ => none
  | rest => do
    let ((path, key), rest) ← readKey rest
    match rest with
    | ']' :: rest => return (.table path key, rest)
    | _ => none

/-- Reads one line that is not blank. -/
def readLine (p : Progress) (text : List Char) : Option (Progress × List Char) := do
  match text with
  | '[' :: rest =>
    let (next, rest) ← readHeader rest
    let p ← p.begin next
    let rest ← endLine? rest
    return (p, rest)
  | _ =>
    let (((path, key), value), rest) ← readKeyValue text
    let p ← p.add path key value
    let rest ← endLine? rest
    return (p, rest)

/-- Reads all lines. Each takes at least one character. -/
def readLines (p : Progress) (text : List Char) : Nat → Option Progress
  | 0 => none
  | fuel + 1 =>
    match skipBlanks text with
    | [] => some p
    | '#' :: rest => (endLine? ('#' :: rest)).bind fun rest => readLines p rest fuel
    | '\n' :: rest => readLines p rest fuel
    | '\r' :: rest => (afterNewline? ('\r' :: rest)).bind fun rest => readLines p rest fuel
    | text => (readLine p text).bind fun r => readLines r.1 r.2 fuel

/-- The text without a byte order mark at its front. -/
def withoutMark : List Char → List Char
  | '\ufeff' :: rest => rest
  | text => text

/-- The document of a text. -/
def document? (source : String) : Option Document := do
  let text := withoutMark source.toList
  let p ← readLines .start text (text.length + 1)
  let entries ← p.finish
  return .mapping (entriesDocuments entries) .closed

/-- Reads a text. -/
def readText {α : Type} (read : Document → Reading α) (source : String) : Reading α :=
  match document? source with
  | some d => read d
  | none => .error .malformed

end ServiceRouting.Toml
