import ServiceRouting.Json.Value

/-!
# Documents and how records are read from them

A document is what a reader of records sees of a text or of a value: a tree whose parts may turn
out to be faulty only when they are looked at. It keeps the order and the repetitions of what was
written, so that the first fault in reading order can be told.

A record is read from a mapping by the names of its fields or from a sequence by their positions
(`Document.record`). Names that the record does not have are skipped; a part that is skipped has to
be grammatical but need not be readable.
-/

namespace ServiceRouting

open Json (Value Number)

/-- What is known about the end of a sequence or a mapping. -/
inductive Ending where
  /-- It ends where its last item does. -/
  | closed
  /-- It ends there, and a reader that leaves items over is not stopped. Of an empty mapping it says
  that it may stand for the unit value. -/
  | lax
  /-- After the items something follows that can be skipped but not read. -/
  | unreadable
  /-- After the items the text is not grammatical. -/
  | broken
deriving DecidableEq

/-- A tree to read records from. -/
inductive Document where
  | null
  | bool (value : Bool)
  | number (value : Number)
  | string (value : String)
  | sequence (items : List Document) (ending : Ending)
  | mapping (entries : List (String × Document)) (ending : Ending)
  /-- A part that can be skipped but has no value. -/
  | unreadable
  /-- A part that is not grammatical. -/
  | broken

/-- Why a document cannot be read. -/
inductive Fault where
  /-- The text is faulty. -/
  | malformed
  /-- The text has another shape than what is read from it. -/
  | mismatch
deriving DecidableEq

/-- The outcome of reading. -/
abbrev Reading := Except Fault

/-- Requires that nothing follows the items. -/
def Ending.check : Ending → Reading Unit
  | .closed | .lax => .ok ()
  | .unreadable | .broken => .error .malformed

namespace Document

/-- The fault of a document that is not of the shape looked for. -/
def refuse {α : Type} : Document → Reading α
  | .unreadable | .broken => .error .malformed
  | _ => .error .mismatch

mutual
/-- Whether the document can be skipped. -/
def grammatical : Document → Bool
  | .broken => false
  | .sequence items ending => allGrammatical items && ending != .broken
  | .mapping entries ending => entriesGrammatical entries && ending != .broken
  | _ => true

/-- Whether every item can be skipped. -/
def allGrammatical : List Document → Bool
  | [] => true
  | item :: rest => grammatical item && allGrammatical rest

/-- Whether every entry can be skipped. -/
def entriesGrammatical : List (String × Document) → Bool
  | [] => true
  | (_, item) :: rest => grammatical item && entriesGrammatical rest
end

mutual
/-- The document of a value. -/
def ofValue : Value → Document
  | .null => .null
  | .bool value => .bool value
  | .number value => .number value
  | .string value => .string value
  | .array items => .sequence (ofValues items) .closed
  | .object members => .mapping (ofMembers members) .closed

/-- The documents of a list of values. -/
def ofValues : List Value → List Document
  | [] => []
  | item :: rest => ofValue item :: ofValues rest

/-- The entries of members. -/
def ofMembers : List (String × Value) → List (String × Document)
  | [] => []
  | (key, value) :: rest => (key, ofValue value) :: ofMembers rest
end

mutual
/-- The value of the whole document. -/
def value : Document → Reading Value
  | .null => .ok .null
  | .bool value => .ok (.bool value)
  | .number value => .ok (.number value)
  | .string value => .ok (.string value)
  | .sequence items ending => do
    let items ← values items
    ending.check
    return .array items
  | .mapping entries ending => do
    let members ← members entries
    ending.check
    return Value.ofMembers members
  | .unreadable | .broken => .error .malformed

/-- The values of a list of documents. -/
def values : List Document → Reading (List Value)
  | [] => .ok []
  | item :: rest => do
    let item ← value item
    let rest ← values rest
    return item :: rest

/-- The members of a list of entries. -/
def members : List (String × Document) → Reading (List (String × Value))
  | [] => .ok []
  | (key, item) :: rest => do
    let item ← value item
    let rest ← members rest
    return (key, item) :: rest
end

mutual
/-- The document after all of it has been looked at once: what is left has no faulty part, and its
mappings are lax. -/
def buffered : Document → Reading Document
  | .sequence items ending => do
    let items ← allBuffered items
    ending.check
    return .sequence items .closed
  | .mapping entries ending => do
    let entries ← entriesBuffered entries
    ending.check
    return .mapping entries .lax
  | .unreadable | .broken => .error .malformed
  | d => .ok d

/-- A list of documents looked at once. -/
def allBuffered : List Document → Reading (List Document)
  | [] => .ok []
  | item :: rest => do
    let item ← buffered item
    let rest ← allBuffered rest
    return item :: rest

/-- A list of entries looked at once. -/
def entriesBuffered : List (String × Document) → Reading (List (String × Document))
  | [] => .ok []
  | (key, item) :: rest => do
    let item ← buffered item
    let rest ← entriesBuffered rest
    return (key, item) :: rest
end

/-- Reads a text. -/
def text : Document → Reading String
  | .string value => .ok value
  | d => d.refuse

/-- Reads a truth value. -/
def flag : Document → Reading Bool
  | .bool value => .ok value
  | d => d.refuse

/-- Reads an integer that is not negative and smaller than the limit. -/
def natBelow (limit : Nat) : Document → Reading Nat
  | .number (.integer value) =>
    if 0 ≤ value ∧ value < limit then .ok value.toNat else .error .mismatch
  | d => d.refuse

/-- Reads an unsigned integer of 64 bits. -/
def count : Document → Reading Nat := natBelow 18446744073709551616

/-- Reads a number as a binary64 number. -/
def float : Document → Reading Float
  | .number value => .ok value.toFloat
  | d => d.refuse

/-- Reads a sequence item by item. -/
def list {α : Type} (read : Document → Reading α) : Document → Reading (List α)
  | .sequence items ending => do
    let items ← items.mapM read
    ending.check
    return items
  | d => d.refuse

/-- Reads a mapping entry by entry: of two with one key the later stays. -/
def table {α : Type} (read : Document → Reading α) : Document → Reading (Table α)
  | .mapping entries ending => do
    let entries ← entries.mapM fun e => do
      let value ← read e.2
      return (e.1, value)
    ending.check
    return Table.ofList entries
  | d => d.refuse

/-- Reads `null` as none. -/
def optional {α : Type} (read : Document → Reading α) : Document → Reading (Option α)
  | .null => .ok none
  | d => some <$> read d

/-- Reads the name of a value without content: a text, or a mapping from the name to nothing. -/
def name : Document → Reading String
  | .string value => .ok value
  | .mapping [(key, .null)] .closed => .ok key
  | .mapping [(key, .null)] .lax => .ok key
  | .mapping [(key, .mapping [] .lax)] .lax => .ok key
  | d => d.refuse

/-- The fields of a record, as found in a document. -/
structure Record where
  /-- The documents of the fields that are there. -/
  fields : List (String × Document)
  /-- Whether the fields were found by position. -/
  positional : Bool

/-- A field of a record: its name, and the test that its document can be read. -/
structure Field where
  name : String
  check : Document → Reading Unit

/-- The field with this name whose document is read by `read`. -/
def Field.of {α : Type} (name : String) (read : Document → Reading α) : Field :=
  ⟨name, fun d => discard (read d)⟩

/-- Looks at entries in order: a field must be readable and must not occur twice. -/
def checkEntries (fields : List Field) : List String → List (String × Document) → Reading Unit
  | _, [] => .ok ()
  | seen, (key, d) :: rest =>
    match fields.find? (·.name = key) with
    | none => if d.grammatical then checkEntries fields seen rest else .error .malformed
    | some field =>
      if key ∈ seen then .error .mismatch
      else do
        field.check d
        checkEntries fields (key :: seen) rest

/-- Looks at items in order, each as the field of its position. -/
def checkItems : List Field → List Document → Reading Unit
  | field :: fields, item :: items => do
    field.check item
    checkItems fields items
  | _, _ => .ok ()

/-- Looks at what follows the items of a record with so many fields. -/
def checkEnd (fields items : Nat) (ending : Ending) : Reading Unit :=
  if items < fields then
    if ending = .broken then .error .malformed else .ok ()
  else if fields < items then
    if ending = .lax then .ok () else .error .malformed
  else ending.check

/-- Finds the fields of a record. -/
def record (fields : List Field) : Document → Reading Record
  | .mapping entries ending => do
    checkEntries fields [] entries
    ending.check
    return ⟨entries, false⟩
  | .sequence items ending => do
    checkItems fields items
    checkEnd fields.length items.length ending
    return ⟨(fields.map (·.name)).zip items, true⟩
  | d => d.refuse

/-- A field that has to be there. -/
def Record.required {α : Type} (r : Record) (name : String) (read : Document → Reading α) :
    Reading α :=
  match Table.find? name r.fields with
  | some d => read d
  | none => .error .mismatch

/-- A field that has a value when it is not there. -/
def Record.withDefault {α : Type} (r : Record) (name : String) (default : α)
    (read : Document → Reading α) : Reading α :=
  match Table.find? name r.fields with
  | some d => read d
  | none => .ok default

/-- A field that may be `null`, and that may be left out where fields have names. -/
def Record.optional {α : Type} (r : Record) (name : String) (read : Document → Reading α) :
    Reading (Option α) :=
  match Table.find? name r.fields with
  | some d => d.optional read
  | none => if r.positional then .error .mismatch else .ok none

end Document

end ServiceRouting
