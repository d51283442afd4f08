import ServiceRouting.Document

/-!
# Trees of TOML tables

A TOML text gives its tables piece by piece: keys with points name tables within tables, and
headers come back to tables that earlier headers have only passed through. `insertAt` puts a value
in its place, and `begin` and `finish` do the same for the table of a header. A table may be named
as a whole once. A table that was only passed through may still be named by a header, and one that
was made by keys with points may still be extended by such keys, but neither the other way round.
-/

namespace ServiceRouting.Toml

/-- How a table came to be. -/
structure Origin where
  /-- Only passed through so far. -/
  isImplicit : Bool
  /-- Made by a key with points. -/
  isDotted : Bool

/-- A table named by a header. -/
def Origin.named : Origin := ⟨false, false⟩

/-- A value, a table, or an array of tables, in a text that is still being read. -/
inductive Tree where
  /-- A value, which can no longer be extended. -/
  | leaf (value : Document)
  | table (origin : Origin) (entries : List (String × Tree))
  /-- The tables of one array, in order. -/
  | tables (items : List (List (String × Tree)))

/-- The entries of a table. -/
abbrev Entries := List (String × Tree)

mutual
/-- The document of a tree. -/
def Tree.document : Tree → Document
  | .leaf value => value
  | .table _ entries => .mapping (entriesDocuments entries) .closed
  | .tables items => .sequence (itemsDocuments items) .lax

/-- The documents of the entries of a table. -/
def entriesDocuments : List (String × Tree) → List (String × Document)
  | [] => []
  | (key, tree) :: rest => (key, tree.document) :: entriesDocuments rest

/-- The documents of tables. -/
def itemsDocuments : List (List (String × Tree)) → List Document
  | [] => []
  | entries :: rest => .mapping (entriesDocuments entries) .closed :: itemsDocuments rest
end

namespace Entries

/-- Sets the tree under a key, in its old place if it has one. -/
def set (key : String) (tree : Tree) : Entries → Entries
  | [] => [(key, tree)]
  | (k, t) :: rest => if k = key then (key, tree) :: rest else (k, t) :: set key tree rest

/-- Applies an action to the table that a path leads to. Tables on the way that are not there are
made. -/
def descend {α : Type} (isDotted : Bool) (act : Origin → Entries → Option (α × Entries)) :
    List String → Origin → Entries → Option (α × Entries)
  | [], origin, entries => act origin entries
  | key :: path, _, entries =>
    match Table.find? key entries with
    | none =>
      let origin : Origin := ⟨true, isDotted⟩
      (descend isDotted act path origin []).map fun r =>
        (r.1, entries.set key (.table origin r.2))
    | some (.leaf _) => none
    | some (.table origin inner) =>
      if isDotted && !origin.isImplicit then none
      else
        (descend isDotted act path origin inner).map fun r =>
          (r.1, entries.set key (.table origin r.2))
    | some (.tables items) =>
      match items.getLast? with
      | none => none
      | some last =>
        (descend isDotted act path .named last).map fun r =>
          (r.1, entries.set key (.tables (items.dropLast ++ [r.2])))

/-- Adds a value under a key that is not there yet, in a table reached by this path. -/
def addValue (path : List String) (key : String) (value : Document) (origin : Origin)
    (entries : Entries) : Option (Unit × Entries) :=
  if origin.isDotted = path.isEmpty then none
  else if (Table.find? key entries).isSome then none
  else some ((), entries ++ [(key, .leaf value)])

/-- Puts a value in the place that a path and a key name. -/
def insertAt (entries : Entries) (path : List String) (key : String) (value : Document) :
    Option Entries :=
  (descend true (addValue path key value) path .named entries).map (·.2)

/-- The entries that a table has when its header is read. -/
def begin (root : Entries) (path : List String) (key : String) : Option Entries :=
  (descend false (fun _ entries =>
    match Table.find? key entries with
    | none => some ([], entries)
    | some (.table origin inner) =>
      if origin.isImplicit && !origin.isDotted then some (inner, entries) else none
    | some _ => none) path .named root).map (·.1)

/-- Whether a header of an array of tables may stand here. -/
def beginItem (root : Entries) (path : List String) (key : String) : Option Entries :=
  (descend false (fun _ entries =>
    match Table.find? key entries with
    | none => some ([], entries)
    | some (.tables _) => some ([], entries)
    | some _ => none) path .named root).map (·.1)

/-- Puts the table of a header in its place. -/
def finish (root : Entries) (path : List String) (key : String) (table : Entries) :
    Option Entries :=
  (descend false (fun _ entries => some ((), entries.set key (.table .named table))) path .named
    root).map (·.2)

/-- Adds the table of a header to its array. -/
def finishItem (root : Entries) (path : List String) (key : String) (table : Entries) :
    Option Entries :=
  (descend false (fun _ entries =>
    match Table.find? key entries with
    | none => some ((), entries.set key (.tables [table]))
    | some (.tables items) => some ((), entries.set key (.tables (items ++ [table])))
    | some _ => none) path .named root).map (·.2)

end Entries

end ServiceRouting.Toml
