import ServiceRouting.Proofs.Json.Documents

/-!
# Reading what documents tell

A reader reads a value of some shape if it reads every document that tells it (`Document.Reads`).
Lists and tables are read if their values are (`reads_list`, `reads_table`). An object is read as a
record, whatever the order of its entries and whatever else stands beside them, if each of its
members can be read as a field (`exists_record`); then each field is read from its member
(`Record.Finds.required`).
-/

namespace ServiceRouting

open Json (Value)

namespace Document

/-- What tells a value of this shape is read as `a`. -/
def Reads {α : Type} (shape : Shape) (read : Document → Reading α) (v : Value) (a : α) : Prop :=
  ∀ d : Document, d.Tells shape v → read d = .ok a

section Readers

variable {α : Type} {read : Document → Reading α}

/-- A text is read as it is. -/
theorem reads_text (s : String) : Reads .plain text (.string s) s := by
  intro d h
  cases h
  rfl

/-- An ordered value is read as it is. -/
theorem reads_value {v : Value} (h : v.Ordered) : Reads .plain value v v :=
  fun _ htells => value_of_tells htells h

/-- A number below the limit is read as it is. -/
theorem reads_natBelow {limit n : Nat} (h : n < limit) :
    Reads .plain (natBelow limit) (.ofNat n) n := by
  intro d hd
  cases hd
  have hrange : 0 ≤ (n : Int) ∧ (n : Int) < limit := by omega
  rw [natBelow, if_pos hrange, Int.toNat_natCast]

/-- What stands for nothing is read as nothing. -/
theorem reads_optional_null : Reads .plain (optional read) .null none := by
  intro d hd
  cases hd
  rfl

/-- A value that does not stand for nothing is read as itself, if it is read at all. -/
theorem reads_optional {v : Value} {a : α} (h : Reads .plain read v a) (hv : v ≠ .null) :
    Reads .plain (optional read) v (some a) := by
  intro d hd
  have hread := h d hd
  cases hd with
  | null => exact absurd rfl hv
  | bool | number | string | sequence | mapping =>
      rw [optional, hread]
      · rfl
      · exact nofun

/-- A list is read if its items are. -/
theorem reads_list {encode : α → Value} {as : List α}
    (h : ∀ a ∈ as, Reads .plain read (encode a) a) :
    Reads .plain (list read) (.array (as.map encode)) as := by
  intro d hd
  cases hd with
  | @sequence items _ _ hitems hending =>
      have hmap : items.mapM read = .ok as := by
        induction as generalizing items with
        | nil =>
            cases hitems
            rfl
        | cons a as ih =>
            cases hitems with
            | cons hitem hrest =>
                rw [List.mapM_cons, h a List.mem_cons_self _ hitem,
                  ih (fun other hother => h other (List.mem_cons_of_mem _ hother)) hrest]
                rfl
      rw [list, hmap, hending]
      rfl

/-- A list of ordered values is read as it is. -/
theorem reads_values {vs : List Value} (h : ∀ v ∈ vs, v.Ordered) :
    Reads .plain (list value) (.array vs) vs := by
  have hlist : Reads .plain (list value) (.array (vs.map id)) vs :=
    reads_list fun v hv => reads_value (h v hv)
  rwa [List.map_id] at hlist

/-- Entries are read if the values that they tell are. -/
theorem mapM_readEntry {encode : α → Value} {told : List (String × Document)}
    {entries : List (String × α)}
    (h : ∀ entry ∈ entries, Reads .plain read (encode entry.2) entry.2)
    (htold : MembersTell .plain told (entries.map fun entry => (entry.1, encode entry.2))) :
    told.mapM (readEntry read) = .ok entries := by
  induction entries generalizing told with
  | nil =>
      cases htold
      rfl
  | cons entry rest ih =>
      cases htold with
      | cons hinner hitem hrest =>
          cases hinner
          have hentry : read _ = .ok entry.2 := h entry List.mem_cons_self _ hitem
          rw [List.mapM_cons, readEntry, hentry,
            ih (fun other hother => h other (List.mem_cons_of_mem _ hother)) hrest]
          rfl

/-- A table is read if its values are. -/
theorem reads_table {encode : α → Value} {t : Table α}
    (h : ∀ entry ∈ t.entries, Reads .plain read (encode entry.2) entry.2) :
    Reads .plain (table read) (.ofTable encode t) t := by
  intro d hd
  cases hd with
  | mapping htold hothers hunknown hperm hending =>
      rw [hothers.eq_nil_of_plain hunknown, List.append_nil] at hperm
      obtain ⟨found, hread, hfound⟩ := exists_mapM_of_perm hperm (mapM_readEntry h htold)
      have htable : Table.ofList found = t := Table.ofList_of_perm hfound
      show (List.mapM (readEntry read) _ >>= _) = _
      rw [hread]
      simp [hending, bind, Except.bind, pure, Except.pure, htable]

end Readers

section Records

variable {fields : List Field} {shapes : List (String × Shape)} {members : List (String × Value)}

/-- What tells the value can be read as the field. -/
def Field.Accepts (field : Field) (shape : Shape) (v : Value) : Prop :=
  ∀ d : Document, d.Tells shape v → field.check d = .ok ()

/-- A field accepts what its reader reads. -/
theorem Field.accepts_of {α : Type} {read : Document → Reading α} {shape : Shape} {v : Value}
    {a : α} (name : String) (h : Reads shape read v a) :
    (Field.of name read).Accepts shape v := by
  intro d hd
  show discard (read d) = .ok ()
  rw [h d hd]
  rfl

/-- Each of the members can be read as the field of its key, which has the shape of its key. -/
def FieldsAccept (fields : List Field) (shapes : List (String × Shape))
    (members : List (String × Value)) : Prop :=
  ∀ member ∈ members, ∃ field inner, fields.find? (·.name = member.1) = some field ∧
    Table.find? member.1 shapes = some inner ∧ field.Accepts inner member.2

/-- There is nothing to be read of no members. -/
theorem FieldsAccept.nil : FieldsAccept fields shapes [] :=
  fun _ h => absurd h List.not_mem_nil

/-- A member whose value is read by the reader of its field can be read, and so can those after
it. -/
theorem FieldsAccept.cons {α : Type} {read : Document → Reading α} {name : String} {inner : Shape}
    {v : Value} {a : α} (hfind : fields.find? (·.name = name) = some (.of name read))
    (hinner : Table.find? name shapes = some inner) (hread : Reads inner read v a)
    (hrest : FieldsAccept fields shapes members) :
    FieldsAccept fields shapes ((name, v) :: members) :=
  List.forall_mem_cons.2 ⟨⟨_, _, hfind, hinner, Field.accepts_of name hread⟩, hrest⟩

/-- A name without a shape has no field, if fields and shapes have the same names. -/
theorem find?_field_eq_none {name : String} (hnames : shapes.map Prod.fst = fields.map (·.name))
    (h : Table.find? name shapes = none) : fields.find? (·.name = name) = none := by
  have hshapes : ∀ other ∈ shapes.map Prod.fst, other ≠ name :=
    List.forall_mem_map.2 (Table.find?_eq_none_iff.1 h)
  rw [hnames, List.forall_mem_map] at hshapes
  simpa using hshapes

/-- An entry is passed on the way through a record: it can be read as the field of its name, or it
has no field and can be skipped. -/
def Passes (fields : List Field) (entry : String × Document) : Prop :=
  (∃ field, fields.find? (·.name = entry.1) = some field ∧ field.check entry.2 = .ok ()) ∨
    fields.find? (·.name = entry.1) = none ∧ entry.2.grammatical = true

/-- Entries that are passed, no two of them for the same field, make up a record. -/
theorem checkEntries_of_passes {seen : List String} {entries : List (String × Document)}
    (hpasses : ∀ entry ∈ entries, Passes fields entry)
    (hseen : ∀ entry ∈ entries, entry.1 ∈ seen → fields.find? (·.name = entry.1) = none)
    (hapart : entries.Pairwise fun a b => a.1 = b.1 → fields.find? (·.name = a.1) = none) :
    checkEntries fields seen entries = .ok () := by
  induction entries generalizing seen with
  | nil => rfl
  | cons entry rest ih =>
      obtain ⟨key, item⟩ := entry
      obtain ⟨hfirst, hpasses⟩ := List.forall_mem_cons.1 hpasses
      obtain ⟨hnew, hseen⟩ := List.forall_mem_cons.1 hseen
      obtain ⟨hbefore, hapart⟩ := List.pairwise_cons.1 hapart
      rcases hfirst with ⟨field, hfind, hcheck⟩ | ⟨hfind, hgrammatical⟩
      · have hnew : key ∉ seen := by
          intro hmem
          cases hfind.symm.trans (hnew hmem)
        have hstill : ∀ other ∈ rest, other.1 ∈ key :: seen →
            fields.find? (·.name = other.1) = none := by
          intro other hother hmem
          rcases List.mem_cons.1 hmem with heq | hmem
          · rw [heq]
            exact hbefore other hother heq.symm
          · exact hseen other hother hmem
        rw [checkEntries, hfind]
        simp only [hnew, if_false, hcheck, bind, Except.bind]
        exact ih hpasses hstill hapart
      · rw [checkEntries, hfind]
        simp only [hgrammatical, if_true]
        exact ih hpasses hseen hapart

/-- Entries of a record, of which the fields have keys of their own, are no two for one field. -/
theorem pairwise_apart {told others : List (String × Document)} (htold : KeysIncrease told)
    (hothers : ∀ entry ∈ others, fields.find? (·.name = entry.1) = none) :
    (told ++ others).Pairwise fun a b => a.1 = b.1 → fields.find? (·.name = a.1) = none := by
  refine List.pairwise_append.2 ⟨?_, ?_, ?_⟩
  · exact htold.keys_ne.imp fun hne heq => absurd heq hne
  · exact List.pairwise_of_forall_mem_list fun a ha _ _ _ => hothers a ha
  · intro a _ b hb heq
    rw [heq]
    exact hothers b hb

/-- An entry that tells a member is found among all entries. -/
theorem find?_of_told {entries told others : List (String × Document)} {key : String}
    {item : Document} (hperm : entries.Perm (told ++ others)) (htold : KeysIncrease told)
    (hitem : (key, item) ∈ told) (hothers : ∀ entry ∈ others, entry.1 ≠ key) :
    Table.find? key entries = some item := by
  have hmem : (key, item) ∈ entries := hperm.mem_iff.2 (List.mem_append_left _ hitem)
  refine Table.find?_of_unique hmem fun other hother => ?_
  rcases List.mem_append.1 (hperm.mem_iff.1 hother) with hother | hother
  · have hfound := Table.find?_of_mem htold hother
    rw [Table.find?_of_mem htold hitem] at hfound
    exact (Option.some.inj hfound).symm
  · exact absurd rfl (hothers _ hother)

/-- The members of an object are found in a record. -/
def Record.Finds (r : Record) (shapes : List (String × Shape)) (members : List (String × Value)) :
    Prop :=
  ∀ key v, (key, v) ∈ members →
    ∃ inner item, Table.find? key shapes = some inner ∧
      Table.find? key r.fields = some item ∧ item.Tells inner v

/-- An object whose members are accepted by fields is a record, in which each member is found. -/
theorem exists_record {d : Document} (h : d.Tells (.record shapes) (.object members))
    (hkeys : KeysIncrease members) (hnames : shapes.map Prod.fst = fields.map (·.name))
    (hfields : FieldsAccept fields shapes members) :
    ∃ r, d.record fields = .ok r ∧ r.Finds shapes members := by
  cases h with
  | @mapping _ entries told others _ unknown ending htold hothers hunknown hperm hending =>
      have hincrease := htold.keysIncrease hkeys
      have hnoShape : ∀ entry ∈ others, Table.find? entry.1 shapes = none :=
        hothers.forall_key (p := fun name => Table.find? name shapes = none) hunknown
      have hnoField : ∀ entry ∈ others, fields.find? (·.name = entry.1) = none :=
        fun entry hentry => find?_field_eq_none hnames (hnoShape entry hentry)
      have hpasses : ∀ entry ∈ entries, Passes fields entry := by
        intro entry hentry
        rcases List.mem_append.1 (hperm.mem_iff.1 hentry) with hmem | hmem
        · obtain ⟨inner, v, hinner, hv, htells⟩ := htold.exists_of_mem hmem
          obtain ⟨field, shape, hfind, hshape, haccepts⟩ := hfields _ hv
          cases hinner.symm.trans hshape
          exact .inl ⟨field, hfind, haccepts _ htells⟩
        · obtain ⟨inner, v, -, -, htells⟩ := hothers.exists_of_mem hmem
          exact .inr ⟨hnoField entry hmem, grammatical_of_tells htells⟩
      have hapart := (hperm.pairwise_iff fun hab heq => heq ▸ hab heq.symm).2
        (pairwise_apart hincrease hnoField)
      refine ⟨⟨entries, false⟩, ?_, fun key v hmem => ?_⟩
      · rw [record, checkEntries_of_passes hpasses (fun _ _ hseen => absurd hseen List.not_mem_nil)
          hapart, hending]
        rfl
      · obtain ⟨inner, item, hinner, hitem, htells⟩ := htold.exists_mem hmem
        have hne : ∀ entry ∈ others, entry.1 ≠ key := by
          rintro entry hentry rfl
          cases (hnoShape entry hentry).symm.trans hinner
        exact ⟨inner, item, hinner, find?_of_told hperm hincrease hitem hne, htells⟩

/-- A field that is found is read. -/
theorem Record.Finds.required {α : Type} {read : Document → Reading α} {r : Record}
    {name : String} {inner : Shape} {v : Value} {a : α} (hfound : r.Finds shapes members)
    (hmem : (name, v) ∈ members) (hinner : Table.find? name shapes = some inner)
    (hread : Reads inner read v a) : r.required name read = .ok a := by
  obtain ⟨shape, item, hshape, hfind, htells⟩ := hfound name v hmem
  cases hshape.symm.trans hinner
  rw [Record.required, hfind]
  exact hread item htells

/-- A field that is found is read where it may be left out. -/
theorem Record.Finds.optional {α : Type} {read : Document → Reading α} {r : Record}
    {name : String} {inner : Shape} {v : Value} {a : Option α} (hfound : r.Finds shapes members)
    (hmem : (name, v) ∈ members) (hinner : Table.find? name shapes = some inner)
    (hread : Reads inner (Document.optional read) v a) : r.optional name read = .ok a := by
  obtain ⟨shape, item, hshape, hfind, htells⟩ := hfound name v hmem
  cases hshape.symm.trans hinner
  rw [Record.optional, hfind]
  exact hread item htells

/-- A record is read if that is read which is made of its fields. -/
theorem reads_record {α : Type} {make : Record → Reading α} {a : α} (hkeys : KeysIncrease members)
    (hnames : shapes.map Prod.fst = fields.map (·.name))
    (hfields : FieldsAccept fields shapes members)
    (hmake : ∀ r : Record, r.Finds shapes members → make r = .ok a) :
    Reads (.record shapes) (fun d => d.record fields >>= make) (.object members) a := by
  intro d hd
  obtain ⟨r, hrecord, hfinds⟩ := exists_record hd hkeys hnames hfields
  show d.record fields >>= make = .ok a
  rw [hrecord]
  exact hmake r hfinds

end Records

end Document

end ServiceRouting
