import Mathlib.Data.List.Perm.Basic
import ServiceRouting.Proofs.Json.Inversion

/-!
# What documents tell

A document tells a value if it has its parts and ends where it should (`Document.Tells`). It may
list the members of an object in any order. Whether it may list more is said by the shape of what
it is read as: in a record entries with unknown names may stand beside the fields, in a plain value
nothing may.

The document of a value tells it (`tells_ofValue`), and a document still tells what it did after
all of it has been looked at (`exists_buffered`). What tells a plain value is read as it
(`value_of_tells`), and what tells any value can be skipped (`grammatical_of_tells`).
-/

namespace ServiceRouting

open Json (Value)

/-- Members by increasing key make up the object, in any order. -/
theorem Json.Value.ofMembers_of_perm {members sorted : List (String × Value)}
    (h : KeysIncrease sorted) (hperm : members.Perm sorted) :
    Value.ofMembers members = .object sorted := by
  have htable : Table.ofList members = ⟨sorted, h⟩ := Table.ofList_of_perm hperm
  rw [Value.ofMembers, ← Table.entries_ofList, htable]

/-- A list of values is ordered if each of them is. -/
theorem Json.Value.allOrdered_iff {items : List Value} :
    Value.AllOrdered items ↔ ∀ item ∈ items, item.Ordered := by
  induction items with
  | nil => simp [Value.AllOrdered]
  | cons item rest ih => rw [Value.AllOrdered, ih, List.forall_mem_cons]

/-- A list is read if its items are, one by one. -/
theorem mapM_eq_ok_iff {α β : Type} {read : α → Reading β} {as : List α} {bs : List β} :
    as.mapM read = .ok bs ↔ List.Forall₂ (fun a b => read a = .ok b) as bs := by
  constructor
  · intro h
    induction as generalizing bs with
    | nil =>
        cases h
        exact .nil
    | cons a as ih =>
        rw [List.mapM_cons] at h
        obtain ⟨b, hb, h⟩ := exists_of_bind_eq_ok h
        obtain ⟨bs, hbs, h⟩ := exists_of_bind_eq_ok h
        cases h
        exact .cons hb (ih hbs)
  · intro h
    induction h with
    | nil => rfl
    | cons hb _ ih =>
        rw [List.mapM_cons, hb, ih]
        rfl

/-- Two lists are read one after the other. -/
theorem mapM_append_eq_ok {α β : Type} {read : α → Reading β} {as others : List α}
    {bs cs : List β} (h : as.mapM read = .ok bs) (hothers : others.mapM read = .ok cs) :
    (as ++ others).mapM read = .ok (bs ++ cs) := by
  rw [List.mapM_append, h, hothers]
  rfl

/-- What is read from a list is read from the list in another order, in another order. -/
theorem exists_mapM_of_perm {α β : Type} {read : α → Reading β} {as others : List α} {bs : List β}
    (hperm : others.Perm as) (h : as.mapM read = .ok bs) :
    ∃ cs, others.mapM read = .ok cs ∧ cs.Perm bs := by
  obtain ⟨cs, hcs, hperm⟩ := List.perm_comp_forall₂ hperm (mapM_eq_ok_iff.1 h)
  exact ⟨cs, mapM_eq_ok_iff.2 hcs, hperm⟩

/-- An end that passes is grammatical. -/
theorem Ending.ne_broken_of_check {ending : Ending} (h : ending.check = .ok ()) :
    ending ≠ .broken := by
  rintro rfl
  cases h

namespace Document

/-- What a document is read as, so far as the names of its entries matter. -/
inductive Shape where
  /-- A value as it is. -/
  | plain
  /-- A record with these fields, each of its own shape. -/
  | record (fields : List (String × Shape))

/-- The shape of the entry with this name, if the name is known. -/
def Shape.field? : Shape → String → Option Shape
  | plain, _ => some plain
  | record fields, name => Table.find? name fields

mutual

/-- A document of this shape that has the parts of a value. Beside the entries of an object there
may be others with names that the shape does not know; of these only that they can be read is
asked. -/
inductive Tells : Shape → Document → Value → Prop where
  | null : Tells .plain .null .null
  | bool (b : Bool) : Tells .plain (.bool b) (.bool b)
  | number (n : Json.Number) : Tells .plain (.number n) (.number n)
  | string (s : String) : Tells .plain (.string s) (.string s)
  | sequence {items : List Document} {values : List Value} {ending : Ending} :
      AllTell items values → ending.check = .ok () →
      Tells .plain (.sequence items ending) (.array values)
  | mapping {shape : Shape} {entries told others : List (String × Document)}
      {members unknown : List (String × Value)} {ending : Ending} :
      MembersTell shape told members → MembersTell .plain others unknown →
      (∀ member ∈ unknown, shape.field? member.1 = none) →
      entries.Perm (told ++ others) → ending.check = .ok () →
      Tells shape (.mapping entries ending) (.object members)

/-- Documents that have the parts of values, one by one. -/
inductive AllTell : List Document → List Value → Prop where
  | nil : AllTell [] []
  | cons {d : Document} {v : Value} {items : List Document} {values : List Value} :
      Tells .plain d v → AllTell items values → AllTell (d :: items) (v :: values)

/-- Entries of this shape that have the keys and the parts of members, one by one. -/
inductive MembersTell : Shape → List (String × Document) → List (String × Value) → Prop where
  | nil {shape : Shape} : MembersTell shape [] []
  | cons {shape inner : Shape} {key : String} {d : Document} {v : Value}
      {entries : List (String × Document)} {members : List (String × Value)} :
      shape.field? key = some inner → Tells inner d v → MembersTell shape entries members →
      MembersTell shape ((key, d) :: entries) ((key, v) :: members)

end

/-- A mapping with the entries of an object, in this order and nothing beside them, tells it. -/
theorem MembersTell.tells {shape : Shape} {entries : List (String × Document)}
    {members : List (String × Value)} (h : MembersTell shape entries members) :
    (mapping entries .closed).Tells shape (.object members) :=
  .mapping h .nil (fun _ hmem => absurd hmem List.not_mem_nil)
    (.of_eq (List.append_nil entries).symm) rfl

/-- The order of the entries does not matter. -/
theorem Tells.of_perm {shape : Shape} {entries others : List (String × Document)}
    {ending : Ending} {v : Value} (h : (Document.mapping entries ending).Tells shape v)
    (hperm : others.Perm entries) : (Document.mapping others ending).Tells shape v := by
  cases h with
  | mapping htold hothers hunknown hentries hending =>
      exact .mapping htold hothers hunknown (hperm.trans hentries) hending

/-- An entry with an unknown name does not matter. -/
theorem Tells.cons_unknown {shape : Shape} {entries : List (String × Document)} {ending : Ending}
    {v w : Value} {name : String} {d : Document}
    (h : (Document.mapping entries ending).Tells shape v) (hname : shape.field? name = none)
    (hd : d.Tells .plain w) : (Document.mapping ((name, d) :: entries) ending).Tells shape v := by
  cases h with
  | mapping htold hothers hunknown hentries hending =>
      exact .mapping htold (.cons rfl hd hothers) (List.forall_mem_cons.2 ⟨hname, hunknown⟩)
        ((hentries.cons _).trans List.perm_middle.symm) hending

mutual

/-- The document of a value tells it. -/
theorem tells_ofValue : (v : Value) → (ofValue v).Tells .plain v
  | .null => .null
  | .bool b => .bool b
  | .number n => .number n
  | .string s => .string s
  | .array items => .sequence (allTell_ofValues items) rfl
  | .object members => (membersTell_ofMembers members).tells

/-- The documents of a list of values tell them. -/
theorem allTell_ofValues : (items : List Value) → AllTell (ofValues items) items
  | [] => .nil
  | item :: rest => .cons (tells_ofValue item) (allTell_ofValues rest)

/-- The entries of members tell them. -/
theorem membersTell_ofMembers :
    (members : List (String × Value)) → MembersTell .plain (ofMembers members) members
  | [] => .nil
  | (_, v) :: rest => .cons rfl (tells_ofValue v) (membersTell_ofMembers rest)

end

/-- Reads the value of an entry. -/
def readEntry {α : Type} (read : Document → Reading α) (entry : String × Document) :
    Reading (String × α) := do
  let value ← read entry.2
  return (entry.1, value)

/-- The values of members are read one by one. -/
theorem members_eq_mapM (entries : List (String × Document)) :
    members entries = entries.mapM (readEntry value) := by
  induction entries with
  | nil => rfl
  | cons entry rest ih =>
      rw [members, ih, List.mapM_cons, readEntry, bind_assoc]
      rfl

/-- Entries are looked at one by one. -/
theorem entriesBuffered_eq_mapM (entries : List (String × Document)) :
    entriesBuffered entries = entries.mapM (readEntry buffered) := by
  induction entries with
  | nil => rfl
  | cons entry rest ih =>
      rw [entriesBuffered, ih, List.mapM_cons, readEntry, bind_assoc]
      rfl

namespace MembersTell

/-- Entries have the keys of the members that they tell. -/
theorem keys {shape : Shape} {entries : List (String × Document)}
    {members : List (String × Value)} :
    MembersTell shape entries members → entries.map Prod.fst = members.map Prod.fst
  | .nil => rfl
  | .cons _ _ hrest => by rw [List.map_cons, List.map_cons, hrest.keys]

/-- The keys of entries increase if those of the members that they tell do. -/
theorem keysIncrease {shape : Shape} {entries : List (String × Document)}
    {members : List (String × Value)} (h : MembersTell shape entries members)
    (hkeys : KeysIncrease members) : KeysIncrease entries := by
  have hmembers : (members.map Prod.fst).Pairwise (· < ·) := List.pairwise_map.2 hkeys
  rw [← h.keys] at hmembers
  exact keysIncrease_of_keys hmembers

/-- What holds of the keys of all members holds of those of all entries. -/
theorem forall_key {shape : Shape} {entries : List (String × Document)}
    {members : List (String × Value)} {p : String → Prop} (h : MembersTell shape entries members)
    (hmembers : ∀ member ∈ members, p member.1) : ∀ entry ∈ entries, p entry.1 := by
  have hkeys : ∀ key ∈ entries.map Prod.fst, p key := by
    rw [h.keys]
    exact List.forall_mem_map.2 hmembers
  exact List.forall_mem_map.1 hkeys

/-- A plain value has no unknown members. -/
theorem eq_nil_of_plain {entries : List (String × Document)} {members : List (String × Value)}
    (h : MembersTell .plain entries members)
    (hunknown : ∀ member ∈ members, Shape.plain.field? member.1 = none) : entries = [] := by
  cases h with
  | nil => rfl
  | cons => cases hunknown _ List.mem_cons_self

/-- Every entry tells a member. -/
theorem exists_of_mem {shape : Shape} {entries : List (String × Document)}
    {members : List (String × Value)} {key : String} {item : Document} :
    MembersTell shape entries members → (key, item) ∈ entries →
      ∃ inner v, shape.field? key = some inner ∧ (key, v) ∈ members ∧ item.Tells inner v
  | .nil, hmem => absurd hmem List.not_mem_nil
  | .cons hinner hitem hrest, hmem => by
      rcases List.mem_cons.1 hmem with heq | hmem
      · cases heq
        exact ⟨_, _, hinner, List.mem_cons_self, hitem⟩
      · obtain ⟨inner, v, hinner, hv, htells⟩ := hrest.exists_of_mem hmem
        exact ⟨inner, v, hinner, List.mem_cons_of_mem _ hv, htells⟩

/-- Every member is told by an entry. -/
theorem exists_mem {shape : Shape} {entries : List (String × Document)}
    {members : List (String × Value)} {key : String} {v : Value} :
    MembersTell shape entries members → (key, v) ∈ members →
      ∃ inner item, shape.field? key = some inner ∧ (key, item) ∈ entries ∧ item.Tells inner v
  | .nil, hmem => absurd hmem List.not_mem_nil
  | .cons hinner hitem hrest, hmem => by
      rcases List.mem_cons.1 hmem with heq | hmem
      · cases heq
        exact ⟨_, _, hinner, List.mem_cons_self, hitem⟩
      · obtain ⟨inner, item, hinner, hmem, htells⟩ := hrest.exists_mem hmem
        exact ⟨inner, item, hinner, List.mem_cons_of_mem _ hmem, htells⟩

/-- A single member is told by a single entry. -/
theorem exists_single {shape : Shape} {entries : List (String × Document)} {key : String}
    {v : Value} (h : MembersTell shape entries [(key, v)]) :
    ∃ inner item, shape.field? key = some inner ∧ entries = [(key, item)] ∧
      item.Tells inner v := by
  cases h with
  | cons hinner hitem hrest =>
      cases hrest
      exact ⟨_, _, hinner, rfl, hitem⟩

/-- Entries chosen by key tell the members chosen so. -/
theorem filter {shape : Shape} {entries : List (String × Document)}
    {members : List (String × Value)} (test : String → Bool) :
    MembersTell shape entries members →
      MembersTell shape (entries.filter fun entry => test entry.1)
        (members.filter fun member => test member.1)
  | .nil => .nil
  | @MembersTell.cons _ _ key _ _ _ _ hinner hitem hrest => by
      rw [List.filter_cons, List.filter_cons]
      cases htest : test key with
      | true => exact .cons hinner hitem (hrest.filter test)
      | false => exact hrest.filter test

/-- Entries of a shape have every shape that knows their keys in the same way. -/
theorem of_field?_eq {shape other : Shape} {entries : List (String × Document)}
    {members : List (String × Value)} :
    MembersTell shape entries members →
      (∀ member ∈ members, other.field? member.1 = shape.field? member.1) →
      MembersTell other entries members
  | .nil, _ => .nil
  | .cons hinner hitem hrest, hsame => by
      obtain ⟨hfirst, hothers⟩ := List.forall_mem_cons.1 hsame
      exact .cons (hfirst.trans hinner) hitem (hrest.of_field?_eq hothers)

end MembersTell

mutual

/-- What tells an ordered value is read as it. -/
theorem value_of_tells {d : Document} {v : Value} (h : d.Tells .plain v) (hv : v.Ordered) :
    d.value = .ok v := by
  cases h with
  | null | bool | number | string => rfl
  | sequence hitems hending =>
      rw [value, values_of_allTell hitems hv]
      simp [hending, bind, Except.bind, pure, Except.pure]
  | mapping htold hothers hunknown hperm hending =>
      have hread := members_of_membersTell htold hv.2
      rw [hothers.eq_nil_of_plain hunknown, List.append_nil] at hperm
      rw [members_eq_mapM] at hread
      obtain ⟨read, hread, hmembers⟩ := exists_mapM_of_perm hperm hread
      rw [value, members_eq_mapM, hread]
      simp [hending, bind, Except.bind, pure, Except.pure, Value.ofMembers_of_perm hv.1 hmembers]

/-- Documents that tell ordered values are read as them. -/
theorem values_of_allTell {items : List Document} {vs : List Value} (h : AllTell items vs)
    (hvs : Value.AllOrdered vs) : values items = .ok vs := by
  cases h with
  | nil => rfl
  | cons hitem hrest =>
      rw [values, value_of_tells hitem hvs.1, values_of_allTell hrest hvs.2]
      rfl

/-- Entries that tell ordered members are read as them. -/
theorem members_of_membersTell {entries : List (String × Document)} {ms : List (String × Value)}
    (h : MembersTell .plain entries ms) (hms : Value.MembersOrdered ms) :
    members entries = .ok ms := by
  cases h with
  | nil => rfl
  | cons hinner hitem hrest =>
      cases hinner
      rw [members, value_of_tells hitem hms.1, members_of_membersTell hrest hms.2]
      rfl

end

mutual

/-- After all of a document has been looked at it tells what it did. -/
theorem exists_buffered {d : Document} {shape : Shape} {v : Value} :
    d.Tells shape v → ∃ b, d.buffered = .ok b ∧ b.Tells shape v
  | .null => ⟨.null, rfl, .null⟩
  | .bool b => ⟨.bool b, rfl, .bool b⟩
  | .number n => ⟨.number n, rfl, .number n⟩
  | .string s => ⟨.string s, rfl, .string s⟩
  | .sequence hitems hending => by
      obtain ⟨items, hbuffered, htell⟩ := exists_allBuffered hitems
      refine ⟨.sequence items .closed, ?_, .sequence htell rfl⟩
      rw [buffered, hbuffered]
      simp [hending, bind, Except.bind, pure, Except.pure]
  | .mapping htold hothers hunknown hperm hending => by
      obtain ⟨told, hreadTold, htold⟩ := exists_entriesBuffered htold
      obtain ⟨others, hreadOthers, hothers⟩ := exists_entriesBuffered hothers
      rw [entriesBuffered_eq_mapM] at hreadTold hreadOthers
      obtain ⟨entries, hread, hperm⟩ :=
        exists_mapM_of_perm hperm (mapM_append_eq_ok hreadTold hreadOthers)
      refine ⟨.mapping entries .lax, ?_, .mapping htold hothers hunknown hperm rfl⟩
      rw [buffered, entriesBuffered_eq_mapM, hread]
      simp [hending, bind, Except.bind, pure, Except.pure]

/-- After all of a list of documents has been looked at it tells what it did. -/
theorem exists_allBuffered {items : List Document} {vs : List Value} :
    AllTell items vs → ∃ bs, allBuffered items = .ok bs ∧ AllTell bs vs
  | .nil => ⟨[], rfl, .nil⟩
  | .cons hitem hrest => by
      obtain ⟨b, hb, htells⟩ := exists_buffered hitem
      obtain ⟨bs, hbs, htell⟩ := exists_allBuffered hrest
      refine ⟨b :: bs, ?_, .cons htells htell⟩
      rw [allBuffered, hb, hbs]
      rfl

/-- After all of a list of entries has been looked at it tells what it did. -/
theorem exists_entriesBuffered {entries : List (String × Document)} {shape : Shape}
    {ms : List (String × Value)} :
    MembersTell shape entries ms →
      ∃ bs, entriesBuffered entries = .ok bs ∧ MembersTell shape bs ms
  | .nil => ⟨[], rfl, .nil⟩
  | .cons hinner hitem hrest => by
      obtain ⟨b, hb, htells⟩ := exists_buffered hitem
      obtain ⟨bs, hbs, htell⟩ := exists_entriesBuffered hrest
      refine ⟨(_, b) :: bs, ?_, .cons hinner htells htell⟩
      rw [entriesBuffered, hb, hbs]
      rfl

end

/-- Entries can be skipped if each of them can. -/
theorem entriesGrammatical_iff {entries : List (String × Document)} :
    entriesGrammatical entries = true ↔ ∀ entry ∈ entries, entry.2.grammatical = true := by
  induction entries with
  | nil => simp [entriesGrammatical]
  | cons entry rest ih =>
      rw [entriesGrammatical, Bool.and_eq_true, ih, List.forall_mem_cons]

mutual

/-- What tells a value can be skipped. -/
theorem grammatical_of_tells {d : Document} {shape : Shape} {v : Value} :
    d.Tells shape v → d.grammatical = true
  | .null | .bool _ | .number _ | .string _ => rfl
  | .sequence hitems hending => by
      have hend := Ending.ne_broken_of_check hending
      simp [grammatical, allGrammatical_of_allTell hitems, hend]
  | .mapping htold hothers _ hperm hending => by
      have hend := Ending.ne_broken_of_check hending
      have htold := entriesGrammatical_iff.1 (entriesGrammatical_of_membersTell htold)
      have hothers := entriesGrammatical_iff.1 (entriesGrammatical_of_membersTell hothers)
      have hentries := entriesGrammatical_iff.2 fun entry hentry =>
        (List.mem_append.1 (hperm.mem_iff.1 hentry)).elim (htold entry) (hothers entry)
      simp [grammatical, hentries, hend]

/-- Documents that tell values can be skipped. -/
theorem allGrammatical_of_allTell {items : List Document} {vs : List Value} :
    AllTell items vs → allGrammatical items = true
  | .nil => rfl
  | .cons hitem hrest => by
      rw [allGrammatical, grammatical_of_tells hitem, allGrammatical_of_allTell hrest]
      rfl

/-- Entries that tell members can be skipped. -/
theorem entriesGrammatical_of_membersTell {entries : List (String × Document)} {shape : Shape}
    {ms : List (String × Value)} :
    MembersTell shape entries ms → entriesGrammatical entries = true
  | .nil => rfl
  | .cons _ hitem hrest => by
      rw [entriesGrammatical, grammatical_of_tells hitem, entriesGrammatical_of_membersTell hrest]
      rfl

end

end Document

end ServiceRouting
