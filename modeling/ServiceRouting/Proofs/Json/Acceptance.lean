import ServiceRouting.Proofs.Json.Rereading

/-!
# What values are read

A value that is read from some text lies above the depth limit, its integers have 64 bits, and its
objects list their members by increasing key (`isRead_of_readFront`). The first two hold of the
document that the reader finds (`scan_within`), and the value of a document keeps them
(`isRead_of_value`).
-/

namespace ServiceRouting

open Json (Number Value)

namespace Json

/-- A number that can be read: its integers have 64 bits. -/
def Number.Fits (n : Number) : Prop := ∀ value, n = .integer value → n.IsInteger

/-- No significand exceeds 64 bits. -/
theorem Number.accumulate_lt {significand : Nat} (h : significand < 18446744073709551616)
    (digits : List Nat) : (accumulate significand digits).1 < 18446744073709551616 := by
  induction digits generalizing significand with
  | nil => exact h
  | cons d rest ih =>
      rw [accumulate]
      split
      next hfits => exact ih hfits
      next => exact h

/-- A number with a sign and a magnitude of its own is no integer. -/
theorem Number.fits_of_map_signed {negative : Bool} {magnitude : Option Float} {n : Number}
    (h : magnitude.map (signed negative) = some n) : n.Fits := by
  obtain ⟨f, -, rfl⟩ := Option.map_eq_some_iff.1 h
  exact nofun

/-- A number made of parts fits. -/
theorem Number.fits_ofParts {parts : Parts} {n : Number} (h : ofParts parts = some n) :
    n.Fits := by
  have hsignificand := accumulate_lt (by decide : 0 < 18446744073709551616) parts.whole
  unfold ofParts at h
  dsimp only at h
  split at h
  next =>
    split at h
    next =>
      cases h
      exact fun value _ => ⟨by omega, by omega⟩
    next =>
      split at h
      next hnegative =>
        cases h
        exact fun value _ => ⟨by omega, by omega⟩
      next =>
        cases h
        exact nofun
  next =>
    split at h
    next =>
      split at h
      next =>
        split at h
        next => cases h
        next =>
          cases h
          exact nofun
      next => exact fits_of_map_signed h
    next => exact fits_of_map_signed h

end Json

namespace Document

mutual
/-- The document can have a value at this depth: it does not reach below it, and its integers have
64 bits. -/
def Within (depth : Nat) : Document → Prop
  | .number n => n.Fits
  | .sequence items _ => 1 < depth ∧ AllWithin (depth - 1) items
  | .mapping entries _ => 1 < depth ∧ EntriesWithin (depth - 1) entries
  | _ => True

/-- All items are within the depth. -/
def AllWithin (depth : Nat) : List Document → Prop
  | [] => True
  | item :: rest => Within depth item ∧ AllWithin depth rest

/-- All entries are within the depth. -/
def EntriesWithin (depth : Nat) : List (String × Document) → Prop
  | [] => True
  | (_, item) :: rest => Within depth item ∧ EntriesWithin depth rest
end

end Document

namespace Json

open Document (AllWithin EntriesWithin Within)

variable {depth : Nat}

/-- What lies too deep is not found. -/
theorem within_atDepth {content : Scanned Document} (h : 1 < depth → content.found.Within depth) :
    (atDepth (depth - 1) content).found.Within depth := by
  unfold atDepth
  split
  next => cases content.rest <;> exact trivial
  next => exact h (by omega)

/-- A word is within every depth that its document is within. -/
theorem within_scanWord {word : String} {d : Document} {text : List Char} (h : d.Within depth) :
    (scanWord word d text).found.Within depth := by
  unfold scanWord
  split
  next => exact h
  next => exact trivial

/-- A number that is found fits. -/
theorem within_scanNumber (depth : Nat) (text : List Char) :
    (scanNumber text).found.Within depth := by
  unfold scanNumber
  split
  next => exact trivial
  next =>
    split
    next hparts => exact Number.fits_ofParts hparts
    next => exact trivial

/-- The values that are read with so much fuel are within the depth at which they are read. -/
def ValuesWithin (fuel : Nat) : Prop :=
  ∀ depth text, (scanValue fuel depth text).found.Within depth

/-- The items that are read with so much fuel are within the depth at which they are read. -/
def ItemsWithin (fuel : Nat) : Prop :=
  ∀ depth text, AllWithin depth (scanItems fuel depth text).found

/-- The entries that are read with so much fuel are within the depth at which they are read. -/
def MembersWithin (fuel : Nat) : Prop :=
  ∀ depth text, EntriesWithin depth (scanEntries fuel depth text).found.1

variable {fuel : Nat}

/-- With more fuel a value is within the depth, as its items and its members are. -/
theorem valuesWithin_succ (hitems : ItemsWithin fuel) (hmembers : MembersWithin fuel) :
    ValuesWithin (fuel + 1) := by
  intro depth text
  rw [scanValue]
  split
  · exact within_scanWord (show Document.null.Within depth from trivial)
  · exact within_scanWord (show (Document.bool true).Within depth from trivial)
  · exact within_scanWord (show (Document.bool false).Within depth from trivial)
  · split <;> exact trivial
  · refine within_atDepth fun hdepth => ?_
    split
    · exact ⟨hdepth, trivial⟩
    · exact ⟨hdepth, hitems _ _⟩
  · refine within_atDepth fun hdepth => ?_
    split
    · exact ⟨hdepth, trivial⟩
    · exact ⟨hdepth, hmembers _ _⟩
  · exact within_scanNumber depth _
  · split
    · exact within_scanNumber depth _
    · exact trivial
  · exact trivial

/-- With more fuel items are within the depth, as the first of them and the others are. -/
theorem itemsWithin_succ (hvalues : ValuesWithin fuel) (hitems : ItemsWithin fuel) :
    ItemsWithin (fuel + 1) := by
  intro depth text
  rw [scanItems]
  split
  · exact ⟨hvalues _ _, trivial⟩
  · split
    · exact ⟨hvalues _ _, hitems _ _⟩
    · exact ⟨hvalues _ _, trivial⟩
    · exact ⟨hvalues _ _, trivial⟩

/-- With more fuel members are within the depth, as the first of them and the others are. -/
theorem membersWithin_succ (hvalues : ValuesWithin fuel) (hmembers : MembersWithin fuel) :
    MembersWithin (fuel + 1) := by
  intro depth text
  rw [scanEntries]
  split
  · split
    · exact trivial
    next key _ _ =>
      cases key with
      | none =>
          dsimp only
          repeat' split
          all_goals exact trivial
      | some key =>
          dsimp only
          split
          · split
            · exact ⟨hvalues _ _, trivial⟩
            · split
              · exact ⟨hvalues _ _, hmembers _ _⟩
              · exact ⟨hvalues _ _, trivial⟩
              · exact ⟨hvalues _ _, trivial⟩
          · exact ⟨trivial, trivial⟩
  · exact trivial

/-- All that is read is within the depth at which it is read. -/
theorem within (fuel : Nat) : ValuesWithin fuel ∧ ItemsWithin fuel ∧ MembersWithin fuel := by
  -- As the readers call one another, by induction on fuel for all three.
  induction fuel with
  | zero => exact ⟨fun _ _ => trivial, fun _ _ => trivial, fun _ _ => trivial⟩
  | succ fuel ih =>
      obtain ⟨hvalues, hitems, hmembers⟩ := ih
      exact ⟨valuesWithin_succ hitems hmembers, itemsWithin_succ hvalues hitems,
        membersWithin_succ hvalues hmembers⟩

/-- The document that a text is read into is within the limit. -/
theorem scan_within (text : List Char) : (scan text).found.Within depthLimit := by
  obtain ⟨hvalues, -, -⟩ := within (text.length + 1)
  exact hvalues depthLimit text

namespace Value

/-- A value that can be read at this depth. -/
structure IsRead (depth : Nat) (v : Value) : Prop where
  /-- The value does not reach below the depth. -/
  shallow : v.depth < depth
  /-- The objects in the value list their members by increasing key. -/
  ordered : v.Ordered
  /-- The integers in the value have 64 bits. -/
  fits : ∀ n ∈ v.numbers, n.Fits

variable {items : List Value} {members : List (String × Value)} {n : Number}

/-- Items do not reach below a depth if none of them does. -/
theorem itemsDepth_lt (hpos : 0 < depth) (h : ∀ item ∈ items, item.depth < depth) :
    itemsDepth items < depth := by
  induction items with
  | nil => exact hpos
  | cons item rest ih =>
      obtain ⟨hitem, hrest⟩ := List.forall_mem_cons.1 h
      exact Nat.max_lt.2 ⟨hitem, ih hrest⟩

/-- Members do not reach below a depth if none of them does. -/
theorem membersDepth_lt (hpos : 0 < depth) (h : ∀ member ∈ members, member.2.depth < depth) :
    membersDepth members < depth := by
  induction members with
  | nil => exact hpos
  | cons member rest ih =>
      obtain ⟨hmember, hrest⟩ := List.forall_mem_cons.1 h
      exact Nat.max_lt.2 ⟨hmember, ih hrest⟩

/-- Members are ordered if each of them is. -/
theorem membersOrdered_iff : MembersOrdered members ↔ ∀ member ∈ members, member.2.Ordered := by
  induction members with
  | nil => simp [MembersOrdered]
  | cons member rest ih => rw [MembersOrdered, ih, List.forall_mem_cons]

/-- The numbers of items are those of the single ones. -/
theorem mem_itemsNumbers : n ∈ itemsNumbers items ↔ ∃ item ∈ items, n ∈ item.numbers := by
  induction items with
  | nil => simp [itemsNumbers]
  | cons item rest ih => simp [itemsNumbers, ih]

/-- The numbers of members are those of the single ones. -/
theorem mem_membersNumbers :
    n ∈ membersNumbers members ↔ ∃ member ∈ members, n ∈ member.2.numbers := by
  induction members with
  | nil => simp [membersNumbers]
  | cons member rest ih => simp [membersNumbers, ih]

/-- An array can be read if its items can be, one level below. -/
theorem isRead_array (hdepth : 1 < depth) (h : ∀ item ∈ items, item.IsRead (depth - 1)) :
    (array items).IsRead depth where
  shallow := by
    have hitems := itemsDepth_lt (by omega : 0 < depth - 1) fun item hitem => (h item hitem).shallow
    rw [Value.depth]
    omega
  ordered := allOrdered_iff.2 fun item hitem => (h item hitem).ordered
  fits n hn := by
    obtain ⟨item, hitem, hn⟩ := mem_itemsNumbers.1 hn
    exact (h item hitem).fits n hn

/-- An object can be read if its members can be, one level below. -/
theorem isRead_ofMembers (hdepth : 1 < depth)
    (h : ∀ member ∈ members, member.2.IsRead (depth - 1)) : (ofMembers members).IsRead depth := by
  have hsorted : ∀ member ∈ (Table.ofList members).entries, member.2.IsRead (depth - 1) :=
    fun member hmember => h member (Table.mem_of_mem_ofList hmember)
  rw [ofMembers, ← Table.entries_ofList]
  refine ⟨?_, ⟨(Table.ofList members).increasing, ?_⟩, fun n hn => ?_⟩
  · have hmembers := membersDepth_lt (by omega : 0 < depth - 1)
      fun member hmember => (hsorted member hmember).shallow
    rw [Value.depth]
    omega
  · exact membersOrdered_iff.2 fun member hmember => (hsorted member hmember).ordered
  · obtain ⟨member, hmember, hn⟩ := mem_membersNumbers.1 hn
    exact (hsorted member hmember).fits n hn

end Value

end Json

namespace Document

mutual
/-- The value of a document can be read at the depth that the document is within. -/
theorem isRead_of_value {depth : Nat} (hpos : 0 < depth) : (d : Document) → d.Within depth →
    {v : Value} → d.value = .ok v → v.IsRead depth
  | .null, _, _, h | .bool _, _, _, h | .string _, _, _, h => by
      cases h
      exact ⟨hpos, trivial, nofun⟩
  | .number n, hfits, _, h => by
      cases h
      exact ⟨hpos, trivial, fun m hm => List.mem_singleton.1 hm ▸ hfits⟩
  | .sequence items ending, hwithin, _, h => by
      rw [value] at h
      obtain ⟨vs, hvs, h⟩ := exists_of_bind_eq_ok h
      obtain ⟨⟨⟩, -, h⟩ := exists_of_bind_eq_ok h
      cases h
      have hbelow : 0 < depth - 1 := Nat.sub_pos_of_lt hwithin.1
      exact Value.isRead_array hwithin.1 (isRead_of_values hbelow items hwithin.2 hvs)
  | .mapping entries ending, hwithin, _, h => by
      rw [value] at h
      obtain ⟨ms, hms, h⟩ := exists_of_bind_eq_ok h
      obtain ⟨⟨⟩, -, h⟩ := exists_of_bind_eq_ok h
      cases h
      have hbelow : 0 < depth - 1 := Nat.sub_pos_of_lt hwithin.1
      exact Value.isRead_ofMembers hwithin.1 (isRead_of_members hbelow entries hwithin.2 hms)
  | .unreadable, _, _, h | .broken, _, _, h => by cases h

/-- The values of documents can be read at the depth that the documents are within. -/
theorem isRead_of_values {depth : Nat} (hpos : 0 < depth) : (items : List Document) →
    AllWithin depth items → {vs : List Value} → values items = .ok vs → ∀ v ∈ vs, v.IsRead depth
  | [], _, _, h => by
      cases h
      exact nofun
  | d :: rest, hwithin, _, h => by
      rw [values] at h
      obtain ⟨v, hv, h⟩ := exists_of_bind_eq_ok h
      obtain ⟨vs, hvs, h⟩ := exists_of_bind_eq_ok h
      cases h
      exact List.forall_mem_cons.2 ⟨isRead_of_value hpos d hwithin.1 hv,
        isRead_of_values hpos rest hwithin.2 hvs⟩

/-- The values of entries can be read at the depth that the entries are within. -/
theorem isRead_of_members {depth : Nat} (hpos : 0 < depth) : (entries : List (String × Document)) →
    EntriesWithin depth entries → {ms : List (String × Value)} → members entries = .ok ms →
    ∀ m ∈ ms, m.2.IsRead depth
  | [], _, _, h => by
      cases h
      exact nofun
  | (_, d) :: rest, hwithin, _, h => by
      rw [members] at h
      obtain ⟨v, hv, h⟩ := exists_of_bind_eq_ok h
      obtain ⟨ms, hms, h⟩ := exists_of_bind_eq_ok h
      cases h
      exact List.forall_mem_cons.2 ⟨isRead_of_value hpos d hwithin.1 hv,
        isRead_of_members hpos rest hwithin.2 hms⟩
end

end Document

/-- Values that are read from a text as a list can be read as an array. -/
theorem Json.isRead_of_readFront {text : String} {vs : List Value}
    (h : readFront (Document.list Document.value) text = .ok vs) :
    (Value.array vs).IsRead depthLimit :=
  Document.isRead_of_value (by decide) _ (scan_within text.toList) (Document.value_of_list h)

end ServiceRouting
