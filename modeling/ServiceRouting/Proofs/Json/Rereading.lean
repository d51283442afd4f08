import ServiceRouting.Proofs.Json.Documents
import ServiceRouting.Proofs.Json.RoundTrip

/-!
# Values read once more

A value that was read can be written and read once more. What comes of it is the value with its
numbers read once more (`Value.again`), unless it lies too deep by then (`list_value_retold`). So it
is the same value exactly if its numbers are read back (`again_eq_self_iff`), and there is a value
exactly if each of its numbers is read as one (`exists_again_iff`).
-/

namespace ServiceRouting

open Json (Number Value)

namespace Document

variable {fault : Fault}

/-- A document that has no value has a faulty part. -/
theorem malformed_of_check {ending : Ending} (h : ending.check = .error fault) :
    fault = .malformed := by
  cases ending <;> cases h <;> rfl

mutual
/-- A document that has no value is malformed. -/
theorem malformed_of_value : (d : Document) → d.value = .error fault → fault = .malformed
  | .sequence items ending, h => by
      rw [value] at h
      rcases error_or_of_bind_eq_error h with h | ⟨vs, -, h⟩
      · exact malformed_of_values items h
      rcases error_or_of_bind_eq_error h with h | ⟨⟨⟩, -, h⟩
      · exact malformed_of_check h
      · cases h
  | .mapping entries ending, h => by
      rw [value] at h
      rcases error_or_of_bind_eq_error h with h | ⟨ms, -, h⟩
      · exact malformed_of_members entries h
      rcases error_or_of_bind_eq_error h with h | ⟨⟨⟩, -, h⟩
      · exact malformed_of_check h
      · cases h
  | .unreadable, h | .broken, h => by
      cases h
      rfl

/-- Documents of which one has no value are malformed. -/
theorem malformed_of_values : (items : List Document) → values items = .error fault →
    fault = .malformed
  | d :: rest, h => by
      rw [values] at h
      rcases error_or_of_bind_eq_error h with h | ⟨v, -, h⟩
      · exact malformed_of_value d h
      rcases error_or_of_bind_eq_error h with h | ⟨vs, -, h⟩
      · exact malformed_of_values rest h
      · cases h

/-- Entries of which one has no value are malformed. -/
theorem malformed_of_members : (entries : List (String × Document)) →
    members entries = .error fault → fault = .malformed
  | (_, d) :: rest, h => by
      rw [members] at h
      rcases error_or_of_bind_eq_error h with h | ⟨v, -, h⟩
      · exact malformed_of_value d h
      rcases error_or_of_bind_eq_error h with h | ⟨ms, -, h⟩
      · exact malformed_of_members rest h
      · cases h
end

end Document

namespace Json

namespace Number

/-- The number that is read from the text of a number. -/
def again (n : Number) : Reading Number :=
  match n.retold with
  | .number m => .ok m
  | d => d.refuse

/-- The text of a number is read as a number, unless there is none of that size. -/
theorem retold_cases (n : Number) : (∃ m, n.retold = .number m) ∨ n.retold = .unreadable := by
  obtain ⟨parts, hparts⟩ := exists_scanParts n
  have hscan := hparts [] .nil
  rw [List.append_nil] at hscan
  rw [retold, scanNumber, hscan]
  cases hnumber : ofParts parts with
  | none => exact .inr (by simp only [hnumber])
  | some m => exact .inl ⟨m, by simp only [hnumber]⟩

/-- The value of what is read from the text of a number. -/
theorem value_retold (n : Number) : n.retold.value = Value.number <$> n.again := by
  unfold again
  rcases n.retold_cases with ⟨m, h⟩ | h
  · rw [h]
    rfl
  · rw [h]
    rfl

/-- A number is read back if its text is read as it. -/
theorem again_eq_ok_iff {n m : Number} : n.again = .ok m ↔ n.retold = .number m := by
  unfold again
  rcases n.retold_cases with ⟨k, h⟩ | h
  · simp [h]
  · simp [h, Document.refuse]

end Number

namespace Value

mutual
/-- The value that is read from the text of a value: its numbers are read once more. -/
def again : Value → Reading Value
  | .null => .ok .null
  | .bool value => .ok (.bool value)
  | .number value => .number <$> value.again
  | .string value => .ok (.string value)
  | .array items => .array <$> itemsAgain items
  | .object members => ofMembers <$> membersAgain members

/-- The items that are read from the texts of items. -/
def itemsAgain : List Value → Reading (List Value)
  | [] => .ok []
  | item :: rest => do
    let item ← again item
    let rest ← itemsAgain rest
    return item :: rest

/-- The members that are read from the texts of members. -/
def membersAgain : List (String × Value) → Reading (List (String × Value))
  | [] => .ok []
  | (key, value) :: rest => do
    let value ← again value
    let rest ← membersAgain rest
    return (key, value) :: rest
end

mutual
/-- What is read from the text of a value that does not lie too deep is the value with its numbers
read once more. -/
theorem value_retold_of_lt (depth : Nat) : (v : Value) → v.depth < depth →
    (v.retold depth).value = v.again
  | .null, _ | .bool _, _ | .string _, _ => rfl
  | .number n, _ => n.value_retold
  | .array items, h => by
      rw [Value.depth] at h
      rw [retold, if_pos (by omega), Document.value,
        values_retold_of_lt (depth - 1) items (by omega), again]
      cases itemsAgain items <;> rfl
  | .object members, h => by
      rw [Value.depth] at h
      rw [retold, if_pos (by omega), Document.value,
        members_retold_of_lt (depth - 1) members (by omega), again]
      cases membersAgain members <;> rfl

/-- What is read from the texts of items that do not lie too deep is the items with their numbers
read once more. -/
theorem values_retold_of_lt (depth : Nat) : (items : List Value) → itemsDepth items < depth →
    Document.values (itemsRetold depth items) = itemsAgain items
  | [], _ => rfl
  | item :: rest, h => by
      rw [itemsDepth] at h
      rw [itemsRetold, Document.values, value_retold_of_lt depth item (by omega),
        values_retold_of_lt depth rest (by omega), itemsAgain]

/-- What is read from the texts of members that do not lie too deep is the members with their
numbers read once more. -/
theorem members_retold_of_lt (depth : Nat) : (members : List (String × Value)) →
    membersDepth members < depth →
    Document.members (membersRetold depth members) = membersAgain members
  | [], _ => rfl
  | (key, v) :: rest, h => by
      rw [membersDepth] at h
      rw [membersRetold, Document.members, value_retold_of_lt depth v (by omega),
        members_retold_of_lt depth rest (by omega), membersAgain]
end

mutual
/-- What lies too deep has no value. -/
theorem value_retold_of_le (depth : Nat) (hpos : 0 < depth) : (v : Value) → depth ≤ v.depth →
    (v.retold depth).value = .error .malformed
  | .null, h | .bool _, h | .number _, h | .string _, h => absurd hpos (Nat.not_lt.2 h)
  | .array items, h => by
      rw [Value.depth] at h
      rw [retold]
      split
      next hbelow =>
        rw [Document.value, values_retold_of_le (depth - 1) (by omega) items (by omega)]
        rfl
      next => rfl
  | .object members, h => by
      rw [Value.depth] at h
      rw [retold]
      split
      next hbelow =>
        rw [Document.value, members_retold_of_le (depth - 1) (by omega) members (by omega)]
        rfl
      next => rfl

/-- Items one of which lies too deep have no values. -/
theorem values_retold_of_le (depth : Nat) (hpos : 0 < depth) : (items : List Value) →
    depth ≤ itemsDepth items → Document.values (itemsRetold depth items) = .error .malformed
  | [], h => absurd hpos (Nat.not_lt.2 h)
  | item :: rest, h => by
      rw [itemsDepth] at h
      rw [itemsRetold, Document.values]
      cases hitem : (item.retold depth).value with
      | error fault =>
          rw [Document.malformed_of_value _ hitem]
          rfl
      | ok w =>
          have hshallow : item.depth < depth := by
            refine Nat.lt_of_not_le fun hdeep => ?_
            rw [value_retold_of_le depth hpos item hdeep] at hitem
            cases hitem
          rw [values_retold_of_le depth hpos rest (by omega)]
          rfl

/-- Members one of which lies too deep have no values. -/
theorem members_retold_of_le (depth : Nat) (hpos : 0 < depth) :
    (members : List (String × Value)) → depth ≤ membersDepth members →
    Document.members (membersRetold depth members) = .error .malformed
  | [], h => absurd hpos (Nat.not_lt.2 h)
  | (key, v) :: rest, h => by
      rw [membersDepth] at h
      rw [membersRetold, Document.members]
      cases hv : (v.retold depth).value with
      | error fault =>
          rw [Document.malformed_of_value _ hv]
          rfl
      | ok w =>
          have hshallow : v.depth < depth := by
            refine Nat.lt_of_not_le fun hdeep => ?_
            rw [value_retold_of_le depth hpos v hdeep] at hv
            cases hv
          rw [members_retold_of_le depth hpos rest (by omega)]
          rfl
end

/-- Items that cannot all be read once more are malformed. -/
theorem malformed_of_itemsAgain {items : List Value} {fault : Fault}
    (h : itemsAgain items = .error fault) : fault = .malformed := by
  rw [← values_retold_of_lt _ items (Nat.lt_succ_self _)] at h
  exact Document.malformed_of_values _ h

/-- The items of an array are read once more, unless one of them lies too deep. -/
theorem list_value_retold (depth : Nat) (items : List Value) :
    Document.list Document.value ((Value.array items).retold depth) =
      if itemsDepth items + 1 < depth then itemsAgain items else .error .malformed := by
  rw [retold]
  by_cases hbelow : 1 < depth
  · rw [if_pos hbelow, Document.list, ← Document.values_eq_mapM]
    by_cases hshallow : itemsDepth items + 1 < depth
    · rw [if_pos hshallow, values_retold_of_lt (depth - 1) items (by omega)]
      cases itemsAgain items <;> rfl
    · rw [if_neg hshallow, values_retold_of_le (depth - 1) (by omega) items (by omega)]
      rfl
  · rw [if_neg hbelow, if_neg (by omega)]
    rfl

section Parts

variable {α β : Type} {x : Reading α} {f : α → β}

/-- What is made of something that is read is there exactly if that is. -/
theorem exists_map_eq_ok_iff : (∃ b, f <$> x = .ok b) ↔ ∃ a, x = .ok a := by
  cases x <;> simp [Functor.map, Except.map]

/-- What is made of something in a way that can be told is read exactly if that is. -/
theorem map_eq_ok_iff (hf : ∀ {a b}, f a = f b → a = b) {a : α} :
    f <$> x = .ok (f a) ↔ x = .ok a := by
  cases x with
  | error fault => exact iff_of_false nofun nofun
  | ok b => exact ⟨fun h => congrArg _ (hf (Except.ok.inj h)), fun h => by rw [h]; rfl⟩

/-- There is a list exactly if its first part and the others are there. -/
theorem exists_cons_iff {y : Reading (List β)} :
    (∃ bs, (do let a ← x; let as ← y; return f a :: as) = .ok bs) ↔
      (∃ a, x = .ok a) ∧ ∃ as, y = .ok as := by
  cases x <;> cases y <;> simp [bind, Except.bind, pure, Except.pure]

/-- A list is read exactly if its first part and the others are. -/
theorem cons_eq_ok_iff (hf : ∀ {a b}, f a = f b → a = b) {y : Reading (List β)} {a : α}
    {bs : List β} :
    (do let a ← x; let as ← y; return f a :: as) = .ok (f a :: bs) ↔ x = .ok a ∧ y = .ok bs := by
  cases x with
  | error fault => exact iff_of_false nofun nofun
  | ok b =>
      cases y with
      | error fault => exact iff_of_false nofun nofun
      | ok as =>
          constructor
          · intro h
            obtain ⟨hfirst, rfl⟩ := List.cons.inj (Except.ok.inj h)
            exact ⟨congrArg _ (hf hfirst), rfl⟩
          · rintro ⟨⟨⟩, ⟨⟩⟩
            rfl

end Parts

mutual
/-- A value is read once more as some value exactly if each of its numbers is read as one. -/
theorem exists_again_iff : (v : Value) →
    ((∃ w, v.again = .ok w) ↔ ∀ n ∈ v.numbers, ∃ m, n.again = .ok m)
  | .null | .bool _ | .string _ => iff_of_true ⟨_, rfl⟩ nofun
  | .number n => by
      rw [again, exists_map_eq_ok_iff, numbers, List.forall_mem_singleton]
  | .array items => by
      rw [again, exists_map_eq_ok_iff, numbers, exists_itemsAgain_iff items]
  | .object members => by
      rw [again, exists_map_eq_ok_iff, numbers, exists_membersAgain_iff members]

/-- Items are read once more as some items exactly if each of their numbers is read as one. -/
theorem exists_itemsAgain_iff : (items : List Value) →
    ((∃ ws, itemsAgain items = .ok ws) ↔ ∀ n ∈ itemsNumbers items, ∃ m, n.again = .ok m)
  | [] => iff_of_true ⟨_, rfl⟩ nofun
  | item :: rest => by
      rw [itemsNumbers, List.forall_mem_append, ← exists_again_iff item,
        ← exists_itemsAgain_iff rest]
      exact exists_cons_iff

/-- Members are read once more as some members exactly if each of their numbers is read as one. -/
theorem exists_membersAgain_iff : (members : List (String × Value)) →
    ((∃ ws, membersAgain members = .ok ws) ↔ ∀ n ∈ membersNumbers members, ∃ m, n.again = .ok m)
  | [] => iff_of_true ⟨_, rfl⟩ nofun
  | (key, v) :: rest => by
      rw [membersNumbers, List.forall_mem_append, ← exists_again_iff v,
        ← exists_membersAgain_iff rest]
      exact exists_cons_iff
end

/-- Members keep their keys. -/
theorem keys_membersAgain {members ws : List (String × Value)}
    (h : membersAgain members = .ok ws) : ws.map Prod.fst = members.map Prod.fst := by
  induction members generalizing ws with
  | nil =>
      cases h
      rfl
  | cons member rest ih =>
      obtain ⟨key, v⟩ := member
      rw [membersAgain] at h
      obtain ⟨w, -, h⟩ := exists_of_bind_eq_ok h
      obtain ⟨others, hothers, h⟩ := exists_of_bind_eq_ok h
      cases h
      rw [List.map_cons, List.map_cons, ih hothers]

/-- An object is the same again exactly if its members are. -/
theorem ofMembers_again_iff {members : List (String × Value)} (h : KeysIncrease members) :
    ofMembers <$> membersAgain members = .ok (.object members) ↔
      membersAgain members = .ok members := by
  constructor
  · intro hagain
    cases hmembers : membersAgain members with
    | error fault =>
        rw [hmembers] at hagain
        cases hagain
    | ok ws =>
        have hkeys : KeysIncrease ws := by
          refine keysIncrease_of_keys ?_
          rw [keys_membersAgain hmembers]
          exact List.pairwise_map.2 h
        rw [hmembers] at hagain
        have hsame : ofMembers ws = .object members := Except.ok.inj hagain
        rw [ofMembers_of_perm hkeys (List.Perm.refl ws)] at hsame
        cases hsame
        rfl
  · intro hagain
    rw [hagain]
    exact congrArg _ (ofMembers_of_perm h (List.Perm.refl members))

mutual
/-- A value is the same again exactly if its numbers are. -/
theorem again_eq_self_iff : (v : Value) → v.Ordered →
    (v.again = .ok v ↔ ∀ n ∈ v.numbers, n.again = .ok n)
  | .null, _ | .bool _, _ | .string _, _ => iff_of_true rfl nofun
  | .number n, _ => by
      rw [again, map_eq_ok_iff Value.number.inj, numbers, List.forall_mem_singleton]
  | .array items, h => by
      rw [again, map_eq_ok_iff Value.array.inj, numbers, itemsAgain_eq_self_iff items h]
  | .object members, h => by
      rw [again, ofMembers_again_iff h.1, numbers, membersAgain_eq_self_iff members h.2]

/-- Items are the same again exactly if their numbers are. -/
theorem itemsAgain_eq_self_iff : (items : List Value) → AllOrdered items →
    (itemsAgain items = .ok items ↔ ∀ n ∈ itemsNumbers items, n.again = .ok n)
  | [], _ => iff_of_true rfl nofun
  | item :: rest, h => by
      rw [itemsNumbers, List.forall_mem_append, ← again_eq_self_iff item h.1,
        ← itemsAgain_eq_self_iff rest h.2]
      exact cons_eq_ok_iff id

/-- Members are the same again exactly if their numbers are. -/
theorem membersAgain_eq_self_iff : (members : List (String × Value)) → MembersOrdered members →
    (membersAgain members = .ok members ↔ ∀ n ∈ membersNumbers members, n.again = .ok n)
  | [], _ => iff_of_true rfl nofun
  | (key, v) :: rest, h => by
      rw [membersNumbers, List.forall_mem_append, ← again_eq_self_iff v h.1,
        ← membersAgain_eq_self_iff rest h.2]
      exact cons_eq_ok_iff fun heq => (Prod.mk.inj heq).2
end

end Value

end Json

end ServiceRouting
