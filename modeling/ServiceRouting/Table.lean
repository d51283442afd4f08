/-!
# Sorted tables

A finite map from text keys to values, held as a list of entries whose keys strictly increase.
Keys are ordered by code points, which is also the order of their UTF-8 bytes. Each operation is
described by what a lookup answers afterwards (`get?_insert`, `get?_erase`), and the entries of a
table are read off its lookups (`mem_entries_iff`), so two tables with the same lookups are equal
(`Table.ext_get?`).
-/

namespace ServiceRouting

universe u v

/-- Puts `key` in its place among sorted entries, replacing the value it had. -/
def insertSorted {α : Type u} (key : String) (value : α) :
    List (String × α) → List (String × α)
  | [] => [(key, value)]
  | (k, v) :: rest =>
    if key < k then (key, value) :: (k, v) :: rest
    else if key = k then (key, value) :: rest
    else (k, v) :: insertSorted key value rest

/-- An entry after an insertion is the new one or an old one. -/
theorem mem_insertSorted {α : Type u} {key : String} {value : α} {entry : String × α}
    {entries : List (String × α)} (h : entry ∈ insertSorted key value entries) :
    entry = (key, value) ∨ entry ∈ entries := by
  induction entries with
  | nil => simpa [insertSorted] using h
  | cons head rest ih =>
    obtain ⟨k, v⟩ := head
    rw [insertSorted] at h
    split at h
    · simpa using h
    · split at h
      · rcases List.mem_cons.1 h with h | h
        · exact Or.inl h
        · exact Or.inr (List.mem_cons_of_mem _ h)
      · rcases List.mem_cons.1 h with h | h
        · exact Or.inr (h ▸ List.mem_cons_self)
        · exact (ih h).imp id (List.mem_cons_of_mem _)

/-- The keys of a list of entries strictly increase. -/
def KeysIncrease {α : Type u} (entries : List (String × α)) : Prop :=
  entries.Pairwise fun a b => a.1 < b.1

/-- Entries are in order if their keys are. -/
theorem keysIncrease_of_keys {α : Type u} {entries : List (String × α)}
    (h : (entries.map Prod.fst).Pairwise (· < ·)) : KeysIncrease entries :=
  List.pairwise_map.1 h

/-- Entries in order have keys of their own. -/
theorem KeysIncrease.keys_ne {α : Type u} {entries : List (String × α)} (h : KeysIncrease entries) :
    entries.Pairwise fun a b => a.1 ≠ b.1 := by
  refine List.Pairwise.imp (fun {a b} hlt heq => ?_) h
  rw [heq] at hlt
  exact String.lt_irrefl b.1 hlt

/-- Two different texts are ordered one way or the other. -/
theorem lt_of_not_lt_of_ne {a b : String} (hlt : ¬ a < b) (hne : a ≠ b) : b < a := by
  refine Decidable.byContradiction fun h => hne ?_
  exact String.le_antisymm (String.not_lt.1 h) (String.not_lt.1 hlt)

/-- An insertion keeps the keys in increasing order. -/
theorem keysIncrease_insertSorted {α : Type u} (key : String) (value : α)
    {entries : List (String × α)} (h : KeysIncrease entries) :
    KeysIncrease (insertSorted key value entries) := by
  induction entries with
  | nil => simp [insertSorted, KeysIncrease]
  | cons head rest ih =>
    obtain ⟨k, v⟩ := head
    have hrest : KeysIncrease rest := List.Pairwise.of_cons h
    have hhead : ∀ e ∈ rest, k < e.1 := (List.pairwise_cons.1 h).1
    rw [insertSorted]
    split
    next hlt =>
      refine List.pairwise_cons.2 ⟨fun e he => ?_, h⟩
      rcases List.mem_cons.1 he with rfl | he
      · exact hlt
      · exact String.lt_trans hlt (hhead e he)
    next hlt =>
      split
      next heq => subst heq; exact List.pairwise_cons.2 ⟨hhead, hrest⟩
      next hne =>
        refine List.pairwise_cons.2 ⟨fun e he => ?_, ih hrest⟩
        rcases mem_insertSorted he with rfl | he
        · exact lt_of_not_lt_of_ne hlt hne
        · exact hhead e he

/-- An entry with a new key is put among the others. -/
theorem insertSorted_perm {α : Type u} {key : String} {value : α} {entries : List (String × α)}
    (h : ∀ entry ∈ entries, entry.1 ≠ key) :
    (insertSorted key value entries).Perm ((key, value) :: entries) := by
  induction entries with
  | nil => exact List.Perm.refl _
  | cons entry rest ih =>
    obtain ⟨k, v⟩ := entry
    have hne : key ≠ k := Ne.symm (h (k, v) List.mem_cons_self)
    have hrest := ih fun other hother => h other (List.mem_cons_of_mem _ hother)
    rw [insertSorted, if_neg hne]
    split
    · exact List.Perm.refl _
    · exact (hrest.cons (k, v)).trans (List.Perm.swap _ _ rest)

/-- A map from text to `α` whose entries are listed by increasing key. -/
structure Table (α : Type u) where
  /-- The entries, by increasing key. -/
  entries : List (String × α)
  /-- Every key occurs once and keys increase. -/
  increasing : KeysIncrease entries
deriving DecidableEq

namespace Table

variable {α : Type u} {β : Type v}

/-- The table without entries. -/
def empty : Table α := ⟨[], List.Pairwise.nil⟩

instance : EmptyCollection (Table α) := ⟨empty⟩
instance : Inhabited (Table α) := ⟨empty⟩

/-- The value of the first entry with this key. -/
def find? (key : String) : List (String × α) → Option α
  | [] => none
  | (k, v) :: rest => if key = k then some v else find? key rest

/-- The value stored under a key. -/
def get? (t : Table α) (key : String) : Option α := find? key t.entries

/-- Whether a key has an entry. -/
def contains (t : Table α) (key : String) : Bool := (t.get? key).isSome

/-- Stores a value under a key, replacing the value it had. -/
def insert (t : Table α) (key : String) (value : α) : Table α :=
  ⟨insertSorted key value t.entries, keysIncrease_insertSorted key value t.increasing⟩

/-- Removes the entry of a key. -/
def erase (t : Table α) (key : String) : Table α :=
  ⟨t.entries.filter fun e => e.1 ≠ key, List.Pairwise.filter _ t.increasing⟩

/-- Applies a function to the value under a key, if there is one. -/
def modify (t : Table α) (key : String) (f : α → α) : Table α :=
  match t.get? key with
  | some value => t.insert key (f value)
  | none => t

/-- The entries inserted one by one: of two with the same key the later stays. -/
def ofList (entries : List (String × α)) : Table α :=
  entries.foldl (fun t e => t.insert e.1 e.2) empty

/-- The entries by increasing key. -/
def toList (t : Table α) : List (String × α) := t.entries

/-- The keys in increasing order. -/
def keys (t : Table α) : List String := t.entries.map Prod.fst

/-- The values by increasing key. -/
def values (t : Table α) : List α := t.entries.map Prod.snd

/-- The number of entries. -/
def size (t : Table α) : Nat := t.entries.length

/-- Whether the table has no entry. -/
def isEmpty (t : Table α) : Bool := t.entries.isEmpty

/-- An insertion changes the lookup of its key alone. -/
theorem find?_insertSorted (key other : String) (value : α) (entries : List (String × α)) :
    find? other (insertSorted key value entries) =
      if other = key then some value else find? other entries := by
  induction entries with
  | nil => simp [insertSorted, find?]
  | cons head rest ih =>
    obtain ⟨k, v⟩ := head
    rw [insertSorted]
    split
    · simp [find?]
    · split
      next heq => subst heq; by_cases h : other = key <;> simp [find?, h]
      next hne =>
        by_cases hk : other = k
        · have : other ≠ key := fun h => hne (h ▸ hk)
          simp [find?, hk, hk ▸ this]
        · simp [find?, hk, ih]

/-- Dropping the entries of a key changes the lookup of that key alone. -/
theorem find?_filter_ne (key other : String) (entries : List (String × α)) :
    find? other (entries.filter fun e => e.1 ≠ key) =
      if other = key then none else find? other entries := by
  induction entries with
  | nil => simp [find?]
  | cons head rest ih =>
    obtain ⟨k, v⟩ := head
    by_cases hk : k = key
    · subst hk
      by_cases h : other = k <;> simp_all [find?]
    · by_cases h : other = k
      · subst h; simp [find?, hk]
      · simp_all [find?]

/-- After an insertion its key has the new value and all other keys have what they had. -/
theorem get?_insert (t : Table α) (key other : String) (value : α) :
    (t.insert key value).get? other = if other = key then some value else t.get? other :=
  find?_insertSorted key other value t.entries

/-- The inserted value is found. -/
@[simp] theorem get?_insert_self (t : Table α) (key : String) (value : α) :
    (t.insert key value).get? key = some value := by
  simp [get?_insert]

/-- An insertion leaves other keys alone. -/
theorem get?_insert_of_ne (t : Table α) {key other : String} (value : α) (h : other ≠ key) :
    (t.insert key value).get? other = t.get? other := by
  simp [get?_insert, h]

/-- After a removal its key has no value and all other keys have what they had. -/
theorem get?_erase (t : Table α) (key other : String) :
    (t.erase key).get? other = if other = key then none else t.get? other :=
  find?_filter_ne key other t.entries

/-- A removed key is not found. -/
@[simp] theorem get?_erase_self (t : Table α) (key : String) : (t.erase key).get? key = none := by
  simp [get?_erase]

/-- A removal leaves other keys alone. -/
theorem get?_erase_of_ne (t : Table α) {key other : String} (h : other ≠ key) :
    (t.erase key).get? other = t.get? other := by
  simp [get?_erase, h]

/-- After a change of the value under a key the key has the changed value, if it had one. -/
@[simp] theorem get?_modify_self (t : Table α) (key : String) (f : α → α) :
    (t.modify key f).get? key = (t.get? key).map f := by
  unfold modify
  cases h : t.get? key with
  | none => exact h
  | some value => exact t.get?_insert_self key (f value)

/-- A change of the value under a key leaves other keys alone. -/
theorem get?_modify_of_ne (t : Table α) {key other : String} (f : α → α) (h : other ≠ key) :
    (t.modify key f).get? other = t.get? other := by
  unfold modify
  split
  next value _ => exact t.get?_insert_of_ne (f value) h
  next => rfl

/-- The empty table has no values. -/
@[simp] theorem get?_empty (key : String) : (empty : Table α).get? key = none := rfl

/-- Among entries with increasing keys every entry is found. -/
theorem find?_of_mem {entries : List (String × α)} (h : KeysIncrease entries) {key : String}
    {value : α} (hmem : (key, value) ∈ entries) : find? key entries = some value := by
  induction entries with
  | nil => simp at hmem
  | cons head rest ih =>
    obtain ⟨k, v⟩ := head
    rcases List.mem_cons.1 hmem with heq | hmem
    · simp only [Prod.mk.injEq] at heq
      simp [find?, heq.1, heq.2]
    · have hlt : k < key := (List.pairwise_cons.1 h).1 _ hmem
      have hne : key ≠ k := fun he => String.lt_irrefl key (he ▸ hlt)
      simp [find?, hne, ih h.of_cons hmem]

/-- What a lookup finds is an entry. -/
theorem mem_of_find? {entries : List (String × α)} {key : String} {value : α}
    (h : find? key entries = some value) : (key, value) ∈ entries := by
  induction entries with
  | nil => simp [find?] at h
  | cons head rest ih =>
    obtain ⟨k, v⟩ := head
    rw [find?] at h
    split at h
    next heq => simp_all
    next => exact List.mem_cons_of_mem _ (ih h)

/-- A key is not found if no entry has it. -/
theorem find?_eq_none_iff {entries : List (String × α)} {key : String} :
    find? key entries = none ↔ ∀ entry ∈ entries, entry.1 ≠ key := by
  induction entries with
  | nil => simp [find?]
  | cons head rest ih =>
    obtain ⟨k, v⟩ := head
    by_cases hk : key = k
    · simp [find?, hk]
    · simp [find?, hk, ih, Ne.symm hk]

/-- The one value that entries have under a key is found. -/
theorem find?_of_unique {entries : List (String × α)} {key : String} {value : α}
    (hmem : (key, value) ∈ entries) (hunique : ∀ other, (key, other) ∈ entries → other = value) :
    find? key entries = some value := by
  cases hfind : find? key entries with
  | none => exact absurd rfl (find?_eq_none_iff.1 hfind _ hmem)
  | some other => rw [hunique other (mem_of_find? hfind)]

/-- The entries of a table are exactly its successful lookups. -/
theorem mem_entries_iff (t : Table α) {key : String} {value : α} :
    (key, value) ∈ t.entries ↔ t.get? key = some value :=
  ⟨find?_of_mem t.increasing, mem_of_find?⟩

/-- A key without a value is new to a table. -/
theorem entries_insert_perm (t : Table α) {key : String} (value : α) (h : t.get? key = none) :
    (t.insert key value).entries.Perm ((key, value) :: t.entries) := by
  refine insertSorted_perm fun entry hentry heq => ?_
  have hfound : t.get? key = some entry.2 := t.mem_entries_iff.1 (heq ▸ hentry)
  rw [h] at hfound
  cases hfound

/-- Two sorted lists of entries with the same lookups are equal. -/
theorem entries_ext {xs ys : List (String × α)} (hx : KeysIncrease xs) (hy : KeysIncrease ys)
    (h : ∀ key, find? key xs = find? key ys) : xs = ys := by
  induction xs generalizing ys with
  | nil =>
    cases ys with
    | nil => rfl
    | cons e es => have := h e.1; simp [find?] at this
  | cons a as ih =>
    obtain ⟨ka, va⟩ := a
    cases ys with
    | nil => have := h ka; simp [find?] at this
    | cons b bs =>
      obtain ⟨kb, vb⟩ := b
      have hkey : ka = kb := by
        refine Decidable.byContradiction fun hne => ?_
        have h1 := h ka
        have h2 := h kb
        simp only [find?, if_true, hne, Ne.symm hne, if_false] at h1 h2
        have hb := (List.pairwise_cons.1 hy).1 _ (mem_of_find? h1.symm)
        have ha := (List.pairwise_cons.1 hx).1 _ (mem_of_find? h2)
        exact String.lt_asymm ha hb
      subst hkey
      have hval : va = vb := by simpa [find?] using h ka
      subst hval
      refine congrArg _ (ih hx.of_cons hy.of_cons fun key => ?_)
      by_cases hk : key = ka
      · subst hk
        have hnone : ∀ {es : List (String × α)}, KeysIncrease ((key, va) :: es) →
            find? key es = none := by
          intro es hes
          cases hf : find? key es with
          | none => rfl
          | some w =>
            exact absurd ((List.pairwise_cons.1 hes).1 _ (mem_of_find? hf)) (String.lt_irrefl key)
        rw [hnone hx, hnone hy]
      · simpa [find?, hk] using h key

/-- A table is determined by its lookups. -/
theorem ext_get? {s t : Table α} (h : ∀ key, s.get? key = t.get? key) : s = t := by
  obtain ⟨xs, hx⟩ := s
  obtain ⟨ys, hy⟩ := t
  have := entries_ext hx hy h
  subst this
  rfl

/-- Entries with keys of their own are all there after they have been inserted one by one. -/
theorem foldl_insert_perm (t : Table α) {entries : List (String × α)}
    (h : (t.entries ++ entries).Pairwise fun a b => a.1 ≠ b.1) :
    (entries.foldl (fun t e => t.insert e.1 e.2) t).entries.Perm (t.entries ++ entries) := by
  induction entries generalizing t with
  | nil => simp
  | cons entry rest ih =>
    have hnew : ∀ other ∈ t.entries, other.1 ≠ entry.1 := fun other hother =>
      (List.pairwise_append.1 h).2.2 other hother entry List.mem_cons_self
    have hinsert : ((t.insert entry.1 entry.2).entries ++ rest).Perm (t.entries ++ entry :: rest) :=
      ((insertSorted_perm hnew).append_right rest).trans List.perm_middle.symm
    exact (ih _ ((hinsert.pairwise_iff Ne.symm).2 h)).trans hinsert

/-- The entries of a table, inserted in any order, make up the table. -/
theorem ofList_of_perm {t : Table α} {entries : List (String × α)} (h : entries.Perm t.entries) :
    ofList entries = t := by
  have hkeys := t.increasing.keys_ne
  have hperm : (ofList entries).entries.Perm t.entries :=
    (foldl_insert_perm empty ((h.pairwise_iff Ne.symm).2 hkeys)).trans h
  refine ext_get? fun key => Option.ext fun value => ?_
  rw [← mem_entries_iff, ← mem_entries_iff, hperm.mem_iff]

/-- The entries of a table made of a list are these, put in their places one by one. -/
theorem entries_ofList (entries : List (String × α)) :
    (ofList entries).entries =
      entries.foldl (fun sorted e => insertSorted e.1 e.2 sorted) [] := by
  have hstep : ∀ t : Table α, (entries.foldl (fun t e => t.insert e.1 e.2) t).entries =
      entries.foldl (fun sorted e => insertSorted e.1 e.2 sorted) t.entries := by
    induction entries with
    | nil => exact fun t => rfl
    | cons entry rest ih => exact fun t => ih (t.insert entry.1 entry.2)
  exact hstep empty

/-- An entry of a table made of a list is one of the list. -/
theorem mem_of_mem_ofList {entries : List (String × α)} {entry : String × α}
    (h : entry ∈ (ofList entries).entries) : entry ∈ entries := by
  have hstep : ∀ t : Table α, entry ∈ (entries.foldl (fun t e => t.insert e.1 e.2) t).entries →
      entry ∈ t.entries ∨ entry ∈ entries := by
    clear h
    induction entries with
    | nil => exact fun t h => .inl h
    | cons first rest ih =>
      intro t h
      rcases ih (t.insert first.1 first.2) h with h | h
      · exact (mem_insertSorted h).elim (fun heq => .inr (heq ▸ List.mem_cons_self)) .inl
      · exact .inr (List.mem_cons_of_mem _ h)
  exact (hstep empty h).resolve_left List.not_mem_nil

end Table

end ServiceRouting
