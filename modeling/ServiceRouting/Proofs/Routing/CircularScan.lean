import ServiceRouting.Routing.CircularScan

/-!
# What a circular scan finds

A scan from any start finds an entry that counts an instance, if there is one, and every such entry
is found from its own place.
-/

namespace ServiceRouting

variable {entries : List (NodeId × Nat)} {start : Nat}

/-- A scan gives the node of an entry that counts an instance. -/
theorem exists_of_circularScan {id : NodeId} (h : circularScan entries start = some id) :
    ∃ count, (id, count) ∈ entries ∧ 0 < count := by
  have of_find : ∀ {part : List (NodeId × Nat)} {entry}, (∀ e ∈ part, e ∈ entries) →
      part.find? isHosting = some entry → ∃ count, (entry.1, count) ∈ entries ∧ 0 < count := by
    intro part entry hpart hfound
    refine ⟨entry.2, hpart entry (List.mem_of_find?_eq_some hfound), ?_⟩
    simpa [isHosting] using List.find?_some hfound
  unfold circularScan at h
  split at h
  next entry hfound =>
    obtain rfl := Option.some.inj h
    exact of_find (fun _ => List.mem_of_mem_drop) hfound
  next =>
    obtain ⟨entry, hfound, rfl⟩ := Option.map_eq_some_iff.1 h
    exact of_find (fun _ => List.mem_of_mem_take) hfound

/-- An entry that counts an instance is found from its own place. -/
theorem circularScan_of_isHosting {entry : NodeId × Nat} (hentry : entries[start]? = some entry)
    (h : isHosting entry = true) : circularScan entries start = some entry.1 := by
  obtain ⟨hlt, rfl⟩ := List.getElem?_eq_some_iff.1 hentry
  rw [circularScan, List.drop_eq_getElem_cons hlt, List.find?_cons_of_pos h]

/-- A scan finds nothing exactly if no entry counts an instance. -/
theorem circularScan_eq_none_iff :
    circularScan entries start = none ↔ ∀ entry ∈ entries, isHosting entry = false := by
  constructor
  · intro h entry hentry
    unfold circularScan at h
    split at h
    next => cases h
    next hrest =>
      have hfront := Option.map_eq_none_iff.1 h
      rw [List.find?_eq_none] at hrest hfront
      -- The entry lies before the start or from there on.
      rw [← List.take_append_drop start entries, List.mem_append] at hentry
      rcases hentry with hentry | hentry
      · have hmem : entry ∈ entries.take (start + 1) :=
          (List.take_subset_take_left entries (Nat.le_succ start)) hentry
        simpa using hfront entry hmem
      · simpa using hrest entry hentry
  · intro h
    cases hfound : circularScan entries start with
    | none => rfl
    | some id =>
        obtain ⟨count, hentry, hpos⟩ := exists_of_circularScan hfound
        have hnot := h _ hentry
        simp only [isHosting, decide_eq_false_iff_not] at hnot
        exact absurd hpos hnot

end ServiceRouting
