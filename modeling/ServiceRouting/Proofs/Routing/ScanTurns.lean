import Mathlib.Data.List.Rotate
import Mathlib.Data.List.TakeWhile
import ServiceRouting.Proofs.Routing.CircularScan
import ServiceRouting.Routing.Selector

/-!
# The turns of a circular scan

A scan of the entries of a topology goes around the circle once from its start. Read
`Topology.ScannedInTurn` first. An entry without an instance passes its turn on, so an entry with
instances is found from its own place and from those of the entries without instances right before
it (`starts_of_isHosting`); how many instances it counts does not matter.
-/

namespace ServiceRouting

/-- From how many places a scan finds a node. -/
def starts (entries : List (NodeId × Nat)) (id : NodeId) : Nat :=
  (List.range entries.length).countP fun start => circularScan entries start = some id

/-- The entries without an instance that come right before a place in the circle, backwards. -/
def passedBefore (entries : List (NodeId × Nat)) (place : Nat) : List (NodeId × Nat) :=
  (entries.rotate place).reverse.takeWhile fun entry => !isHosting entry

/-- What scans of a topology find. -/
structure Topology.ScannedInTurn (t : Topology) : Prop where
  /-- A scan finds nothing exactly if no entry counts an instance. -/
  nothing : ∀ start, circularScan t.entries start = none ↔ ∀ entry ∈ t.entries, entry.2 = 0
  /-- A scan from one of the entries finds the first one with instances in the circle that begins
  there. -/
  around : ∀ start, start < t.entries.length →
    circularScan t.entries start = ((t.entries.rotate start).find? isHosting).map (·.1)
  /-- A scan from behind the last entry begins at the front. -/
  behind : ∀ start, t.entries.length ≤ start →
    circularScan t.entries start = (t.entries.find? isHosting).map (·.1)
  /-- An entry with instances is found from its own place and from those of the entries without
  instances right before it. -/
  turns : ∀ place entry, t.entries[place]? = some entry → 0 < entry.2 →
    starts t.entries entry.1 = (passedBefore t.entries place).length + 1
  /-- If there is an entry with instances, every place is the turn of one of them. -/
  all : (∃ entry ∈ t.entries, 0 < entry.2) →
    (t.entries.filter isHosting).foldr (fun entry sum => starts t.entries entry.1 + sum) 0 =
      t.entries.length
  /-- Another topology of the same nodes that has its instances on the same of them is scanned
  alike. -/
  sizeless : ∀ u : Topology, u.keys = t.keys → (∀ id, u.hosts id = t.hosts id) →
    ∀ start, circularScan u.entries start = circularScan t.entries start

variable {entries : List (NodeId × Nat)} {entry : NodeId × Nat} {start place : Nat} {id : NodeId}

/-- A scan is a search of the entries from the start on and then of those up to the start. -/
theorem circularScan_eq_find? (entries : List (NodeId × Nat)) (start : Nat) :
    circularScan entries start =
      ((entries.drop start ++ entries.take (start + 1)).find? isHosting).map (·.1) := by
  rw [circularScan, List.find?_append]
  cases (entries.drop start).find? isHosting with
  | none => rfl
  | some entry => rfl

/-- The entry at the start need not be looked at twice. -/
theorem circularScan_eq_rotate (h : start < entries.length) :
    circularScan entries start = ((entries.rotate start).find? isHosting).map (·.1) := by
  rw [circularScan_eq_find?, List.rotate_eq_drop_append_take (Nat.le_of_lt h),
    List.find?_append, List.find?_append]
  cases hrest : (entries.drop start).find? isHosting with
  | some entry => rfl
  | none =>
      have hpassed : isHosting entries[start] = false := by
        have hmem : entries[start] ∈ entries.drop start := by
          rw [List.drop_eq_getElem_cons h]
          exact List.mem_cons_self
        simpa using List.find?_eq_none.1 hrest _ hmem
      have hnone : [entries[start]].find? isHosting = none := by simp [hpassed]
      rw [List.take_succ_eq_append_getElem h, List.find?_append, hnone, Option.or_none]

/-- Behind the last entry a scan begins at the front. -/
theorem circularScan_of_length_le (h : entries.length ≤ start) :
    circularScan entries start = (entries.find? isHosting).map (·.1) := by
  rw [circularScan_eq_find?, List.drop_of_length_le h, List.nil_append,
    List.take_of_length_le (Nat.le_succ_of_le h)]

/-- Entries that are turned are scanned as before, from a place that is turned as well. -/
theorem circularScan_rotate (entries : List (NodeId × Nat)) (turn : Nat)
    (h : start < entries.length) :
    circularScan (entries.rotate turn) start =
      circularScan entries ((start + turn) % entries.length) := by
  have hlt : (start + turn) % entries.length < entries.length :=
    Nat.mod_lt _ (Nat.zero_lt_of_lt h)
  rw [circularScan_eq_rotate (by rwa [List.length_rotate]), circularScan_eq_rotate hlt,
    List.rotate_rotate, List.rotate_mod, Nat.add_comm turn]

/-- A node is found from as many places after the entries are turned. -/
theorem starts_rotate (entries : List (NodeId × Nat)) (turn : Nat) (id : NodeId) :
    starts (entries.rotate turn) id = starts entries id := by
  have hplaces : (List.range entries.length).rotate turn =
      (List.range entries.length).map fun start => (start + turn) % entries.length := by
    refine List.ext_getElem (by simp) fun i hi _ => ?_
    simp [List.getElem_rotate]
  calc starts (entries.rotate turn) id
      = (List.range entries.length).countP fun start =>
          circularScan entries ((start + turn) % entries.length) = some id := by
        rw [starts, List.length_rotate]
        refine List.countP_congr fun start hstart => ?_
        rw [circularScan_rotate entries turn (List.mem_range.1 hstart)]
    _ = ((List.range entries.length).rotate turn).countP fun start =>
          circularScan entries start = some id := by
        rw [hplaces, List.countP_map]
        rfl
    _ = starts entries id := (List.rotate_perm _ turn).countP_eq _

/-- Of entries that end with instances a scan finds the last one if all entries from its start on
pass. -/
theorem circularScan_concat {front : List (NodeId × Nat)} (hentry : isHosting entry = true)
    (h : start ≤ front.length) :
    circularScan (front ++ [entry]) start =
      some (((front.drop start).find? isHosting).getD entry).1 := by
  have hlast : [entry].find? isHosting = some entry := List.find?_cons_of_pos hentry
  rw [circularScan, List.drop_append_of_le_length h, List.find?_append, hlast]
  cases (front.drop start).find? isHosting with
  | none => rfl
  | some found => rfl

/-- All entries pass exactly if none of them is found. -/
theorem takeWhile_passed_eq_self_iff (front : List (NodeId × Nat)) :
    (front.reverse.takeWhile fun entry => !isHosting entry) = front.reverse ↔
      front.find? isHosting = none := by
  simp [List.takeWhile_eq_self_iff, List.find?_eq_none]

/-- The places from which all entries pass are those behind the last entry that does not. -/
theorem countP_passed (front : List (NodeId × Nat)) :
    (List.range (front.length + 1)).countP
        (fun start => ((front.drop start).find? isHosting).isNone) =
      (front.reverse.takeWhile fun entry => !isHosting entry).length + 1 := by
  induction front with
  | nil => rfl
  | cons first rest ih =>
      -- The places behind the first entry are those of the others.
      have hothers : (List.range (rest.length + 1)).countP
          ((fun start => (((first :: rest).drop start).find? isHosting).isNone) ∘ Nat.succ) =
            (rest.reverse.takeWhile fun entry => !isHosting entry).length + 1 := ih
      have hwhole : (rest.reverse.takeWhile fun entry => !isHosting entry).length =
          rest.reverse.length ↔ rest.find? isHosting = none := by
        rw [← takeWhile_passed_eq_self_iff]
        exact ⟨(List.takeWhile_prefix _).eq_of_length, congrArg List.length⟩
      rw [List.length_cons, List.range_succ_eq_map, List.countP_cons, List.countP_map, hothers,
        List.drop_zero, List.reverse_cons, List.takeWhile_append]
      simp only [hwhole]
      by_cases hrest : rest.find? isHosting = none
      · have hlength := hwhole.2 hrest
        cases hfirst : isHosting first <;> simp [hrest, hfirst, hlength]
      · cases hfirst : isHosting first <;> simp [hrest, hfirst]

/-- If the last entry has instances and its node is listed once, the node is found from the place of
the entry and from those of the entries without instances right before it. -/
theorem starts_concat (front : List (NodeId × Nat)) (hentry : isHosting entry = true)
    (hnew : ∀ other ∈ front, other.1 ≠ entry.1) :
    starts (front ++ [entry]) entry.1 =
      (front.reverse.takeWhile fun other => !isHosting other).length + 1 := by
  rw [← countP_passed, starts, List.length_append, List.length_singleton]
  refine List.countP_congr fun start hstart => ?_
  have hle : start ≤ front.length := Nat.le_of_lt_succ (List.mem_range.1 hstart)
  rw [circularScan_concat hentry hle]
  cases hfound : (front.drop start).find? isHosting with
  | none => simp
  | some found =>
      have hne := hnew found (List.mem_of_mem_drop (List.mem_of_find?_eq_some hfound))
      simp [hne]

/-- An entry with instances is found from its own place and from those of the entries without
instances right before it, if no other entry is of the same node. -/
theorem starts_of_isHosting (hkeys : KeysIncrease entries) (hplace : entries[place]? = some entry)
    (hentry : isHosting entry = true) :
    starts entries entry.1 = (passedBefore entries place).length + 1 := by
  obtain ⟨hlt, hget⟩ := List.getElem?_eq_some_iff.1 hplace
  have hdrop : entries.drop place = entry :: entries.drop (place + 1) :=
    hget ▸ List.drop_eq_getElem_cons hlt
  -- In the circle that begins behind the entry, the entry comes last.
  obtain ⟨front, hfront⟩ : ∃ front, entries.rotate place = entry :: front :=
    ⟨_, by rw [List.rotate_eq_drop_append_take (Nat.le_of_lt hlt), hdrop, List.cons_append]⟩
  have hturned : entries.rotate (place + 1) = front ++ [entry] := by
    rw [← List.rotate_rotate, hfront, List.rotate_cons_succ, List.rotate_zero]
  have hapart : (entry :: front).Pairwise fun a b => a.1 ≠ b.1 := by
    rw [← hfront]
    exact ((List.rotate_perm entries place).pairwise_iff Ne.symm).2 hkeys.keys_ne
  have hnew : ∀ other ∈ front, other.1 ≠ entry.1 := fun other hother =>
    ((List.pairwise_cons.1 hapart).1 other hother).symm
  have hpassed : passedBefore entries place =
      front.reverse.takeWhile fun other => !isHosting other := by
    have hstop : [entry].takeWhile (fun other => !isHosting other) = [] := by simp [hentry]
    rw [passedBefore, hfront, List.reverse_cons, List.takeWhile_append, hstop, List.append_nil]
    split
    next hwhole => exact ((List.takeWhile_prefix _).eq_of_length hwhole).symm
    next => rfl
  rw [hpassed, ← starts_rotate entries (place + 1), hturned, starts_concat front hentry hnew]

/-- Places from each of which a scan finds one of some nodes are counted once over these nodes. -/
theorem sum_countP_scans {nodes : List (NodeId × Nat)}
    (hapart : nodes.Pairwise fun a b => a.1 ≠ b.1) (places : List Nat)
    (hfinds : ∀ start ∈ places, ∃ node ∈ nodes, circularScan entries start = some node.1) :
    nodes.foldr (fun node sum =>
      places.countP (fun start => circularScan entries start = some node.1) + sum) 0 =
        places.length := by
  induction nodes generalizing places with
  | nil =>
      have hnil : places = [] := List.eq_nil_iff_forall_not_mem.2 fun start hstart => by
        obtain ⟨node, hnode, -⟩ := hfinds start hstart
        exact List.not_mem_nil hnode
      rw [hnil, List.foldr_nil, List.length_nil]
  | cons first rest ih =>
      obtain ⟨hfirst, hrest⟩ := List.pairwise_cons.1 hapart
      -- Of the places from which the first node is not found, none is counted for it.
      let others := places.filter fun start => circularScan entries start ≠ some first.1
      have hcount : ∀ node ∈ rest, ∀ sum,
          places.countP (fun start => circularScan entries start = some node.1) + sum =
            others.countP (fun start => circularScan entries start = some node.1) + sum := by
        intro node hnode sum
        have hne : node.1 ≠ first.1 := (hfirst node hnode).symm
        rw [List.countP_filter]
        congr 1
        refine List.countP_congr fun start _ => ?_
        by_cases hscan : circularScan entries start = some node.1 <;> simp [hscan, hne]
      have hothers : ∀ start ∈ others, ∃ node ∈ rest, circularScan entries start = some node.1 := by
        intro start hstart
        obtain ⟨hmem, hnot⟩ := List.mem_filter.1 hstart
        obtain ⟨node, hnode, hscan⟩ := hfinds start hmem
        rcases List.mem_cons.1 hnode with rfl | hnode
        · exact absurd hscan (of_decide_eq_true hnot)
        · exact ⟨node, hnode, hscan⟩
      rw [List.foldr_cons, List.foldr_ext _ _ _ hcount, ih hrest others hothers,
        ← List.countP_eq_length_filter, List.length_eq_countP_add_countP
          (fun start => decide (circularScan entries start = some first.1))]
      congr 1
      exact List.countP_congr fun start _ => by simp

/-- If an entry counts an instance, every scan finds an entry that does. -/
theorem exists_scanned_entry (h : ∃ entry ∈ entries, isHosting entry = true) (start : Nat) :
    ∃ entry ∈ entries.filter isHosting, circularScan entries start = some entry.1 := by
  cases hscan : circularScan entries start with
  | none =>
      obtain ⟨entry, hentry, hhosting⟩ := h
      rw [circularScan_eq_none_iff.1 hscan entry hentry] at hhosting
      cases hhosting
  | some id =>
      obtain ⟨count, hentry, hpos⟩ := exists_of_circularScan hscan
      exact ⟨(id, count), List.mem_filter.2 ⟨hentry, by simpa [isHosting] using hpos⟩, rfl⟩

/-- An entry with its count cut to one. -/
def counted (entry : NodeId × Nat) : NodeId × Nat := (entry.1, if isHosting entry then 1 else 0)

/-- Cut counts are as good as counts. -/
theorem circularScan_map_counted (entries : List (NodeId × Nat)) (start : Nat) :
    circularScan (entries.map counted) start = circularScan entries start := by
  have hsame : isHosting ∘ counted = isHosting := by
    funext entry
    cases h : isHosting entry <;> simp only [Function.comp_apply, counted, h] <;> rfl
  rw [circularScan_eq_find?, circularScan_eq_find?, ← List.map_drop, ← List.map_take,
    ← List.map_append, List.find?_map, hsame, Option.map_map]
  rfl

namespace Topology

variable {t u : Topology}

/-- Whether an entry counts an instance is whether its node hosts the service. -/
theorem isHosting_eq_hosts (h : entry ∈ t.entries) : isHosting entry = t.hosts entry.1 := by
  rw [hosts, t.mem_entries_iff.1 h]
  rfl

/-- Topologies of the same nodes that have their instances on the same of them differ in their
counts alone. -/
theorem map_counted_eq (hkeys : u.keys = t.keys) (hhosts : ∀ id, u.hosts id = t.hosts id) :
    u.entries.map counted = t.entries.map counted := by
  have hnodes : ∀ s : Topology, (∀ id, s.hosts id = t.hosts id) →
      s.entries.map counted = s.keys.map fun id => (id, if t.hosts id then 1 else 0) := by
    intro s hs
    rw [Table.keys, List.map_map]
    refine List.map_congr_left fun entry hentry => ?_
    rw [counted, isHosting_eq_hosts hentry, hs]
    rfl
  rw [hnodes u hhosts, hnodes t fun _ => rfl, hkeys]

/-- What scans of a topology find, over all starts. -/
theorem scannedInTurn (t : Topology) : t.ScannedInTurn where
  nothing start := by
    rw [circularScan_eq_none_iff]
    refine forall₂_congr fun entry _ => ?_
    simp [isHosting]
  around _ h := circularScan_eq_rotate h
  behind _ h := circularScan_of_length_le h
  turns place entry hplace hpos :=
    starts_of_isHosting t.increasing hplace (decide_eq_true hpos)
  all h := by
    obtain ⟨entry, hentry, hpos⟩ := h
    have hfinds := exists_scanned_entry ⟨entry, hentry, decide_eq_true hpos⟩
    have hsum := sum_countP_scans (t.increasing.keys_ne.filter isHosting)
      (List.range t.entries.length) fun start _ => hfinds start
    rwa [List.length_range] at hsum
  sizeless u hkeys hhosts start := by
    rw [← circularScan_map_counted, map_counted_eq hkeys hhosts, circularScan_map_counted]

end Topology

end ServiceRouting
