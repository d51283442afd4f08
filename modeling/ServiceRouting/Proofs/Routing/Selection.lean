import ServiceRouting.Proofs.Cluster.Views
import ServiceRouting.Proofs.Routing.CircularScan
import ServiceRouting.Routing.Selector

/-!
# What a selection can give

The outcomes of a selection over all draws, against one set: the members of the projection that
host the service. Read `SelectsAmong` first. It is about topologies with several entries, for which
there are three ways to select (`amongSeveral_cases`): a single member, a circular scan of the
topology, and a pick among the members that host the service.
-/

namespace ServiceRouting

universe u

namespace Selector

variable {Handler : Type u}

/-- What a selection gives over all draws for a topology with several entries. -/
structure SelectsAmong (s : Selector) (c : Cluster) (r : Registry Handler) (service : ServiceName)
    (t : Topology) : Prop where
  /-- Every node selected is a member that hosts the service. -/
  hosts : ∀ draw n, s.select c r service draw = some n → n ∈ s.candidates c t
  /-- Every member that hosts the service is selected by some draw. -/
  reaches : ∀ n ∈ s.candidates c t, ∃ draw, s.select c r service draw = some n
  /-- A draw selects nothing if no member hosts the service, or if a scan of the topology can meet
  an entry with instances on a node that is no member. -/
  misses : (∃ draw, s.select c r service draw = none) ↔
    s.candidates c t = [] ∨
    (s.projection.isUnrestricted = true ∧ (s.projection.members c).length ≠ 1 ∧
      ∃ entry ∈ t.entries, 0 < entry.2 ∧ ∀ n ∈ s.projection.members c, n.id ≠ entry.1)
  /-- No index is drawn from an empty range. In a part of the cluster every index has a node. -/
  draws : ∀ size positive outcome, s.choice c r service = .drawn size positive outcome →
    0 < size ∧
    ((s.projection.isUnrestricted = true ∧ size = t.entries.length) ∨
      (s.projection.isUnrestricted = false ∧ size = (s.candidates c t).length ∧
        ∀ i, ∃ n, outcome i = some n))
  /-- In a part of the cluster with several members every one of them that hosts the service has an
  index of its own. -/
  evenly : s.projection.isUnrestricted = false → 2 ≤ (s.projection.members c).length →
    s.candidates c t ≠ [] → ∃ positive outcome,
      s.choice c r service = .drawn (s.candidates c t).length positive outcome ∧
      ∀ n ∈ s.candidates c t, ∃ i, outcome i = some n ∧ ∀ j, outcome j = some n → j = i

variable {s : Selector} {c : Cluster} {r : Registry Handler} {service : ServiceName} {t : Topology}
  {n : Node}

/-- The candidates are the members that host the service. -/
theorem mem_candidates_iff :
    n ∈ s.candidates c t ↔ n ∈ s.projection.members c ∧ t.hosts n.id = true :=
  List.mem_filter

/-- A node hosts a service exactly if an entry of the topology counts an instance there. -/
theorem hosts_iff {id : NodeId} :
    t.hosts id = true ↔ ∃ count, (id, count) ∈ t.entries ∧ 0 < count := by
  simp only [Topology.hosts, Option.any_eq_true, decide_eq_true_eq, t.mem_entries_iff]

/-- No candidate is listed twice. -/
theorem candidates_nodup (s : Selector) (c : Cluster) (t : Topology) :
    (s.candidates c t).Nodup := by
  refine List.Pairwise.filter _ ((s.projection.members_increasing c).imp ?_)
  intro a b hlt heq
  exact String.lt_irrefl _ (heq ▸ hlt)

/-- A selection without local affinity is made among the entries of the topology. -/
theorem choice_of_topology (htopology : r.topology? service = some t)
    (hremote : s.hasLocalNode = false ∨ r.handle? service = none) :
    s.choice c r service = s.amongEntries c t := by
  have hnot : ¬ (s.hasLocalNode && (r.handle? service).isSome) = true := by
    rcases hremote with hlocal | hhandle
    · simp [hlocal]
    · simp [hhandle]
  rw [choice, if_neg hnot, htopology]

/-- Nothing is selected from a topology without entries. -/
theorem amongEntries_of_nil (h : t.entries = []) : s.amongEntries c t = .settled none := by
  unfold amongEntries
  split
  next => rfl
  next hsingle => simp [hsingle] at h
  next hmore => simp [hmore] at h

/-- The only entry of a topology names the node. -/
theorem amongEntries_of_single {id : NodeId} {count : Nat} (h : t.entries = [(id, count)]) :
    s.amongEntries c t = .settled (s.singleton c id) := by
  unfold amongEntries
  split
  next hnil => simp [hnil] at h
  next hsingle =>
    rw [hsingle] at h
    cases h
    rfl
  next hmore => simp [hmore] at h

/-- A topology with several entries is told from one with a single entry. -/
theorem amongEntries_of_several (h : 2 ≤ t.entries.length) :
    s.amongEntries c t = s.amongSeveral c t (Nat.lt_of_lt_of_le Nat.zero_lt_two h) := by
  unfold amongEntries
  split
  next hentries => simp [hentries] at h
  next hentries => simp [hentries] at h
  next => rfl

/-- There are three ways to select among several entries. -/
theorem amongSeveral_cases (h : 0 < t.entries.length) :
    (∃ n, s.projection.members c = [n] ∧
      s.amongSeveral c t h = .settled (if t.hosts n.id then some n else none)) ∨
    ((s.projection.members c).length ≠ 1 ∧ s.projection.isUnrestricted = true ∧
      s.amongSeveral c t h = .drawn t.entries.length h fun i => s.scanned c t i) ∨
    ((s.projection.members c).length ≠ 1 ∧ s.projection.isUnrestricted = false ∧
      s.amongSeveral c t h = pick (s.candidates c t)) := by
  unfold amongSeveral
  split
  next n hmembers => exact .inl ⟨n, hmembers, rfl⟩
  next hmembers =>
    have hlength : (s.projection.members c).length ≠ 1 := by
      intro hone
      obtain ⟨n, hn⟩ := List.length_eq_one_iff.1 hone
      exact hmembers n hn
    cases hwhole : s.projection.isUnrestricted with
    | true => exact .inr (.inl ⟨hlength, rfl, rfl⟩)
    | false => exact .inr (.inr ⟨hlength, rfl, rfl⟩)

/-- In the whole cluster a scan selects the member of an entry with instances. -/
theorem mem_candidates_of_scanned (hwhole : s.projection.isUnrestricted = true) {start : Nat}
    (h : s.scanned c t start = some n) : n ∈ s.candidates c t := by
  obtain ⟨id, hscan, hnode⟩ := Option.bind_eq_some_iff.1 h
  rw [Projection.node?_below hwhole, Projection.node?_eq_some_iff] at hnode
  obtain ⟨hmember, rfl⟩ := hnode
  exact mem_candidates_iff.2 ⟨hmember, hosts_iff.2 (exists_of_circularScan hscan)⟩

/-- In the whole cluster every member that hosts the service is scanned from some entry. -/
theorem exists_scanned (hwhole : s.projection.isUnrestricted = true) (h : n ∈ s.candidates c t) :
    ∃ i : Fin t.entries.length, s.scanned c t i = some n := by
  obtain ⟨hmember, hhosts⟩ := mem_candidates_iff.1 h
  obtain ⟨count, hentry, hpos⟩ := hosts_iff.1 hhosts
  obtain ⟨i, hi⟩ := List.mem_iff_getElem?.1 hentry
  obtain ⟨hlt, _⟩ := List.getElem?_eq_some_iff.1 hi
  refine ⟨⟨i, hlt⟩, ?_⟩
  have hscan := circularScan_of_isHosting hi (by simpa [isHosting] using hpos)
  rw [scanned, hscan, Option.bind_some, Projection.node?_below hwhole,
    Projection.node?_eq_some_iff]
  exact ⟨hmember, rfl⟩

/-- In the whole cluster a scan can select nothing exactly if no member hosts the service or an
entry with instances names a node that is no member. -/
theorem exists_scanned_none_iff (hwhole : s.projection.isUnrestricted = true)
    (h : 0 < t.entries.length) :
    (∃ i : Fin t.entries.length, s.scanned c t i = none) ↔
      s.candidates c t = [] ∨
      ∃ entry ∈ t.entries, 0 < entry.2 ∧ ∀ n ∈ s.projection.members c, n.id ≠ entry.1 := by
  constructor
  · rintro ⟨i, hi⟩
    unfold scanned at hi
    cases hscan : circularScan t.entries i with
    | none =>
        refine .inl (List.eq_nil_iff_forall_not_mem.2 fun n hn => ?_)
        obtain ⟨count, hentry, hpos⟩ := hosts_iff.1 (mem_candidates_iff.1 hn).2
        have hnot := circularScan_eq_none_iff.1 hscan _ hentry
        simp [isHosting, Nat.pos_iff_ne_zero.1 hpos] at hnot
    | some id =>
        obtain ⟨count, hentry, hpos⟩ := exists_of_circularScan hscan
        refine .inr ⟨(id, count), hentry, hpos, fun n hn hid => ?_⟩
        rw [hscan, Option.bind_some, Projection.node?_below hwhole] at hi
        rw [(Projection.node?_eq_some_iff _).2 ⟨hn, hid⟩] at hi
        cases hi
  · rintro (hempty | ⟨entry, hentry, hpos, hgone⟩)
    -- Any start will do in the first case, the entry's own in the second.
    · refine ⟨⟨0, h⟩, ?_⟩
      refine Option.eq_none_iff_forall_ne_some.2 fun n hn => ?_
      have hmem := mem_candidates_of_scanned hwhole hn
      rw [hempty] at hmem
      cases hmem
    · obtain ⟨i, hi⟩ := List.mem_iff_getElem?.1 hentry
      obtain ⟨hlt, _⟩ := List.getElem?_eq_some_iff.1 hi
      refine ⟨⟨i, hlt⟩, ?_⟩
      have hscan := circularScan_of_isHosting hi (by simpa [isHosting] using hpos)
      rw [scanned, hscan, Option.bind_some, Projection.node?_below hwhole]
      refine Option.eq_none_iff_forall_ne_some.2 fun n hn => ?_
      obtain ⟨hmember, hid⟩ := (Projection.node?_eq_some_iff _).1 hn
      exact hgone n hmember hid

/-- The candidates of a projection with a single member. -/
theorem candidates_of_single (h : s.projection.members c = [n]) :
    s.candidates c t = if t.hosts n.id then [n] else [] := by
  rw [candidates, h, List.filter_cons]
  rfl

/-- A pick by index gives the nodes of the list. -/
theorem some_mem_pick {nodes : List Node} : some n ∈ (pick nodes).outcomes ↔ n ∈ nodes := by
  unfold pick
  split
  next =>
    rw [Choice.outcomes, List.mem_ofFn, List.mem_iff_get]
    constructor
    · rintro ⟨i, hi⟩
      exact ⟨i, Option.some.inj hi⟩
    · rintro ⟨i, hi⟩
      exact ⟨i, congrArg some hi⟩
  next hempty =>
    have hnil : nodes = [] := List.length_eq_zero_iff.1 (Nat.eq_zero_of_not_pos hempty)
    simp [Choice.outcomes, hnil]

/-- A pick by index misses only in the empty list. -/
theorem none_mem_pick {nodes : List Node} : none ∈ (pick nodes).outcomes ↔ nodes = [] := by
  unfold pick
  split
  next hpos =>
    rw [Choice.outcomes, List.mem_ofFn]
    constructor
    · rintro ⟨i, hi⟩
      cases hi
    · intro hnil
      exact absurd hnil (List.ne_nil_of_length_pos hpos)
  next hempty =>
    have hnil : nodes = [] := List.length_eq_zero_iff.1 (Nat.eq_zero_of_not_pos hempty)
    simp [Choice.outcomes, hnil]

/-- The nodes that a selection among several entries can give are the members that host the
service. -/
theorem some_mem_amongSeveral (h : 0 < t.entries.length) :
    some n ∈ (s.amongSeveral c t h).outcomes ↔ n ∈ s.candidates c t := by
  rcases amongSeveral_cases h with ⟨m, hmembers, heq⟩ | ⟨_, hwhole, heq⟩ | ⟨_, _, heq⟩
  · rw [heq, candidates_of_single hmembers]
    cases t.hosts m.id <;> simp [Choice.outcomes]
  · rw [heq, Choice.outcomes, List.mem_ofFn]
    constructor
    · rintro ⟨i, hi⟩
      exact mem_candidates_of_scanned hwhole hi
    · exact exists_scanned hwhole
  · rw [heq]
    exact some_mem_pick

/-- When a selection among several entries can give nothing. -/
theorem none_mem_amongSeveral (h : 0 < t.entries.length) :
    none ∈ (s.amongSeveral c t h).outcomes ↔ s.candidates c t = [] ∨
      (s.projection.isUnrestricted = true ∧ (s.projection.members c).length ≠ 1 ∧
        ∃ entry ∈ t.entries, 0 < entry.2 ∧ ∀ n ∈ s.projection.members c, n.id ≠ entry.1) := by
  rcases amongSeveral_cases h with
    ⟨m, hmembers, heq⟩ | ⟨hlength, hwhole, heq⟩ | ⟨_, hpart, heq⟩
  · rw [heq, candidates_of_single hmembers, hmembers]
    cases t.hosts m.id <;> simp [Choice.outcomes]
  · rw [heq, Choice.outcomes, List.mem_ofFn, exists_scanned_none_iff hwhole h]
    simp only [hwhole, hlength, ne_eq, not_false_eq_true, true_and]
  · rw [heq, none_mem_pick]
    simp [hpart]

/-- In a part of the cluster with several members every candidate has an index of its own. -/
theorem pick_candidates (h : s.candidates c t ≠ []) : ∃ positive outcome,
    pick (s.candidates c t) = .drawn (s.candidates c t).length positive outcome ∧
    ∀ n ∈ s.candidates c t, ∃ i, outcome i = some n ∧ ∀ j, outcome j = some n → j = i := by
  have hpos : 0 < (s.candidates c t).length := List.length_pos_iff.2 h
  refine ⟨hpos, fun i => (s.candidates c t)[i], dif_pos hpos, fun n hn => ?_⟩
  obtain ⟨i, hlt, hi⟩ := List.getElem_of_mem hn
  refine ⟨⟨i, hlt⟩, congrArg some hi, fun j hj => Fin.ext ?_⟩
  have heq : (s.candidates c t)[j.val] = (s.candidates c t)[i] := (Option.some.inj hj).trans hi.symm
  exact (List.getElem_inj (candidates_nodup s c t)).1 heq

/-- A selection for a topology with several entries, without local affinity, is one among the
members of the projection that host the service. -/
theorem selectsAmong (htopology : r.topology? service = some t)
    (hremote : s.hasLocalNode = false ∨ r.handle? service = none) (h : 2 ≤ t.entries.length) :
    SelectsAmong s c r service t := by
  have hchoice := (choice_of_topology htopology hremote).trans
    (amongEntries_of_several (s := s) (c := c) h)
  have hpos : 0 < t.entries.length := Nat.lt_of_lt_of_le Nat.zero_lt_two h
  -- Draws and outcomes are the same thing, so all parts are about the list of outcomes.
  have houtcome : ∀ o, (∃ draw, s.select c r service draw = o) ↔
      o ∈ (s.amongSeveral c t hpos).outcomes := by
    intro o
    rw [Choice.mem_outcomes_iff, ← hchoice]
    rfl
  refine
    { hosts := fun draw n hn => ?_
      reaches := fun n hn => ?_
      misses := ?_
      draws := fun size positive outcome hdrawn => ?_
      evenly := fun hpart hseveral hne => ?_ }
  · exact (some_mem_amongSeveral hpos).1 ((houtcome _).1 ⟨draw, hn⟩)
  · exact (houtcome _).2 ((some_mem_amongSeveral hpos).2 hn)
  · rw [houtcome]
    exact none_mem_amongSeveral hpos
  · refine ⟨positive, ?_⟩
    rw [hchoice] at hdrawn
    rcases amongSeveral_cases (s := s) (c := c) hpos with
      ⟨m, _, heq⟩ | ⟨_, hwhole, heq⟩ | ⟨_, hpart, heq⟩
    · rw [heq] at hdrawn
      cases hdrawn
    · rw [heq] at hdrawn
      cases hdrawn
      exact .inl ⟨hwhole, rfl⟩
    · rw [heq, pick] at hdrawn
      split at hdrawn
      · cases hdrawn
        exact .inr ⟨hpart, rfl, fun i => ⟨_, rfl⟩⟩
      · cases hdrawn
  · rcases amongSeveral_cases (s := s) (c := c) hpos with
      ⟨m, hmembers, _⟩ | ⟨_, hwhole, _⟩ | ⟨_, _, heq⟩
    · simp [hmembers] at hseveral
    · rw [hpart] at hwhole
      cases hwhole
    · rw [hchoice, heq]
      exact pick_candidates hne

/-- The node of the only entry of a topology is a member of the projection, if that is asked for. -/
theorem mem_members_of_single (htopology : r.topology? service = some t)
    (hremote : s.hasLocalNode = false ∨ r.handle? service = none) (h : t.entries.length = 1)
    (hverify : s.options.verifySingleton = true) {draw : Nat}
    (hselect : s.select c r service draw = some n) : n ∈ s.projection.members c := by
  obtain ⟨⟨id, count⟩, hentries⟩ := List.length_eq_one_iff.1 h
  have hchoice : s.choice c r service = .settled (s.projection.node? c id) := by
    rw [choice_of_topology htopology hremote, amongEntries_of_single hentries, singleton,
      if_pos hverify]
  rw [select, hchoice] at hselect
  exact ((Projection.node?_eq_some_iff _).1 hselect).1

/-- What a selection without local affinity gives over all draws: for several entries exactly the
members of the projection that host the service, and for one entry, if that is asked for, none but a
member of the projection. -/
theorem select_outcomes (htopology : r.topology? service = some t)
    (hremote : s.hasLocalNode = false ∨ r.handle? service = none) :
    (2 ≤ t.entries.length → SelectsAmong s c r service t) ∧
    (t.entries.length = 1 → s.options.verifySingleton = true → ∀ draw n,
      s.select c r service draw = some n → n ∈ s.projection.members c) :=
  ⟨selectsAmong htopology hremote,
    fun h hverify _ _ hselect => mem_members_of_single htopology hremote h hverify hselect⟩

/-- A member of a cluster beside the local node. -/
def remaining : Node :=
  { id := "a"
    address := .v4 ⟨127, by decide⟩ ⟨0, by decide⟩ ⟨0, by decide⟩ ⟨1, by decide⟩ ⟨7000, by decide⟩ }

/-- The cluster of that member and a local node. -/
def two : Cluster := (Cluster.ofNode { remaining with id := "b" }).join remaining

/-- A registry that lists a service on the member, and another there and on a node that has left. -/
def stale : Registry Unit :=
  ((Registry.ofNode "b").setTopology "one" (Table.empty.insert "a" 1)).setTopology "several"
    ((Table.empty.insert "a" 1).insert "gone" 1)

/-- The selector for the whole cluster. -/
def everywhere : Selector := .ofProjection two (.all []) {}

/-- Of two entries a draw selects the member, and another draw nothing, because its node has left.
The only entry of a topology selects the member. -/
theorem select_outcomes_of_stale :
    SelectsAmong everywhere two stale "several" ((Table.empty.insert "a" 1).insert "gone" 1) ∧
    everywhere.select two stale "several" 0 = some remaining ∧
    everywhere.select two stale "several" 1 = none ∧
    remaining ∈ everywhere.projection.members two :=
  have hone : stale.topology? "one" = some (Table.empty.insert "a" 1) := rfl
  ⟨(select_outcomes rfl (.inr rfl)).1 (by decide), rfl, rfl,
    (select_outcomes hone (.inr rfl)).2 rfl rfl 0 remaining rfl⟩

end Selector

end ServiceRouting
