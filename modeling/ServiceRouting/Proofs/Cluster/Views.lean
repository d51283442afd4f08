import ServiceRouting.Cluster.Projection

/-!
# Members and lookups

A view lists its members, and it looks a member up by identity. `View.node?_eq_some_iff` says that
both agree, however many layers the view has: a lookup gives the member with the identity, if there
is one. The members are listed by strictly increasing identity, so there is never a second one.
-/

namespace ServiceRouting

variable {c : Cluster} {n : Node} {id : NodeId}

namespace Cluster

/-- The members are the nodes known by their identity that are alive. -/
theorem mem_members_iff : n ∈ c.members ↔ c.known.get? n.id = some n ∧ n.isAlive = true := by
  have hvalues : n ∈ c.known.values ↔ c.known.get? n.id = some n := by
    simp only [Table.values, List.mem_map]
    constructor
    · rintro ⟨⟨key, _⟩, hentry, rfl⟩
      have hget := (c.known.mem_entries_iff).1 hentry
      rw [c.keyed key _ hget]
      exact hget
    · intro hget
      exact ⟨(n.id, n), (c.known.mem_entries_iff).2 hget, rfl⟩
  rw [members, List.mem_filter, hvalues]

/-- A lookup gives the member with the identity. -/
theorem node?_eq_some_iff : c.node? id = some n ↔ n ∈ c.members ∧ n.id = id := by
  rw [node?, Option.filter_eq_some_iff, mem_members_iff]
  constructor
  · rintro ⟨hget, halive⟩
    obtain rfl := c.keyed id n hget
    exact ⟨⟨hget, halive⟩, rfl⟩
  · rintro ⟨⟨hget, halive⟩, rfl⟩
    exact ⟨hget, halive⟩

/-- The members are listed by strictly increasing identity. -/
theorem members_increasing (c : Cluster) : c.members.Pairwise fun a b => a.id < b.id := by
  refine List.Pairwise.filter _ (List.pairwise_map.2 ?_)
  refine List.Pairwise.imp_of_mem (fun {a b} ha hb hlt => ?_) c.known.increasing
  rw [c.keyed a.1 a.2 ((c.known.mem_entries_iff).1 ha),
    c.keyed b.1 b.2 ((c.known.mem_entries_iff).1 hb)]
  exact hlt

end Cluster

namespace View

/-- A lookup in a view gives the member of the view with the identity. -/
theorem node?_eq_some_iff (v : View) : v.node? c id = some n ↔ n ∈ v.members c ∧ n.id = id := by
  induction v with
  | nil => exact Cluster.node?_eq_some_iff
  -- The lookup tests what it found, the list of members is filtered: both by the same layer.
  | cons layer below ih =>
      rw [node?, Option.filter_eq_some_iff, ih]
      cases layer with
      | none => simp [members, passes]
      | some test =>
          rw [members, List.mem_filter, passes, Option.all_some]
          exact and_right_comm

/-- The members of a view are listed by strictly increasing identity. -/
theorem members_increasing (c : Cluster) (v : View) :
    (v.members c).Pairwise fun a b => a.id < b.id := by
  induction v with
  | nil => exact c.members_increasing
  | cons layer below ih =>
      cases layer with
      | none => exact ih
      | some test => exact List.Pairwise.filter _ ih

end View

namespace Projection

/-- A lookup in a projection gives the member of the projection with the identity. -/
theorem node?_eq_some_iff (p : Projection) :
    p.node? c id = some n ↔ n ∈ p.members c ∧ n.id = id :=
  View.node?_eq_some_iff p.view

/-- The members of a projection are listed by strictly increasing identity. -/
theorem members_increasing (p : Projection) (c : Cluster) :
    (p.members c).Pairwise fun a b => a.id < b.id :=
  View.members_increasing c p.view

/-- A lookup below a projection of the whole cluster is one in the projection. -/
theorem node?_below {p : Projection} (h : p.isUnrestricted = true) :
    p.below.node? c id = p.node? c id := by
  obtain ⟨test, below⟩ := p
  cases test with
  | some test => cases h
  | none =>
      show below.node? c id = (below.node? c id).filter (View.passes none)
      cases below.node? c id <;> rfl

end Projection

/-- A node with this identity, at an address of no importance. -/
def Node.ofId (id : NodeId) : Node :=
  { id
    address := .v4 (Fin.last 255) (Fin.last 255) (Fin.last 255) (Fin.last 255) (Fin.last 65535) }

end ServiceRouting
