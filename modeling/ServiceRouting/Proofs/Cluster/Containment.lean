import ServiceRouting.Proofs.Cluster.History

/-!
# What a projection contains

A projection lists its members, looks one of them up by identity, and tells whether it contains a
node. The list and the lookup go through all layers; what is contained is asked of the outermost
test alone. So a projection may contain a member of the cluster that a projection below it hides
(`contained_though_hidden`). `Containment` says how far the three answers agree, however deeply
projections are nested.
-/

namespace ServiceRouting

namespace Projection

/-- A projection is another one, or one of those that the other one is made over. -/
def Underlies (q p : Projection) : Prop := q.view <:+ p.view

/-- Being contained tells the members of the cluster that are in the projection from the others. -/
def TellsMembers (p : Projection) (c : Cluster) : Prop :=
  ∀ n ∈ c.members, (p.contains n = true ↔ n ∈ p.members c)

/-- What a projection contains, compared with the members and the lookups in it. -/
structure Containment (p : Projection) : Prop where
  /-- A member of the cluster is found by its identity exactly if it is in the projection. -/
  found : ∀ c, ∀ n ∈ c.members, ((p.node? c n.id).isSome = true ↔ n ∈ p.members c)
  /-- A node is a member of the projection exactly if the projection contains it and it is a member
  of the view below. -/
  outermost : ∀ c n, n ∈ p.members c ↔ p.contains n = true ∧ n ∈ p.below.members c
  /-- A member of the cluster is in the projection exactly if the projection contains it and each
  one below does too. -/
  members : ∀ c, ∀ n ∈ c.members,
    (n ∈ p.members c ↔ ∀ q : Projection, q.Underlies p → q.contains n = true)
  /-- Being contained tells who is in the projection exactly if no member of the cluster that passes
  the outermost test is hidden below. -/
  tells : ∀ c, p.TellsMembers c ↔ ∀ n ∈ c.members, p.contains n = true → n ∈ p.below.members c
  /-- Being contained tells in every cluster who is in the projection exactly if the outermost test
  implies all the others. -/
  always : (∀ c, p.TellsMembers c) ↔ ∀ n : Node, n.isAlive = true → p.contains n = true →
    ∀ q : Projection, q.Underlies p → q.contains n = true
  /-- Being contained tells who is in a projection that is made over the whole cluster. -/
  whole : p.below.isUnrestricted = true → ∀ c, p.TellsMembers c

variable {p : Projection} {c : Cluster} {n : Node}

/-- The projections that a projection is made over are those of its layers. -/
theorem forall_underlies_iff :
    (∀ q : Projection, q.Underlies p → q.contains n = true) ↔
      ∀ layer ∈ p.view, View.passes layer n = true := by
  constructor
  · intro h layer hlayer
    obtain ⟨above, below, hview⟩ := List.append_of_mem hlayer
    exact h ⟨layer, below⟩ ⟨above, hview.symm⟩
  · intro h q hq
    exact h q.test (hq.subset List.mem_cons_self)

/-- A member of the cluster is in a projection if the projection and each one below contain it. -/
theorem mem_members_iff_underlies (hn : n ∈ c.members) :
    n ∈ p.members c ↔ ∀ q : Projection, q.Underlies p → q.contains n = true := by
  rw [forall_underlies_iff, members, View.mem_members_iff]
  exact and_iff_right hn

/-- The members in a projection are those of the view below that it contains. -/
theorem mem_members_iff_below :
    n ∈ p.members c ↔ p.contains n = true ∧ n ∈ p.below.members c := by
  rw [members, View.mem_members_iff, View.mem_members_iff, view, List.forall_mem_cons]
  exact and_left_comm

/-- A member of the cluster is found in a projection if it is in it. -/
theorem isSome_node?_iff (hn : n ∈ c.members) :
    (p.node? c n.id).isSome = true ↔ n ∈ p.members c := by
  rw [Option.isSome_iff_exists]
  constructor
  · rintro ⟨other, hother⟩
    obtain ⟨hmember, hid⟩ := p.node?_eq_some_iff.1 hother
    -- What is found is a member of the cluster under the same identity, so it is the same node.
    have hbelow : other ∈ c.members := ((View.mem_members_iff p.view).1 hmember).1
    have hsame := Cluster.node?_eq_some_iff.2 ⟨hbelow, hid⟩
    rw [Cluster.node?_eq_some_iff.2 ⟨hn, rfl⟩] at hsame
    exact Option.some.inj hsame ▸ hmember
  · exact fun hmember => ⟨n, p.node?_eq_some_iff.2 ⟨hmember, rfl⟩⟩

/-- Being contained tells who is in a projection if nothing that it contains is hidden below. -/
theorem tellsMembers_iff :
    p.TellsMembers c ↔ ∀ n ∈ c.members, p.contains n = true → n ∈ p.below.members c := by
  refine forall₂_congr fun n _ => ?_
  rw [mem_members_iff_below]
  exact ⟨fun h hn => (h.1 hn).2, fun h => ⟨fun hn => ⟨hn, h hn⟩, And.left⟩⟩

/-- In a cluster of one node, being contained tells whether this node is in a projection only if
the outermost test implies all the others for it. -/
theorem underlies_of_tellsMembers (hn : n.isAlive = true)
    (h : p.TellsMembers (.ofNode n)) (hcontains : p.contains n = true) (q : Projection)
    (hq : q.Underlies p) : q.contains n = true := by
  have hmember : n ∈ (Cluster.ofNode n).members :=
    Cluster.mem_members_iff.2 ⟨Table.get?_insert_self .., hn⟩
  exact (mem_members_iff_underlies hmember).1 ((h n hmember).1 hcontains) q hq

/-- What a projection contains: the nodes that pass its outermost test, be they in it or hidden
below. -/
theorem containment (p : Projection) : Containment p where
  found _ _ hn := isSome_node?_iff hn
  outermost _ _ := mem_members_iff_below
  members _ _ hn := mem_members_iff_underlies hn
  tells _ := tellsMembers_iff
  always := by
    constructor
    · exact fun h n halive => underlies_of_tellsMembers halive (h _)
    · intro h c n hn
      rw [mem_members_iff_underlies hn]
      have halive : n.isAlive = true := (Cluster.mem_members_iff.1 hn).2
      exact ⟨h n halive, fun hall => hall p (List.suffix_refl _)⟩
  whole hwhole c := by
    refine tellsMembers_iff.2 fun n hn _ => ?_
    rw [(View.of_isUnrestricted hwhole).1]
    exact hn

/-- A projection of all that another one keeps contains the local node, although the other one
keeps a second node only: neither the list nor a lookup shows it there. -/
theorem contained_though_hidden :
    let c := (Cluster.ofNode (.ofId "local")).join (.ofId "a")
    let p := all (nodes [] ["a"]).view
    c.localNode ∈ c.members ∧ p.contains c.localNode = true ∧
    c.localNode ∉ p.members c ∧ p.node? c c.localNode.id = none ∧ p.containsLocal c = false ∧
    ¬ ∀ (p : Projection) (c : Cluster), p.TellsMembers c := by
  intro c p
  have hmember : c.localNode ∈ c.members := by decide
  have hhidden : c.localNode ∉ p.members c := by decide
  refine ⟨hmember, rfl, hhidden, by decide, by decide, fun hall => ?_⟩
  exact hhidden ((hall p c _ hmember).1 rfl)

end Projection

end ServiceRouting
