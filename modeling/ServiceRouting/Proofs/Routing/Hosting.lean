import ServiceRouting.Proofs.Routing.Selection

/-!
# Whether a selected node hosts the service

A node can be selected for three reasons (`reason_of_select`). Two of them say that the service runs
there: the local node has an instance, or the topology counts one. The third does not. The node of
the only entry of a topology is selected whatever the entry counts, so a service whose last instance
was taken back is still looked for where it ran.
-/

namespace ServiceRouting

universe u

variable {Handler : Type u}

namespace Registry

/-- No instance of a service is known, neither on this node nor on any other. -/
structure Unhosted (r : Registry Handler) (service : ServiceName) : Prop where
  handle : r.handle? service = none
  topology : ∀ t, r.topology? service = some t → ∀ id, t.hosts id = false

/-- The topology of a service has a single entry. -/
def HasSoleEntry (r : Registry Handler) (service : ServiceName) : Prop :=
  ∃ t, r.topology? service = some t ∧ t.entries.length = 1

/-- A service that does not run here and whose topology counts no instance is unhosted. -/
theorem unhosted_of_entries {r : Registry Handler} {service : ServiceName} {t : Topology}
    (hhandle : r.handle? service = none) (htopology : r.topology? service = some t)
    (h : ∀ entry ∈ t.entries, entry.2 = 0) : r.Unhosted service where
  handle := hhandle
  topology other hother id := by
    obtain rfl := Option.some.inj (htopology.symm.trans hother)
    refine Bool.eq_false_iff.2 fun hhosts => ?_
    obtain ⟨count, hentry, hpos⟩ := Selector.hosts_iff.1 hhosts
    have hzero : count = 0 := h _ hentry
    exact Nat.ne_of_gt hpos hzero

/-- A service that no other node hosts is unhosted once it is taken back from this one. -/
theorem unhosted_undeploy {r : Registry Handler} {service : ServiceName}
    (h : ∀ t, r.topology? service = some t → ∀ id, id ≠ r.nodeId → t.hosts id = false) :
    (r.undeploy service).1.Unhosted service where
  handle := Table.get?_erase_self r.handles service
  topology t ht id := by
    have hmodified : (r.topology? service).map (·.insert r.nodeId 0) = some t := by
      rw [← ht]
      exact (Table.get?_modify_self r.topologies service _).symm
    obtain ⟨before, hbefore, rfl⟩ := Option.map_eq_some_iff.1 hmodified
    by_cases hid : id = r.nodeId
    · simp [Topology.hosts, hid]
    · have hother := h before hbefore id hid
      rw [Topology.hosts] at hother ⊢
      rw [Table.get?_insert_of_ne _ _ hid, hother]

end Registry

namespace Selector

/-- Why a node is selected for a service. -/
inductive Reason (s : Selector) (c : Cluster) (r : Registry Handler) (service : ServiceName)
    (n : Node) : Prop where
  /-- The service runs on the local node. -/
  | affinity :
      s.hasLocalNode = true → (r.handle? service).isSome = true → n = c.localNode →
      Reason s c r service n
  /-- The topology counts an instance on the node. -/
  | hosts (t : Topology) :
      r.topology? service = some t → t.hosts n.id = true → Reason s c r service n
  /-- The topology has the node in its only entry. -/
  | sole (t : Topology) (count : Nat) :
      r.topology? service = some t → t.entries = [(n.id, count)] → Reason s c r service n

variable {s : Selector} {c : Cluster} {r : Registry Handler} {service : ServiceName} {t : Topology}
  {n : Node}

/-- A service that runs on the local node is called there, if the projection had that node. -/
theorem choice_of_affinity (hlocal : s.hasLocalNode = true)
    (hhandle : (r.handle? service).isSome = true) :
    s.choice c r service = .settled (some c.localNode) := by
  rw [choice, if_pos (by simp [hlocal, hhandle])]

/-- The node of the only entry of a topology has the identity of the entry. -/
theorem id_of_singleton {id : NodeId} (h : s.singleton c id = some n) : n.id = id := by
  unfold singleton at h
  split at h
  · exact ((Projection.node?_eq_some_iff _).1 h).2
  · exact ((View.node?_eq_some_iff _).1 h).2

/-- What is selected among the entries of a topology is hosting, or it is the only entry. -/
theorem reason_of_amongEntries (htopology : r.topology? service = some t) {draw : Nat}
    (h : (s.amongEntries c t).take draw = some n) : Reason s c r service n := by
  match hentries : t.entries with
  | [] =>
      rw [amongEntries_of_nil hentries] at h
      cases h
  | [(id, count)] =>
      rw [amongEntries_of_single hentries] at h
      obtain rfl := id_of_singleton h
      exact .sole t count htopology hentries
  | _ :: _ :: _ =>
      have hseveral : 2 ≤ t.entries.length := by simp [hentries]
      have hmem := (s.amongEntries c t).take_mem_outcomes draw
      rw [h, amongEntries_of_several hseveral, some_mem_amongSeveral] at hmem
      exact .hosts t htopology (mem_candidates_iff.1 hmem).2

/-- Every node selected is selected for a reason, whatever is drawn. -/
theorem reason_of_select {draw : Nat} (h : s.select c r service draw = some n) :
    Reason s c r service n := by
  by_cases haffinity : s.hasLocalNode = true ∧ (r.handle? service).isSome = true
  · rw [select, choice_of_affinity haffinity.1 haffinity.2] at h
    exact .affinity haffinity.1 haffinity.2 (Option.some.inj h).symm
  · cases htopology : r.topology? service with
    | none =>
        rw [select, choice, htopology] at h
        split at h
        next hlocal => exact absurd (by simpa using hlocal) haffinity
        next => cases h
    | some t =>
        have hremote : s.hasLocalNode = false ∨ r.handle? service = none := by
          cases hlocal : s.hasLocalNode with
          | false => exact .inl rfl
          | true => exact .inr (by simpa [hlocal] using haffinity)
        rw [select, choice_of_topology htopology hremote] at h
        exact reason_of_amongEntries htopology h

/-- Nothing is selected for a service that is not hosted, unless its topology has a single entry. -/
theorem select_of_unhosted (h : r.Unhosted service) (hsole : ¬ r.HasSoleEntry service)
    (draw : Nat) : s.select c r service draw = none := by
  refine Option.eq_none_iff_forall_ne_some.2 fun n hn => ?_
  cases reason_of_select hn with
  | affinity _ hhandle _ =>
      rw [h.handle] at hhandle
      cases hhandle
  | hosts t htopology hhosts =>
      rw [h.topology t htopology n.id] at hhosts
      cases hhosts
  | sole t count htopology hentries => exact hsole ⟨t, htopology, by rw [hentries]; rfl⟩

end Selector

end ServiceRouting
