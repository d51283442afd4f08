import Mathlib.Data.List.Nodup
import ServiceRouting.Proofs.Service.Deployments
import ServiceRouting.Proofs.Text.ByteOrder

/-!
# Looking up a service and listing all of them

A registry is asked for the topology of one service, or for the list of all services. `Agrees` says
that both answers are about the same table, in whatever order the table is gone through, and that an
answer stays as it was given while the registry goes on changing.
-/

namespace ServiceRouting

universe u

namespace ServiceDescriptor

/-- The first of the listed services is the one that is looked for, or the others are gone
through. -/
theorem findTopology?_cons (d : ServiceDescriptor) (rest : List ServiceDescriptor)
    (name : ServiceName) : findTopology? (d :: rest) name =
      if d.name = name then some d.topology else findTopology? rest name := by
  by_cases hname : d.name = name <;> simp [findTopology?, hname]

/-- Going through the listed entries of a table is looking up a name in it. -/
theorem findTopology?_map (entries : List (String × Topology)) (name : ServiceName) :
    findTopology? (entries.map fun e => ⟨e.1, e.2⟩) name = Table.find? name entries := by
  induction entries with
  | nil => rfl
  | cons entry rest ih =>
      rw [List.map_cons, findTopology?_cons, ih, Table.find?]
      exact if_congr eq_comm rfl rfl

end ServiceDescriptor

namespace Registry

variable {Handler : Type u}

/-- What a registry is used for: it is changed, or it is asked. -/
inductive Use (Handler : Type u) where
  | change (change : Change Handler)
  | topology (name : ServiceName)
  | services

/-- What a registry was asked, and its answer. -/
inductive Snapshot where
  | topology (name : ServiceName) (found : Option Topology)
  | services (listed : List ServiceDescriptor)

namespace Use

/-- The change that is made, if one is. -/
def change? : Use Handler → Option (Change Handler)
  | change c => some c
  | topology _ | services => none

/-- The answer of a registry, if it is asked. -/
def snapshot? (r : Registry Handler) : Use Handler → Option Snapshot
  | change _ => none
  | topology name => some (.topology name (r.topology? name))
  | services => some (.services r.services)

end Use

/-- A registry in use, and the answers that it gave. -/
structure Session (Handler : Type u) where
  registry : Registry Handler
  /-- The answers in order, held by those who asked. -/
  snapshots : List Snapshot

namespace Session

/-- The session after a use. -/
def use (s : Session Handler) (u : Use Handler) : Session Handler :=
  { registry := (u.change?.map (·.apply s.registry)).getD s.registry
    snapshots := s.snapshots ++ (u.snapshot? s.registry).toList }

end Session

/-- The session of a node after these uses. -/
def session (nodeId : NodeId) (uses : List (Use Handler)) : Session Handler :=
  uses.foldl Session.use ⟨ofNode nodeId, []⟩

/-- What holds of a registry in use. -/
structure Agrees (nodeId : NodeId) (uses : List (Use Handler)) : Prop where
  /-- The registry is what the changes made of it. -/
  changed : (session nodeId uses).registry = after nodeId (uses.filterMap Use.change?)
  /-- The topology of a service is that of the first one of its name in the list. -/
  lookup : ∀ name, (session nodeId uses).registry.topology? name =
    ServiceDescriptor.findTopology? (session nodeId uses).registry.services name
  /-- The list is by strictly increasing name, in the order of bytes. -/
  increasing : (session nodeId uses).registry.services.Pairwise fun a b =>
    Text.bytes a.name < Text.bytes b.name
  /-- Every service that has a topology is listed with it, and nothing else is. -/
  listed : ∀ d, d ∈ (session nodeId uses).registry.services ↔
    (session nodeId uses).registry.topology? d.name = some d.topology
  /-- No service is listed twice. -/
  once : ((session nodeId uses).registry.services.map (·.name)).Nodup
  count : (session nodeId uses).registry.services.length =
    (session nodeId uses).registry.serviceCount
  /-- However the services are gathered, sorting them by name makes up the list. -/
  sorted : ∀ gathered : List ServiceDescriptor, gathered.Nodup →
    (∀ d, d ∈ gathered ↔ (session nodeId uses).registry.topology? d.name = some d.topology) →
    gathered.mergeSort (fun a b => a.name ≤ b.name) = (session nodeId uses).registry.services
  /-- An answer was about the registry of its moment, and is held as it was given. -/
  held : ∀ earlier u later snapshot, uses = earlier ++ u :: later →
    u.snapshot? (after nodeId (earlier.filterMap Use.change?)) = some snapshot →
    (session nodeId earlier).snapshots ++ [snapshot] <+: (session nodeId uses).snapshots

variable {r : Registry Handler} {nodeId : NodeId} {uses : List (Use Handler)}

/-- The list is by strictly increasing name. -/
theorem services_increasing (r : Registry Handler) :
    r.services.Pairwise fun a b => a.name < b.name :=
  List.pairwise_map.2 r.topologies.increasing

/-- The services that are listed are those that are known. -/
theorem mem_services_iff {d : ServiceDescriptor} :
    d ∈ r.services ↔ r.topology? d.name = some d.topology := by
  rw [services, List.mem_map, topology?, ← Table.mem_entries_iff]
  constructor
  · rintro ⟨entry, hentry, rfl⟩
    exact hentry
  · exact fun hentry => ⟨_, hentry, rfl⟩

/-- Two descriptors of one name that the registry knows are the same. -/
theorem eq_of_name {a b : ServiceDescriptor} (ha : r.topology? a.name = some a.topology)
    (hb : r.topology? b.name = some b.topology) (hname : a.name = b.name) : a = b := by
  obtain ⟨name, t⟩ := a
  obtain ⟨name', t'⟩ := b
  obtain rfl : name = name' := hname
  obtain rfl : t = t' := Option.some.inj (ha.symm.trans hb)
  rfl

/-- A service is listed once. -/
theorem nodup_names (r : Registry Handler) : (r.services.map (·.name)).Nodup := by
  refine List.pairwise_map.2 ((services_increasing r).imp fun hlt heq => ?_)
  rw [heq] at hlt
  exact String.lt_irrefl _ hlt

/-- Services that are gathered in any order and sorted by name make up the list: names decide, since
no two services have the same. -/
theorem mergeSort_eq_services {gathered : List ServiceDescriptor} (hnodup : gathered.Nodup)
    (hmem : ∀ d, d ∈ gathered ↔ r.topology? d.name = some d.topology) :
    gathered.mergeSort (fun a b => a.name ≤ b.name) = r.services := by
  have hperm : gathered.Perm r.services := by
    refine (List.perm_ext_iff_of_nodup hnodup (nodup_names r).of_map).2 fun d => ?_
    rw [hmem, mem_services_iff]
  have hsorted : (gathered.mergeSort (fun a b => a.name ≤ b.name)).Pairwise
      fun a b => a.name ≤ b.name := by
    refine (List.pairwise_mergeSort (fun a b c hab hbc => ?_) (fun a b => ?_) gathered).imp
      of_decide_eq_true
    · exact decide_eq_true (String.le_trans (of_decide_eq_true hab) (of_decide_eq_true hbc))
    · rw [Bool.or_eq_true, decide_eq_true_iff, decide_eq_true_iff]
      exact String.le_total a.name b.name
  have hlisted : r.services.Pairwise fun a b => a.name ≤ b.name :=
    (services_increasing r).imp fun h => String.not_lt.1 (String.lt_asymm h)
  refine List.Perm.eq_of_pairwise (fun a b ha hb hab hba => ?_) hsorted hlisted
    ((List.mergeSort_perm gathered _).trans hperm)
  exact eq_of_name ((hmem a).1 (List.mem_mergeSort.1 ha)) (mem_services_iff.1 hb)
    (String.le_antisymm hab hba)

/-- A session that goes on by one use. -/
theorem session_concat (uses : List (Use Handler)) (u : Use Handler) :
    session nodeId (uses ++ [u]) = (session nodeId uses).use u :=
  List.foldl_append ..

/-- Of the uses of a registry only the changes change it. -/
theorem session_registry (uses : List (Use Handler)) :
    (session nodeId uses).registry = after nodeId (uses.filterMap Use.change?) := by
  induction uses using List.reverseRecOn with
  | nil => rfl
  | append_singleton uses u ih =>
      rw [session_concat, List.filterMap_append, Session.use, ih]
      cases u with
      | change c => exact (after_concat _ c).symm
      | topology | services =>
          rw [List.filterMap_cons_none rfl, List.filterMap_nil, List.append_nil]
          rfl

/-- The answers that were given stay. -/
theorem snapshots_prefix (earlier later : List (Use Handler)) :
    (session nodeId earlier).snapshots <+: (session nodeId (earlier ++ later)).snapshots := by
  induction later using List.reverseRecOn with
  | nil => simp
  | append_singleton later u ih =>
      rw [← List.append_assoc, session_concat]
      exact ih.trans (List.prefix_append _ _)

/-- The answer to a question is about the registry of that moment. -/
theorem snapshots_concat {u : Use Handler} {snapshot : Snapshot} (earlier : List (Use Handler))
    (h : u.snapshot? (after nodeId (earlier.filterMap Use.change?)) = some snapshot) :
    (session nodeId (earlier ++ [u])).snapshots =
      (session nodeId earlier).snapshots ++ [snapshot] := by
  rw [session_concat, Session.use, session_registry, h]
  rfl

/-- Looking up a service agrees with listing all of them, whatever a registry was used for. -/
theorem listing_agrees (nodeId : NodeId) (uses : List (Use Handler)) : Agrees nodeId uses where
  changed := session_registry uses
  lookup name := (ServiceDescriptor.findTopology?_map _ name).symm
  increasing := (services_increasing _).imp fun h => Text.bytes_lt h
  listed _ := mem_services_iff
  once := nodup_names _
  count := List.length_map ..
  sorted _ hnodup hmem := mergeSort_eq_services hnodup hmem
  held := by
    rintro earlier u later snapshot rfl hsnapshot
    rw [← snapshots_concat earlier hsnapshot, List.append_cons earlier u later]
    exact snapshots_prefix (earlier ++ [u]) later

end Registry

end ServiceRouting
