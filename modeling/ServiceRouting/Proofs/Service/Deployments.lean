import ServiceRouting.Proofs.Histories
import ServiceRouting.Proofs.Service.Registration
import ServiceRouting.Service.Registry

/-!
# A registry over time

What a history of deployments and of news about other nodes makes of the registry of a node. Read
`Runs` first: it says of a history which instance of a service runs on the node, without running
the history. The registry keeps its instances and its counts in two tables; `tracks_deployments`
says what either of them is after any history, and when a service that runs here is one that is
counted here.
-/

namespace ServiceRouting

universe u

namespace Registry

variable {Handler : Type u}

/-- The number of instances of a service on a node, if the node is listed for it. -/
def count? (r : Registry Handler) (name : ServiceName) (node : NodeId) : Option Nat :=
  (r.topology? name).bind (·.get? node)

/-- A change of a registry. -/
inductive Change (Handler : Type u) where
  | setTopology (name : ServiceName) (t : Topology)
  | setInstances (name : ServiceName) (node : NodeId) (count : Nat)
  | removeService (name : ServiceName)
  | deploy (service : Service Handler)
  | undeploy (name : ServiceName)
  | register (name : ServiceName) (signature : Signature) (handler : Handler)

namespace Change

/-- What a change makes of a registry. -/
def apply (r : Registry Handler) : Change Handler → Registry Handler
  | setTopology name t => r.setTopology name t
  | setInstances name node count => r.setInstances name node count
  | removeService name => r.removeService name
  | deploy service => r.deploy service
  | undeploy name => (r.undeploy name).1
  | register name signature handler => r.register name signature handler

/-- The service that a change is about. -/
def service : Change Handler → ServiceName
  | setTopology name _ | setInstances name _ _ | removeService name | undeploy name
  | register name _ _ => name
  | deploy service => service.name

/-- Whether the instance of a service that runs here goes on running. -/
def Keeps (name : ServiceName) : Change Handler → Prop
  | deploy service => service.name ≠ name
  | undeploy other | removeService other => other ≠ name
  | _ => True

/-- The methods that a change registers on the instance of a service. -/
def methods (name : ServiceName) : Change Handler → List (Signature × Handler)
  | register other signature handler => if other = name then [(signature, handler)] else []
  | _ => []

/-- Whether the counts of a node change by deploying and taking back alone. -/
def LeavesCounts (node : NodeId) : Change Handler → Prop
  | setTopology .. => False
  | setInstances _ other _ => other ≠ node
  | _ => True

end Change

/-- The registry of a node after these changes. -/
def after (nodeId : NodeId) (changes : List (Change Handler)) : Registry Handler :=
  changes.foldl Change.apply (ofNode nodeId)

/-- An instance runs under a name: the one deployed last, with the methods registered on it since
then. -/
def Runs (changes : List (Change Handler)) (name : ServiceName) (s : Service Handler) : Prop :=
  ∃ service since, KeptSince (Change.Keeps name) changes (.deploy service) since ∧
    service.name = name ∧ s = service.registerAll (since.flatMap (·.methods name))

variable {r : Registry Handler} {nodeId node : NodeId} {changes : List (Change Handler)}
  {change : Change Handler} {name : ServiceName} {s : Service Handler}

/-- A history that goes on by one change. -/
theorem after_concat (changes : List (Change Handler)) (change : Change Handler) :
    after nodeId (changes ++ [change]) = change.apply (after nodeId changes) :=
  List.foldl_append ..

/-- A registry stays that of its node. -/
theorem after_nodeId (changes : List (Change Handler)) :
    (after nodeId changes).nodeId = nodeId := by
  induction changes using List.reverseRecOn with
  | nil => rfl
  | append_singleton changes change ih =>
      rw [after_concat]
      cases change <;> exact ih

/-- A change leaves what is known of other services alone. -/
theorem apply_of_ne (r : Registry Handler) (h : change.service ≠ name) :
    (change.apply r).topology? name = r.topology? name ∧
      (change.apply r).handle? name = r.handle? name := by
  have hne : name ≠ change.service := Ne.symm h
  cases change with
  | setTopology _ t => exact ⟨r.topologies.get?_insert_of_ne t hne, rfl⟩
  | setInstances _ node count => exact ⟨r.topologies.get?_insert_of_ne _ hne, rfl⟩
  | removeService => exact ⟨r.topologies.get?_erase_of_ne hne, r.handles.get?_erase_of_ne hne⟩
  | deploy service =>
      exact ⟨r.topologies.get?_insert_of_ne _ hne, r.handles.get?_insert_of_ne service hne⟩
  | undeploy =>
      exact ⟨r.topologies.get?_modify_of_ne _ hne, r.handles.get?_erase_of_ne hne⟩
  | register => exact ⟨rfl, r.handles.get?_modify_of_ne _ hne⟩

/-- A change leaves the counts of other services alone. -/
theorem count?_apply_of_ne (r : Registry Handler) (h : change.service ≠ name) (node : NodeId) :
    (change.apply r).count? name node = r.count? name node := by
  rw [count?, (apply_of_ne r h).1]
  rfl

/-- A topology that is set has the counts that it has. -/
theorem topology?_setTopology (r : Registry Handler) (name : ServiceName) (t : Topology) :
    (r.setTopology name t).topology? name = some t :=
  r.topologies.get?_insert_self name t

/-- A service that is deployed is counted here at least once. -/
theorem topology?_deploy (r : Registry Handler) (service : Service Handler) :
    (r.deploy service).topology? service.name =
      some (((r.topology? service.name).getD Table.empty).insert r.nodeId
        (max ((r.count? service.name r.nodeId).getD 0) 1)) := by
  refine (r.topologies.get?_insert_self service.name _).trans ?_
  rw [count?, topology?]
  cases r.topologies.get? service.name <;> rfl

/-- Setting the instances on one node keeps the counts of the others. -/
theorem count?_setInstances_of_ne (r : Registry Handler) (name : ServiceName) (count : Nat)
    {node other : NodeId} (h : other ≠ node) :
    (r.setInstances name node count).count? name other = r.count? name other := by
  rw [count?, count?, setInstances, topology?_setTopology, topology?, Option.bind_some,
    Table.get?_insert_of_ne _ _ h]
  cases r.topologies.get? name <;> rfl

/-- Deploying counts the node of the registry. -/
theorem count?_deploy_self (r : Registry Handler) (service : Service Handler) :
    (r.deploy service).count? service.name r.nodeId =
      some (max ((r.count? service.name r.nodeId).getD 0) 1) := by
  rw [count?, topology?_deploy, Option.bind_some, Table.get?_insert_self]

/-- Deploying keeps the counts of the other nodes. -/
theorem count?_deploy_of_ne (r : Registry Handler) (service : Service Handler)
    (h : node ≠ r.nodeId) :
    (r.deploy service).count? service.name node = r.count? service.name node := by
  rw [count?, topology?_deploy, Option.bind_some, Table.get?_insert_of_ne _ _ h, count?]
  cases r.topology? service.name <;> rfl

/-- Taking a service back sets the count of the node of the registry to zero, if the service is
known. -/
theorem count?_undeploy_self (r : Registry Handler) (name : ServiceName) :
    (r.undeploy name).1.count? name r.nodeId = (r.topology? name).map fun _ => 0 := by
  have htopology : (r.undeploy name).1.topology? name =
      (r.topology? name).map (·.insert r.nodeId 0) :=
    r.topologies.get?_modify_self name _
  rw [count?, htopology]
  cases r.topology? name with
  | none => rfl
  | some t => exact t.get?_insert_self r.nodeId 0

/-- Taking a service back keeps the counts of the other nodes. -/
theorem count?_undeploy_of_ne (r : Registry Handler) (name : ServiceName) (h : node ≠ r.nodeId) :
    (r.undeploy name).1.count? name node = r.count? name node := by
  have htopology : (r.undeploy name).1.topology? name =
      (r.topology? name).map (·.insert r.nodeId 0) :=
    r.topologies.get?_modify_self name _
  rw [count?, htopology, count?]
  cases r.topology? name with
  | none => rfl
  | some t => exact t.get?_insert_of_ne 0 h

/-- Of a service that is removed nothing is left. -/
theorem removeService_self (r : Registry Handler) (name : ServiceName) :
    (r.removeService name).topology? name = none ∧ (r.removeService name).handle? name = none :=
  ⟨r.topologies.get?_erase_self name, r.handles.get?_erase_self name⟩

/-- After one change an instance runs if it was just deployed, or if it ran before and the change
keeps it. -/
theorem handle?_apply_iff (r : Registry Handler) : (change.apply r).handle? name = some s ↔
    (change = .deploy s ∧ s.name = name) ∨
      ∃ before, r.handle? name = some before ∧ change.Keeps name ∧
        s = before.registerAll (change.methods name) := by
  by_cases hname : change.service = name
  · subst hname
    cases change with
    | setTopology | setInstances =>
        constructor
        · exact fun hs => .inr ⟨s, hs, trivial, rfl⟩
        · rintro (⟨heq, -⟩ | ⟨before, hbefore, -, rfl⟩)
          · cases heq
          · exact hbefore
    | removeService name =>
        refine iff_of_false (fun h => ?_) ?_
        · cases (removeService_self r name).2.symm.trans h
        · rintro (⟨heq, -⟩ | ⟨before, -, hkeeps, -⟩)
          · cases heq
          · exact hkeeps rfl
    | deploy service =>
        refine (iff_of_eq (congrArg (· = some s)
          (r.handles.get?_insert_self service.name service))).trans ?_
        constructor
        · intro heq
          obtain rfl := Option.some.inj heq
          exact .inl ⟨rfl, rfl⟩
        · rintro (⟨heq, -⟩ | ⟨before, -, hkeeps, -⟩)
          · exact congrArg some (Change.deploy.inj heq)
          · exact absurd rfl hkeeps
    | undeploy name =>
        refine iff_of_false (fun h => ?_) ?_
        · cases (r.handles.get?_erase_self name).symm.trans h
        · rintro (⟨heq, -⟩ | ⟨before, -, hkeeps, -⟩)
          · cases heq
          · exact hkeeps rfl
    | register name signature handler =>
        have hmethods : (Change.register name signature handler).methods name =
            [(signature, handler)] := if_pos rfl
        refine (iff_of_eq (congrArg (· = some s) (r.handles.get?_modify_self name _))).trans ?_
        rw [Option.map_eq_some_iff]
        constructor
        · rintro ⟨before, hbefore, rfl⟩
          exact .inr ⟨before, hbefore, trivial, congrArg before.registerAll hmethods.symm⟩
        · rintro (⟨heq, -⟩ | ⟨before, hbefore, -, rfl⟩)
          · cases heq
          · exact ⟨before, hbefore, congrArg before.registerAll hmethods.symm⟩
  · rw [(apply_of_ne r hname).2]
    have hmethods : change.methods name = [] := by
      cases change with
      | register other signature handler => exact if_neg hname
      | setTopology | setInstances | removeService | deploy | undeploy => rfl
    have hkeeps : change.Keeps name := by
      cases change with
      | deploy | undeploy | removeService => exact hname
      | setTopology | setInstances | register => exact trivial
    constructor
    · exact fun hs => .inr ⟨s, hs, hkeeps, by rw [hmethods]; rfl⟩
    · rintro (⟨rfl, heq⟩ | ⟨before, hbefore, -, rfl⟩)
      · exact absurd heq hname
      · rw [hmethods]
        exact hbefore

/-- What runs one change later was just deployed, or it ran before and the change keeps it. -/
theorem runs_concat : Runs (changes ++ [change]) name s ↔
    (change = .deploy s ∧ s.name = name) ∨
      ∃ before, Runs changes name before ∧ change.Keeps name ∧
        s = before.registerAll (change.methods name) := by
  constructor
  · rintro ⟨service, since, hdeployed, rfl, rfl⟩
    rcases keptSince_concat.1 hdeployed with ⟨rfl, rfl⟩ | ⟨earlier, rfl, hearlier, hkeeps⟩
    · exact .inl ⟨rfl, rfl⟩
    · refine .inr ⟨_, ⟨service, earlier, hearlier, rfl, rfl⟩, hkeeps, ?_⟩
      rw [List.flatMap_append, List.flatMap_singleton, Service.registerAll_append]
  · rintro (⟨rfl, rfl⟩ | ⟨before, ⟨service, earlier, hearlier, rfl, rfl⟩, hkeeps, rfl⟩)
    · exact ⟨s, [], keptSince_concat.2 (.inl ⟨rfl, rfl⟩), rfl, rfl⟩
    · refine ⟨service, earlier ++ [change],
        keptSince_concat.2 (.inr ⟨earlier, rfl, hearlier, hkeeps⟩), rfl, ?_⟩
      rw [List.flatMap_append, List.flatMap_singleton, Service.registerAll_append]

/-- The registry holds exactly the instances that run. -/
theorem handle?_after_iff : (after nodeId changes).handle? name = some s ↔ Runs changes name s := by
  induction changes using List.reverseRecOn generalizing s with
  | nil =>
      refine iff_of_false (fun h => Option.some_ne_none s h.symm) ?_
      exact fun ⟨service, since, hdeployed, _⟩ => not_keptSince_nil hdeployed
  | append_singleton changes change ih =>
      rw [after_concat, handle?_apply_iff, runs_concat]
      simp only [ih]

/-- A service is counted on the node of the registry. -/
def IsCounted (r : Registry Handler) (name : ServiceName) : Prop :=
  ∃ count, r.count? name r.nodeId = some count ∧ 1 ≤ count

/-- A change that counts the node of the registry by deploying and taking back alone keeps the
services that run here those that are counted here. -/
theorem isCounted_apply (hchange : change.LeavesCounts r.nodeId)
    (h : ∀ name, (r.handle? name).isSome = true ↔ r.IsCounted name) (name : ServiceName) :
    ((change.apply r).handle? name).isSome = true ↔ (change.apply r).IsCounted name := by
  have hnode : (change.apply r).nodeId = r.nodeId := by cases change <;> rfl
  rw [IsCounted, hnode]
  by_cases hname : change.service = name
  · subst hname
    cases change with
    | setTopology => exact hchange.elim
    | setInstances name node count =>
        show (r.handle? name).isSome = true ↔
          ∃ n, (r.setInstances name node count).count? name r.nodeId = some n ∧ 1 ≤ n
        rw [count?_setInstances_of_ne r name count (Ne.symm hchange)]
        exact h name
    | removeService name =>
        obtain ⟨htopology, hhandle⟩ := removeService_self r name
        show ((r.removeService name).handle? name).isSome = true ↔
          ∃ n, (r.removeService name).count? name r.nodeId = some n ∧ 1 ≤ n
        rw [hhandle, count?, htopology]
        simp
    | deploy service =>
        have hhandle : (r.deploy service).handle? service.name = some service :=
          r.handles.get?_insert_self service.name service
        show ((r.deploy service).handle? service.name).isSome = true ↔
          ∃ n, (r.deploy service).count? service.name r.nodeId = some n ∧ 1 ≤ n
        rw [hhandle, count?_deploy_self]
        exact iff_of_true rfl ⟨_, rfl, Nat.le_max_right _ _⟩
    | undeploy name =>
        have hhandle : (r.undeploy name).1.handle? name = none := r.handles.get?_erase_self name
        show ((r.undeploy name).1.handle? name).isSome = true ↔
          ∃ n, (r.undeploy name).1.count? name r.nodeId = some n ∧ 1 ≤ n
        rw [hhandle, count?_undeploy_self]
        simp
    | register name signature handler =>
        have hhandle : ((r.register name signature handler).handle? name).isSome =
            (r.handle? name).isSome := by
          refine (congrArg Option.isSome (r.handles.get?_modify_self name _)).trans ?_
          exact Option.isSome_map
        show ((r.register name signature handler).handle? name).isSome = true ↔ _
        rw [hhandle]
        exact h name
  · rw [(apply_of_ne r hname).2, count?_apply_of_ne r hname]
    exact h name

/-- Where the node of the registry is counted by deploying and taking back alone, the services that
run here are those that are counted here. -/
theorem isCounted_after (h : ∀ change ∈ changes, change.LeavesCounts nodeId)
    (name : ServiceName) :
    ((after nodeId changes).handle? name).isSome = true ↔
      (after nodeId changes).IsCounted name := by
  induction changes using List.reverseRecOn generalizing name with
  | nil => exact iff_of_false Bool.false_ne_true fun ⟨_, hcount, _⟩ => nomatch hcount
  | append_singleton changes change ih =>
      rw [after_concat]
      refine isCounted_apply ?_ (ih fun c hc => h c (List.mem_append_left _ hc)) name
      rw [after_nodeId]
      exact h change (List.mem_append_right _ List.mem_cons_self)

/-- What a registry knows after a history, and after one change more. -/
structure Tracks (nodeId : NodeId) (changes : List (Change Handler)) : Prop where
  /-- The instance of a service is the one deployed last, if it was neither taken back nor removed
  since then, whatever was told about counts. -/
  instances : ∀ name s, (after nodeId changes).handle? name = some s ↔ Runs changes name s
  /-- A change leaves all other services as they are. -/
  others : ∀ (change : Change Handler) name, change.service ≠ name →
    (after nodeId (changes ++ [change])).topology? name = (after nodeId changes).topology? name ∧
    (after nodeId (changes ++ [change])).handle? name = (after nodeId changes).handle? name
  /-- Deploying leaves the counts of all other nodes as they are. -/
  deployElsewhere : ∀ (service : Service Handler) node, node ≠ nodeId →
    (after nodeId (changes ++ [.deploy service])).count? service.name node =
      (after nodeId changes).count? service.name node
  /-- Deploying raises the count of the node itself to one, and never lowers it. -/
  deployHere : ∀ service : Service Handler,
    (after nodeId (changes ++ [.deploy service])).count? service.name nodeId =
      some (max (((after nodeId changes).count? service.name nodeId).getD 0) 1)
  /-- Taking back leaves the counts of all other nodes as they are. -/
  undeployElsewhere : ∀ name node, node ≠ nodeId →
    (after nodeId (changes ++ [.undeploy name])).count? name node =
      (after nodeId changes).count? name node
  /-- If the node itself is counted by deploying and taking back alone, the services that run on it
  are those that it is counted for. -/
  counted : (∀ change ∈ changes, change.LeavesCounts nodeId) → ∀ name,
    ((after nodeId changes).handle? name).isSome = true ↔
      ∃ count, (after nodeId changes).count? name nodeId = some count ∧ 1 ≤ count

/-- The registry of a node tracks its deployments, whatever their history. -/
theorem tracks_deployments (nodeId : NodeId) (changes : List (Change Handler)) :
    Tracks nodeId changes where
  instances _ _ := handle?_after_iff
  others change name hname := by
    rw [after_concat]
    exact apply_of_ne _ hname
  deployElsewhere service node hnode := by
    rw [after_concat]
    refine count?_deploy_of_ne _ service ?_
    rwa [after_nodeId]
  deployHere service := by
    have hcount := count?_deploy_self (after nodeId changes) service
    rw [after_nodeId] at hcount
    rw [after_concat]
    exact hcount
  undeployElsewhere name node hnode := by
    rw [after_concat]
    refine count?_undeploy_of_ne _ name ?_
    rwa [after_nodeId]
  counted h name := by
    have hcounted := isCounted_after h name
    rwa [IsCounted, after_nodeId] at hcounted

/-- What is told about the node itself is not checked against what runs on it. -/
example :
    let r : Registry Unit := after "a" [.deploy (.ofName "s"), .setTopology "s" .empty]
    (r.handle? "s").isSome = true ∧ r.count? "s" "a" = none := by
  decide

end Registry

end ServiceRouting
