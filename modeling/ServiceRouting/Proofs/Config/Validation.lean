import ServiceRouting.Config.Validation

/-!
# What makes a configuration valid

A configuration is looked at name by name, and the first violation ends the search.
`violation?_eq_none_iff` says what there is to know of a configuration in which none is found, with
no regard to the order in which its lists are gone through.
-/

namespace ServiceRouting

/-- Every name among those of the built-in services has a service of that name. -/
theorem Builtin.exists_service {Handler : Type} (wrap : Builtin → Handler) {name : ServiceName}
    (h : name ∈ serviceNames) :
    ∃ service, service? wrap name = some service ∧ service.name = name := by
  rw [serviceNames] at h
  rcases List.mem_cons.1 h with rfl | h
  · exact ⟨_, rfl, rfl⟩
  · obtain rfl := List.mem_singleton.1 h
    exact ⟨_, rfl, rfl⟩

/-- A name that breaks a rule ends the search, and one that breaks none does not. -/
theorem firstViolation_cons (rule : List String → String → Option Violation)
    (before : List String) (first : String) (names : List String) :
    firstViolation rule before (first :: names) =
      (rule before first).or (firstViolation rule (before ++ [first]) names) := by
  rw [firstViolation]
  cases rule before first <;> rfl

/-- No name of a list breaks a rule if each name is good and none occurs twice, for a rule that asks
just that. -/
theorem firstViolation_eq_none_iff {rule : List String → String → Option Violation}
    {Good : String → Prop} (hrule : ∀ before name, rule before name = none ↔
      Good name ∧ name ∉ before) {before names : List String} :
    firstViolation rule before names = none ↔
      (∀ name ∈ names, Good name ∧ name ∉ before) ∧ names.Nodup := by
  induction names generalizing before with
  | nil => simp [firstViolation]
  | cons name rest ih =>
      rw [firstViolation_cons, Option.or_eq_none_iff, hrule, ih, List.forall_mem_cons,
        List.nodup_cons]
      constructor
      · rintro ⟨hname, hrest, hnodup⟩
        refine ⟨⟨hname, fun other hother => ?_⟩, fun hmem => ?_, hnodup⟩
        · obtain ⟨hgood, hnew⟩ := hrest other hother
          exact ⟨hgood, fun hmem => hnew (List.mem_append_left _ hmem)⟩
        · exact (hrest name hmem).2 (List.mem_append_right _ List.mem_cons_self)
      · rintro ⟨⟨hname, hrest⟩, hnew, hnodup⟩
        refine ⟨hname, fun other hother => ?_, hnodup⟩
        obtain ⟨hgood, hbefore⟩ := hrest other hother
        refine ⟨hgood, fun hmem => ?_⟩
        rcases List.mem_append.1 hmem with hmem | hmem
        · exact hbefore hmem
        · exact hnew (List.mem_singleton.1 hmem ▸ hother)

namespace NodeConfig

/-- What holds of a configuration that breaks no rule. -/
structure IsValid (c : NodeConfig) : Prop where
  named : Text.isBlank c.nodeId = false
  /-- The peers are other nodes than the node itself, and they differ from each other. -/
  peersElsewhere : ∀ peer ∈ c.peers, peer.id ≠ c.nodeId
  peersDistinct : (c.peers.map (·.id)).Nodup
  builtin : ∀ name ∈ c.deploy, name ∈ Builtin.serviceNames
  deployedOnce : c.deploy.Nodup
  servicesNamed : ∀ service ∈ c.services, service.name ≠ ""
  configuredOnce : (c.services.map (·.name)).Nodup

/-- The rule for peers asks for identities of their own. -/
theorem peerRule_eq_none_iff (nodeId : NodeId) (before : List String) (id : String) :
    peerRule nodeId before id = none ↔ id ≠ nodeId ∧ id ∉ before := by
  rw [peerRule]
  split <;> simp_all

/-- The rule for deployed services asks for built-in ones, each once. -/
theorem deployRule_eq_none_iff (before : List String) (name : String) :
    deployRule before name = none ↔ name ∈ Builtin.serviceNames ∧ name ∉ before := by
  rw [deployRule]
  split <;> simp_all

/-- The rule for configured services asks for names of their own. -/
theorem serviceRule_eq_none_iff (before : List String) (name : String) :
    serviceRule before name = none ↔ name ≠ "" ∧ name ∉ before := by
  rw [serviceRule]
  split <;> simp_all

/-- A configuration breaks no rule if it is valid. -/
theorem violation?_eq_none_iff {c : NodeConfig} : c.violation? = none ↔ c.IsValid := by
  have hnone : c.violation? = none ↔ Text.isBlank c.nodeId = false ∧
      firstViolation (peerRule c.nodeId) [] (c.peers.map (·.id)) = none ∧
      firstViolation deployRule [] c.deploy = none ∧
      firstViolation serviceRule [] (c.services.map (·.name)) = none := by
    rw [violation?]
    cases Text.isBlank c.nodeId <;> simp [Option.or_eq_none_iff]
  rw [hnone, firstViolation_eq_none_iff (peerRule_eq_none_iff c.nodeId),
    firstViolation_eq_none_iff deployRule_eq_none_iff,
    firstViolation_eq_none_iff serviceRule_eq_none_iff]
  simp only [List.forall_mem_map, List.not_mem_nil, not_false_eq_true, and_true]
  constructor
  · rintro ⟨hnamed, ⟨hpeers, hdistinct⟩, ⟨hbuiltin, honce⟩, hservices, hconfigured⟩
    exact ⟨hnamed, hpeers, hdistinct, hbuiltin, honce, hservices, hconfigured⟩
  · intro h
    exact ⟨h.named, ⟨h.peersElsewhere, h.peersDistinct⟩, ⟨h.builtin, h.deployedOnce⟩,
      h.servicesNamed, h.configuredOnce⟩

end NodeConfig

end ServiceRouting
