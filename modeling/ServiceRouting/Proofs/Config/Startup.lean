import ServiceRouting.Config.Startup
import ServiceRouting.Proofs.Cluster.History
import ServiceRouting.Proofs.Config.Validation
import ServiceRouting.Proofs.Routing.Affinity
import ServiceRouting.Proofs.Service.Deployments
import ServiceRouting.Proxy.Grid

/-!
# A node as it starts

A valid configuration starts a node, and the node knows what the configuration says
(`start_asConfigured`): no entry of one list writes over another, every service has its configured
topology and is counted here if it is deployed, and a call of a deployed service stays here. Each
part is carried through its loop by one lemma: nodes that join (`values_join`), topologies that are
set (`Configures`), services that are deployed (`Deploys`).
-/

namespace ServiceRouting

namespace Cluster

/-- Nodes that join under new identities stand in the table beside those that were there. -/
theorem values_join {nodes : List Node} {c : Cluster} (hnodup : (nodes.map (·.id)).Nodup)
    (hnew : ∀ n ∈ nodes, c.known.get? n.id = none) :
    (nodes.foldl join c).known.values.Perm (nodes ++ c.known.values) := by
  induction nodes generalizing c with
  | nil => exact .refl _
  | cons n rest ih =>
      obtain ⟨hn, hrest⟩ := List.nodup_cons.1 hnodup
      have hfirst : (c.join n).known.values.Perm (n :: c.known.values) :=
        (c.known.entries_insert_perm n (hnew n List.mem_cons_self)).map Prod.snd
      have hothers : ∀ other ∈ rest, (c.join n).known.get? other.id = none := by
        intro other hother
        have hne : other.id ≠ n.id := fun heq => hn (List.mem_map.2 ⟨other, hother, heq⟩)
        rw [get?_join, if_neg hne]
        exact hnew other (List.mem_cons_of_mem n hother)
      calc (rest.foldl join (c.join n)).known.values.Perm (rest ++ (c.join n).known.values) :=
            ih hrest hothers
        List.Perm _ (rest ++ n :: c.known.values) := hfirst.append_left rest
        List.Perm _ (n :: (rest ++ c.known.values)) := List.perm_middle

end Cluster

namespace Startup

/-- Topologies were set in a registry, each for a service of its own, and nothing else was done. -/
structure Configures (r : Registry Builtin) (topologies : List (ServiceName × Topology))
    (result : Registry Builtin) : Prop where
  nodeId : result.nodeId = r.nodeId
  handle : ∀ name, result.handle? name = r.handle? name
  listed : ∀ entry ∈ topologies, result.topology? entry.1 = some entry.2
  unlisted : ∀ name, name ∉ topologies.map Prod.fst → result.topology? name = r.topology? name

/-- Topologies are set one by one. -/
theorem configures {topologies : List (ServiceName × Topology)} (r : Registry Builtin)
    (hnodup : (topologies.map Prod.fst).Nodup) :
    Configures r topologies (topologies.foldl (fun r s => r.setTopology s.1 s.2) r) := by
  induction topologies generalizing r with
  | nil => exact ⟨rfl, fun _ => rfl, fun _ h => absurd h List.not_mem_nil, fun _ _ => rfl⟩
  | cons entry rest ih =>
      obtain ⟨name, t⟩ := entry
      obtain ⟨hname, hrest⟩ := List.nodup_cons.1 hnodup
      have hset := ih (r.setTopology name t) hrest
      refine ⟨hset.nodeId, hset.handle, ?_, ?_⟩
      · intro entry hentry
        rcases List.mem_cons.1 hentry with rfl | hentry
        · exact (hset.unlisted name hname).trans (r.topology?_setTopology name t)
        · exact hset.listed entry hentry
      · intro other hother
        rw [List.map_cons, List.mem_cons, not_or] at hother
        exact (hset.unlisted other hother.2).trans (r.topologies.get?_insert_of_ne t hother.1)

/-- Built-in services were deployed in a registry, each once, and nothing else was done. -/
structure Deploys (r : Registry Builtin) (names : List ServiceName) (result : Registry Builtin) :
    Prop where
  nodeId : result.nodeId = r.nodeId
  handle : ∀ name ∈ names, result.handle? name = Builtin.service? id name
  topology : ∀ name ∈ names, result.topology? name =
    some (((r.topology? name).getD Table.empty).insert r.nodeId
      (max ((r.count? name r.nodeId).getD 0) 1))
  others : ∀ name, name ∉ names →
    result.topology? name = r.topology? name ∧ result.handle? name = r.handle? name

/-- Built-in services are deployed one by one, and none is missing. -/
theorem exists_deploys {names : List ServiceName} (r : Registry Builtin)
    (hbuiltin : ∀ name ∈ names, name ∈ Builtin.serviceNames) (hnodup : names.Nodup) :
    ∃ result, names.foldlM deployBuiltin r = .ok result ∧ Deploys r names result := by
  induction names generalizing r with
  | nil =>
      exact ⟨r, rfl, rfl, fun _ h => absurd h List.not_mem_nil,
        fun _ h => absurd h List.not_mem_nil, fun _ _ => ⟨rfl, rfl⟩⟩
  | cons name rest ih =>
      obtain ⟨hname, hrest⟩ := List.nodup_cons.1 hnodup
      obtain ⟨service, hservice, rfl⟩ :=
        Builtin.exists_service id (hbuiltin name List.mem_cons_self)
      have hstep : deployBuiltin r service.name = .ok (r.deploy service) := by
        rw [deployBuiltin, hservice]
      obtain ⟨result, hresult, hdeploys⟩ :=
        ih (r.deploy service) (fun other hother => hbuiltin other (List.mem_cons_of_mem _ hother))
          hrest
      -- The services deployed later have other names, so they leave this one as it is.
      have hkeeps : ∀ other, service.name ≠ other →
          (r.deploy service).topology? other = r.topology? other ∧
            (r.deploy service).handle? other = r.handle? other := by
        intro other hne
        have hchange : (Registry.Change.deploy service).service ≠ other := hne
        exact Registry.apply_of_ne r hchange
      have hother : ∀ other ∈ rest, service.name ≠ other :=
        fun other hother heq => hname (heq ▸ hother)
      obtain ⟨htopology, hhandle⟩ := hdeploys.others service.name hname
      refine ⟨result, ?_, hdeploys.nodeId, ?_, ?_, ?_⟩
      · rw [List.foldlM_cons, hstep]
        exact hresult
      · intro other hmem
        rcases List.mem_cons.1 hmem with rfl | hmem
        · rw [hhandle, hservice]
          exact r.handles.get?_insert_self service.name service
        · exact hdeploys.handle other hmem
      · intro other hmem
        rcases List.mem_cons.1 hmem with rfl | hmem
        · rw [htopology, Registry.topology?_deploy]
        · rw [hdeploys.topology other hmem, Registry.count?,
            (hkeeps other (hother other hmem)).1]
          rfl
      · intro other hmem
        rw [List.mem_cons, not_or] at hmem
        obtain ⟨hne, hmem⟩ := hmem
        obtain ⟨htopology, hhandle⟩ := hdeploys.others other hmem
        obtain ⟨htopology', hhandle'⟩ := hkeeps other (Ne.symm hne)
        exact ⟨htopology.trans htopology', hhandle.trans hhandle'⟩

/-- The resolutions of a service by draws and tags, one after the other. -/
def resolutions (uses : List (Nat × Tag)) : List (Occurrence Builtin) :=
  uses.map fun use => .resolve use.1 use.2

variable {s : Selector} {c : Cluster} {r : Registry Builtin} {service : ServiceName}

/-- Resolutions of a service that runs on the local node leave nothing in the slot but that node. -/
theorem held_resolutions (hlocal : s.hasLocalNode = true)
    (hhandle : (r.handle? service).isSome = true) (uses : List (Nat × Tag)) :
    let now := Surroundings.run s service ⟨c, r, .empty⟩ (resolutions uses)
    now.cluster = c ∧ now.registry = r ∧
      ∀ target, now.slot.held = some target → target.node = c.localNode := by
  induction uses using List.reverseRecOn with
  | nil => exact ⟨rfl, rfl, fun _ h => nomatch h⟩
  | append_singleton uses use ih =>
      obtain ⟨hcluster, hregistry, hheld⟩ := ih
      rw [resolutions, List.map_append, ← resolutions, List.map_singleton, Surroundings.run_concat]
      refine ⟨hcluster, hregistry, fun target htarget => ?_⟩
      obtain hkept | ⟨draw, -, -, hselect⟩ := Surroundings.held_step htarget
      · exact hheld target hkept
      · rw [hcluster, hregistry, Selector.select, Selector.choice_of_affinity hlocal hhandle]
          at hselect
        exact (Option.some.inj hselect).symm

/-- Every resolution of a service that runs on the local node gives this node, whatever was resolved
before. -/
theorem resolve_local (hlocal : s.hasLocalNode = true)
    (hhandle : (r.handle? service).isSome = true) (uses : List (Nat × Tag)) (draw : Nat)
    (tag : Tag) :
    ∃ target, (s.resolve c r service draw tag
        (Surroundings.run s service ⟨c, r, .empty⟩ (resolutions uses)).slot).2 = some target ∧
      target.node = c.localNode := by
  obtain ⟨-, -, hheld⟩ := held_resolutions (c := c) hlocal hhandle uses
  generalize (Surroundings.run s service ⟨c, r, .empty⟩ (resolutions uses)).slot = slot at hheld ⊢
  by_cases hkept : s.options.sticky = true ∧ slot.held ≠ none
  · obtain ⟨hsticky, hsome⟩ := hkept
    obtain ⟨target, htarget⟩ := Option.ne_none_iff_exists'.1 hsome
    exact ⟨target, by rw [Selector.resolve_of_held hsticky htarget], hheld target htarget⟩
  · have hunset : s.options.sticky = true → slot.held = none :=
      fun hsticky => Decidable.byContradiction fun hsome => hkept ⟨hsticky, hsome⟩
    exact ⟨⟨tag, c.localNode⟩, Selector.resolve_of_affinity hlocal hhandle hunset, rfl⟩

/-- The proxy that a grid makes for a service is one of the whole cluster, with the options of the
grid and an empty slot. -/
theorem exists_serviceProxy (g : Grid) (c : Cluster) {name : ServiceName}
    (h : g.shared.get? name = none) :
    ∃ token, (g.serviceProxy c name).1.pool.get? (g.serviceProxy c name).2 =
      some (.make c name (.all []) g.registry g.options token) := by
  refine ⟨(g.pool.tokens.child g.shutdownToken).2, ?_⟩
  rw [Grid.serviceProxy, h]
  exact List.getElem?_concat_length

/-- The members that a node knows when it starts, listening at an address. -/
structure KnowsMembers (config : NodeConfig) (address : SocketAddress) (cluster : Cluster) :
    Prop where
  localNode : cluster.localNode = ⟨config.nodeId, address, .alive⟩
  /-- As many nodes are known as the node itself and its peers. -/
  size : cluster.size = 1 + config.peers.length
  /-- The members are the node itself, and each peer at its address. -/
  members : cluster.members.Perm
    (⟨config.nodeId, address, .alive⟩ ::
      config.peers.map fun peer => ⟨peer.id, peer.address, .alive⟩)

/-- The services that a node knows when it starts. -/
structure KnowsServices (config : NodeConfig) (registry : Registry Builtin) : Prop where
  nodeId : registry.nodeId = config.nodeId
  /-- A configured service that is not deployed has its configured topology. -/
  configured : ∀ service ∈ config.services, service.name ∉ config.deploy →
    registry.topology? service.name = some service.topology
  /-- A configured service that is deployed has its configured topology, save that the node itself
  has at least one instance. -/
  deployed : ∀ service ∈ config.services, service.name ∈ config.deploy →
    ∃ t, registry.topology? service.name = some t ∧
      t.get? config.nodeId = some (max ((service.topology.get? config.nodeId).getD 0) 1) ∧
      ∀ node, node ≠ config.nodeId → t.get? node = service.topology.get? node
  /-- A deployed service that is not configured runs on the node alone. -/
  unconfigured : ∀ name ∈ config.deploy, name ∉ config.services.map (·.name) →
    registry.topology? name = some (Table.empty.insert config.nodeId 1)
  /-- No other service is known. -/
  known : ∀ name, (registry.topology? name).isSome = true ↔
    name ∈ config.deploy ∨ name ∈ config.services.map (·.name)
  /-- The deployed services run here, and no other. -/
  running : ∀ name, (registry.handle? name).isSome = true ↔ name ∈ config.deploy
  /-- A deployed service is the built-in service of its name. -/
  builtin : ∀ name service, registry.handle? name = some service →
    Builtin.service? id name = some service

/-- What a node knows that starts as its configuration says, listening at another address than the
configured one if there is one. -/
structure AsConfigured (config : NodeConfig) (bind : Option SocketAddress) (started : Startup) :
    Prop where
  members : KnowsMembers config (bind.getD config.bind) started.cluster
  services : KnowsServices config started.registry
  /-- The proxy that a grid makes for a deployed service resolves it to the node itself, on its
  first use and ever after. -/
  resolved : ∀ name ∈ config.deploy, ∀ g : Grid, g.shared.get? name = none →
    ∃ p, (g.serviceProxy started.cluster name).1.pool.get?
        (g.serviceProxy started.cluster name).2 = some p ∧ p.name = name ∧
      ∀ uses draw tag, ∃ target,
        (p.selector.resolve started.cluster started.registry name draw tag
          (Surroundings.run p.selector name ⟨started.cluster, started.registry, p.slot⟩
            (resolutions uses)).slot).2 = some target ∧
        target.node = started.cluster.localNode

/-- The member table of a valid configuration lists the node itself and its peers. -/
theorem values_members {config : NodeConfig} (h : config.IsValid) :
    (members config).known.values.Perm (config.localNode :: config.peerNodes) := by
  have hids : config.peerNodes.map (·.id) = config.peers.map (·.id) := List.map_map
  have hnew : ∀ n ∈ config.peerNodes, (Cluster.ofNode config.localNode).known.get? n.id = none := by
    intro n hn
    obtain ⟨peer, hpeer, rfl⟩ := List.mem_map.1 hn
    exact Table.get?_insert_of_ne _ _ (h.peersElsewhere peer hpeer)
  exact (Cluster.values_join (hids ▸ h.peersDistinct) hnew).trans List.perm_append_comm

/-- The members of a valid configuration are known, and all of them are alive. -/
theorem knowsMembers {config : NodeConfig} (h : config.IsValid) :
    KnowsMembers config config.bind (members config) where
  localNode := by
    have hafter : Cluster.after config.localNode (config.peerNodes.map .join) = members config :=
      List.foldl_map
    rw [← hafter, Cluster.after_localNode]
    rfl
  size := by
    have hlength := (values_members h).length_eq
    rw [List.length_cons, NodeConfig.peerNodes, List.length_map, Table.values, List.length_map]
      at hlength
    exact hlength.trans (Nat.add_comm _ _)
  members := by
    have halive : (config.localNode :: config.peerNodes).filter Node.isAlive =
        config.localNode :: config.peerNodes := by
      refine List.filter_eq_self.2 fun n hn => ?_
      rcases List.mem_cons.1 hn with rfl | hn
      · rfl
      · obtain ⟨peer, -, rfl⟩ := List.mem_map.1 hn
        rfl
    exact halive ▸ (values_members h).filter Node.isAlive

/-- The services of a valid configuration are known, and the built-in ones are deployed. -/
theorem exists_knowsServices {config : NodeConfig} (h : config.IsValid) :
    ∃ registry, config.deploy.foldlM deployBuiltin (configured config) = .ok registry ∧
      KnowsServices config registry := by
  have hnames : config.topologies.map Prod.fst = config.services.map (·.name) := List.map_map
  have hset : Configures (.ofNode config.nodeId) config.topologies (configured config) :=
    configures (.ofNode config.nodeId) (hnames ▸ h.configuredOnce)
  obtain ⟨registry, hregistry, hdeploys⟩ :=
    exists_deploys (configured config) h.builtin h.deployedOnce
  have hlisted : ∀ service ∈ config.services,
      (configured config).topology? service.name = some service.topology :=
    fun service hservice => hset.listed _ (List.mem_map_of_mem hservice)
  have hunlisted : ∀ name, name ∉ config.services.map (·.name) →
      (configured config).topology? name = none :=
    fun name hname => hset.unlisted name (hnames ▸ hname)
  have hnodeId : (configured config).nodeId = config.nodeId := hset.nodeId
  refine ⟨registry, hregistry, hdeploys.nodeId.trans hnodeId, ?_, ?_, ?_, ?_, ?_, ?_⟩
  · exact fun service hservice hname =>
      (hdeploys.others service.name hname).1.trans (hlisted service hservice)
  · intro service hservice hname
    refine ⟨_, hdeploys.topology service.name hname, ?_, fun node hnode => ?_⟩
    · rw [hnodeId, Table.get?_insert_self, Registry.count?, hlisted service hservice]
      rfl
    · rw [hnodeId, Table.get?_insert_of_ne _ _ hnode, hlisted service hservice]
      rfl
  · intro name hname hunconfigured
    rw [hdeploys.topology name hname, Registry.count?, hunlisted name hunconfigured, hnodeId]
    rfl
  · intro name
    by_cases hname : name ∈ config.deploy
    · rw [hdeploys.topology name hname]
      exact iff_of_true rfl (.inl hname)
    · rw [(hdeploys.others name hname).1]
      by_cases hconfigured : name ∈ config.services.map (·.name)
      · obtain ⟨service, hservice, rfl⟩ := List.mem_map.1 hconfigured
        rw [hlisted service hservice]
        exact iff_of_true rfl (.inr hconfigured)
      · rw [hunlisted name hconfigured]
        exact iff_of_false Bool.false_ne_true (not_or.2 ⟨hname, hconfigured⟩)
  · intro name
    by_cases hname : name ∈ config.deploy
    · obtain ⟨service, hservice, -⟩ := Builtin.exists_service id (h.builtin name hname)
      rw [hdeploys.handle name hname, hservice]
      exact iff_of_true rfl hname
    · rw [(hdeploys.others name hname).2, hset.handle]
      exact iff_of_false Bool.false_ne_true hname
  · intro name service hservice
    by_cases hname : name ∈ config.deploy
    · rwa [hdeploys.handle name hname] at hservice
    · rw [(hdeploys.others name hname).2, hset.handle] at hservice
      cases hservice

/-- A valid configuration starts a node, and the node knows what the configuration says. -/
theorem start_asConfigured (config : NodeConfig) (bind : Option SocketAddress)
    (h : config.violation? = none) :
    ∃ started, start config bind = .ok started ∧ AsConfigured config bind started := by
  have hvalid := NodeConfig.violation?_eq_none_iff.1 h
  have hbound : (bound config bind).IsValid := { hvalid with }
  have hmembers := knowsMembers hbound
  obtain ⟨registry, hregistry, hservices⟩ := exists_knowsServices hbound
  refine ⟨⟨members (bound config bind), registry, config.proxy.options,
    config.proxy.requestTimeout⟩, ?_, { hmembers with }, { hservices with }, ?_⟩
  · rw [start, hregistry]
    rfl
  · intro name hname g hunused
    obtain ⟨token, hproxy⟩ := exists_serviceProxy g (members (bound config bind)) hunused
    have hlocal : (Projection.all []).containsLocal (members (bound config bind)) = true := by
      rw [Projection.containsLocal, List.any_eq_true, hmembers.localNode]
      exact ⟨_, hmembers.members.mem_iff.2 List.mem_cons_self, decide_eq_true rfl⟩
    exact ⟨_, hproxy, rfl, fun uses draw tag =>
      resolve_local hlocal ((hservices.running name).2 hname) uses draw tag⟩

/-- A local address with this port. -/
def addressAt (port : Nat) : SocketAddress :=
  .v4 (Fin.last 255) (Fin.last 255) (Fin.last 255) (Fin.last 255)
    ⟨port % 65536, Nat.mod_lt port (Nat.succ_pos 65535)⟩

/-- A node with two peers. Of the services that it deploys, one is known to run on a peer and is
listed here without an instance, and the other is not configured. -/
def branch : NodeConfig where
  nodeId := "branch"
  bind := addressAt 6001
  deploy := ["calculator", "echo"]
  peers := [⟨"depot", addressAt 6002⟩, ⟨"office", addressAt 6003⟩]
  services :=
    [⟨"calculator", (Table.empty.insert "branch" 0).insert "depot" 2⟩,
     ⟨"billing", Table.empty.insert "office" 1⟩]
  proxy := { sticky := true }

/-- The branch starts as configured, also at another address. -/
theorem start_asConfigured_of_branch :
    branch.violation? = none ∧
    ∃ started, start branch (some (addressAt 7001)) = .ok started ∧
      AsConfigured branch (some (addressAt 7001)) started := by
  have hvalid : branch.violation? = none := by decide
  exact ⟨hvalid, start_asConfigured branch _ hvalid⟩

end Startup

end ServiceRouting
