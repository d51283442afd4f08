import Mathlib.Data.List.TakeWhile
import ServiceRouting.Config.Load
import ServiceRouting.Proofs.Config.Validation

/-!
# Which violation is reported

A configuration that is not valid is refused for the first rule that it breaks: the identity is
looked at first, then the peers, the deployed services and the configured services, and in a list
the names are looked at one by one (`Reports`). `validation_exact` says that a configuration is
accepted exactly if it is valid, and refused for exactly this violation otherwise.
-/

namespace ServiceRouting

namespace Text

/-- A text without the white space at its ends. -/
def trim (text : String) : String :=
  String.ofList ((text.toList.dropWhile isBlankChar).reverse.dropWhile isBlankChar).reverse

/-- Nothing is left of a text without the white space at its ends exactly if the text is blank. -/
theorem isBlank_iff_trim {text : String} : isBlank text = true ↔ trim text = "" := by
  have hempty : trim text = "" ↔
      (text.toList.dropWhile isBlankChar).reverse.dropWhile isBlankChar = [] := by
    simp [trim]
  rw [hempty, isBlank, List.all_eq_true, List.dropWhile_eq_nil_iff]
  constructor
  · intro h c hc
    exact h c ((List.dropWhile_sublist _).subset (List.mem_reverse.1 hc))
  · intro h c hc
    rw [← List.takeWhile_append_dropWhile (p := isBlankChar) (l := text.toList)] at hc
    rcases List.mem_append.1 hc with hc | hc
    · exact List.mem_takeWhile_imp hc
    · exact h c (List.mem_reverse.2 hc)

end Text

/-- The names of the built-in services are those that have a service. -/
theorem Builtin.mem_serviceNames_iff {Handler : Type} (wrap : Builtin → Handler)
    {name : ServiceName} : name ∈ serviceNames ↔ ∃ service, service? wrap name = some service := by
  constructor
  · intro h
    obtain ⟨service, hservice, -⟩ := exists_service wrap h
    exact ⟨service, hservice⟩
  · rintro ⟨service, hservice⟩
    obtain ⟨methods, hmethods, -⟩ := Option.map_eq_some_iff.1 hservice
    unfold methods? at hmethods
    split at hmethods <;> simp_all [serviceNames]

section

variable {rule : List String → String → Option Violation} {Good : String → Prop}
  {before names : List String} {v : Violation}

/-- The first violation is that of the name with which one arises while none arose before. -/
theorem firstViolation_eq_some_iff : firstViolation rule before names = some v ↔
    ∃ earlier name later, names = earlier ++ name :: later ∧
      firstViolation rule before earlier = none ∧ rule (before ++ earlier) name = some v := by
  induction names generalizing before with
  | nil => simp [firstViolation]
  | cons first rest ih =>
      rw [firstViolation_cons, Option.or_eq_some_iff, ih]
      constructor
      · rintro (hfirst | ⟨hnone, earlier, name, later, rfl, hearlier, hname⟩)
        · exact ⟨[], first, rest, rfl, rfl, by rwa [List.append_nil]⟩
        · refine ⟨first :: earlier, name, later, rfl, ?_, by rwa [List.append_cons]⟩
          rw [firstViolation_cons, hnone, hearlier, Option.or_none]
      · rintro ⟨earlier, name, later, heq, hearlier, hname⟩
        cases earlier with
        | nil =>
            obtain ⟨rfl, rfl⟩ := List.cons.inj heq
            exact .inl (by rwa [List.append_nil] at hname)
        | cons other earlier =>
            obtain ⟨rfl, rfl⟩ := List.cons.inj heq
            rw [firstViolation_cons, Option.or_eq_none_iff] at hearlier
            rw [List.append_cons] at hname
            exact .inr ⟨hearlier.1, earlier, name, later, rfl, hearlier.2, hname⟩

/-- All names of a list are good, and none of them occurs twice. -/
structure AreSound (Good : String → Prop) (names : List String) : Prop where
  good : ∀ name ∈ names, Good name
  distinct : names.Nodup

/-- A name comes in a list after names that are good and none of which occurs twice. -/
structure ComesAfter (Good : String → Prop) (names before : List String) (name : String) :
    Prop where
  sound : AreSound Good before
  split : ∃ after, names = before ++ name :: after

/-- No violation is found in a list if its names are sound. -/
theorem firstViolation_eq_none_iff_areSound
    (hrule : ∀ before name, rule before name = none ↔ Good name ∧ name ∉ before) :
    firstViolation rule [] names = none ↔ AreSound Good names := by
  rw [firstViolation_eq_none_iff hrule]
  simp only [List.not_mem_nil, not_false_eq_true, and_true]
  exact ⟨fun h => ⟨h.1, h.2⟩, fun h => ⟨h.good, h.distinct⟩⟩

/-- The first violation is found with the name that comes after sound ones. -/
theorem firstViolation_eq_some_iff_comesAfter
    (hrule : ∀ before name, rule before name = none ↔ Good name ∧ name ∉ before) :
    firstViolation rule [] names = some v ↔
      ∃ before name, ComesAfter Good names before name ∧ rule before name = some v := by
  rw [firstViolation_eq_some_iff]
  constructor
  · rintro ⟨before, name, after, hsplit, hbefore, hname⟩
    exact ⟨before, name, ⟨(firstViolation_eq_none_iff_areSound hrule).1 hbefore, after, hsplit⟩,
      hname⟩
  · rintro ⟨before, name, ⟨hsound, after, hsplit⟩, hname⟩
    exact ⟨before, name, after, hsplit, (firstViolation_eq_none_iff_areSound hrule).2 hsound,
      hname⟩

end

namespace NodeConfig

/-- The identities of the peers. -/
def peerIds (c : NodeConfig) : List NodeId := c.peers.map (·.id)

/-- The names of the configured services. -/
def serviceNames (c : NodeConfig) : List ServiceName := c.services.map (·.name)

/-- The first rule that a configuration breaks. What is looked at before is sound: the identity of
the node before its peers, these before the deployed services, these before the configured ones, and
in each list the names before the one at fault. -/
inductive Reports (c : NodeConfig) : Violation → Prop where
  | blankId : Text.isBlank c.nodeId = true → Reports c .blankId
  | peerIsLocal {before : List NodeId} : Text.isBlank c.nodeId = false →
      ComesAfter (· ≠ c.nodeId) c.peerIds before c.nodeId → Reports c (.peerIsLocal c.nodeId)
  | repeatedPeer {before : List NodeId} {id : NodeId} : Text.isBlank c.nodeId = false →
      ComesAfter (· ≠ c.nodeId) c.peerIds before id → id ≠ c.nodeId → id ∈ before →
      Reports c (.repeatedPeer id)
  | notBuiltin {before : List ServiceName} {name : ServiceName} :
      Text.isBlank c.nodeId = false → AreSound (· ≠ c.nodeId) c.peerIds →
      ComesAfter (· ∈ Builtin.serviceNames) c.deploy before name →
      name ∉ Builtin.serviceNames → Reports c (.notBuiltin name)
  | deployedTwice {before : List ServiceName} {name : ServiceName} :
      Text.isBlank c.nodeId = false → AreSound (· ≠ c.nodeId) c.peerIds →
      ComesAfter (· ∈ Builtin.serviceNames) c.deploy before name →
      name ∈ Builtin.serviceNames → name ∈ before → Reports c (.deployedTwice name)
  | unnamedService {before : List ServiceName} :
      Text.isBlank c.nodeId = false → AreSound (· ≠ c.nodeId) c.peerIds →
      AreSound (· ∈ Builtin.serviceNames) c.deploy →
      ComesAfter (· ≠ "") c.serviceNames before "" → Reports c .unnamedService
  | configuredTwice {before : List ServiceName} {name : ServiceName} :
      Text.isBlank c.nodeId = false → AreSound (· ≠ c.nodeId) c.peerIds →
      AreSound (· ∈ Builtin.serviceNames) c.deploy →
      ComesAfter (· ≠ "") c.serviceNames before name → name ≠ "" → name ∈ before →
      Reports c (.configuredTwice name)

variable {c : NodeConfig} {v : Violation} {before : List String} {name : String}

/-- What a peer is reported for. -/
theorem peerRule_eq_some_iff (nodeId : NodeId) : peerRule nodeId before name = some v ↔
    (name = nodeId ∧ .peerIsLocal name = v) ∨
      (name ≠ nodeId ∧ name ∈ before ∧ .repeatedPeer name = v) := by
  rw [peerRule]
  split <;> simp_all

/-- What a deployed service is reported for. -/
theorem deployRule_eq_some_iff : deployRule before name = some v ↔
    (name ∉ Builtin.serviceNames ∧ .notBuiltin name = v) ∨
      (name ∈ Builtin.serviceNames ∧ name ∈ before ∧ .deployedTwice name = v) := by
  rw [deployRule]
  split <;> simp_all

/-- What a configured service is reported for. -/
theorem serviceRule_eq_some_iff : serviceRule before name = some v ↔
    (name = "" ∧ .unnamedService = v) ∨
      (name ≠ "" ∧ name ∈ before ∧ .configuredTwice name = v) := by
  rw [serviceRule]
  split <;> simp_all

/-- A violation is found among the peers if the identity is not blank, among the deployed services
if none is found there, and among the configured ones if none is found there either. -/
theorem violation?_eq_some_cases : c.violation? = some v ↔
    (Text.isBlank c.nodeId = true ∧ .blankId = v) ∨
    (Text.isBlank c.nodeId = false ∧
      firstViolation (peerRule c.nodeId) [] c.peerIds = some v) ∨
    (Text.isBlank c.nodeId = false ∧ AreSound (· ≠ c.nodeId) c.peerIds ∧
      firstViolation deployRule [] c.deploy = some v) ∨
    (Text.isBlank c.nodeId = false ∧ AreSound (· ≠ c.nodeId) c.peerIds ∧
      AreSound (· ∈ Builtin.serviceNames) c.deploy ∧
      firstViolation serviceRule [] c.serviceNames = some v) := by
  rw [violation?, ← firstViolation_eq_none_iff_areSound (peerRule_eq_none_iff c.nodeId),
    ← firstViolation_eq_none_iff_areSound deployRule_eq_none_iff]
  cases Text.isBlank c.nodeId with
  | true => simp
  | false => simp [Option.or_eq_some_iff, and_or_left, peerIds, serviceNames]

/-- The violation of a configuration is the one that is reported. -/
theorem violation?_eq_some_iff : c.violation? = some v ↔ c.Reports v := by
  rw [violation?_eq_some_cases,
    firstViolation_eq_some_iff_comesAfter (peerRule_eq_none_iff c.nodeId),
    firstViolation_eq_some_iff_comesAfter deployRule_eq_none_iff,
    firstViolation_eq_some_iff_comesAfter serviceRule_eq_none_iff]
  simp only [peerRule_eq_some_iff, deployRule_eq_some_iff, serviceRule_eq_some_iff]
  constructor
  · rintro (⟨hblank, rfl⟩ | ⟨hnamed, before, id, hafter, hrule⟩ |
      ⟨hnamed, hpeers, before, name, hafter, hrule⟩ |
      ⟨hnamed, hpeers, hdeploy, before, name, hafter, hrule⟩)
    · exact .blankId hblank
    · rcases hrule with ⟨rfl, rfl⟩ | ⟨hgood, hmem, rfl⟩
      · exact .peerIsLocal hnamed hafter
      · exact .repeatedPeer hnamed hafter hgood hmem
    · rcases hrule with ⟨hbad, rfl⟩ | ⟨hgood, hmem, rfl⟩
      · exact .notBuiltin hnamed hpeers hafter hbad
      · exact .deployedTwice hnamed hpeers hafter hgood hmem
    · rcases hrule with ⟨rfl, rfl⟩ | ⟨hgood, hmem, rfl⟩
      · exact .unnamedService hnamed hpeers hdeploy hafter
      · exact .configuredTwice hnamed hpeers hdeploy hafter hgood hmem
  · intro h
    cases h with
    | blankId hblank => exact .inl ⟨hblank, rfl⟩
    | peerIsLocal hnamed hafter => exact .inr (.inl ⟨hnamed, _, _, hafter, .inl ⟨rfl, rfl⟩⟩)
    | repeatedPeer hnamed hafter hgood hmem =>
        exact .inr (.inl ⟨hnamed, _, _, hafter, .inr ⟨hgood, hmem, rfl⟩⟩)
    | notBuiltin hnamed hpeers hafter hbad =>
        exact .inr (.inr (.inl ⟨hnamed, hpeers, _, _, hafter, .inl ⟨hbad, rfl⟩⟩))
    | deployedTwice hnamed hpeers hafter hgood hmem =>
        exact .inr (.inr (.inl ⟨hnamed, hpeers, _, _, hafter, .inr ⟨hgood, hmem, rfl⟩⟩))
    | unnamedService hnamed hpeers hdeploy hafter =>
        exact .inr (.inr (.inr ⟨hnamed, hpeers, hdeploy, _, _, hafter, .inl ⟨rfl, rfl⟩⟩))
    | configuredTwice hnamed hpeers hdeploy hafter hgood hmem =>
        exact .inr (.inr (.inr ⟨hnamed, hpeers, hdeploy, _, _, hafter, .inr ⟨hgood, hmem, rfl⟩⟩))

/-- What holds of the check of a configuration that was read. -/
structure Validated (c : NodeConfig) : Prop where
  /-- The configuration is accepted exactly if it is valid. -/
  accepted : checked (.ok c) = .ok c ↔ c.IsValid
  /-- The configuration is refused exactly for the violation that is reported. -/
  refused : ∀ e, checked (.ok c) = .error e ↔ ∃ v, c.Reports v ∧ e = .invalid v
  /-- The identity of the node is blank exactly if nothing is left of it without the white space at
  its ends. -/
  blank : Text.isBlank c.nodeId = true ↔ Text.trim c.nodeId = ""
  /-- The built-in names are those that a service can be made for. -/
  deployable : ∀ name, name ∈ Builtin.serviceNames ↔
    ∃ service, Builtin.service? id name = some service

/-- The check of a configuration is exact, in what it accepts and in what it reports. -/
theorem validation_exact (c : NodeConfig) : Validated c where
  accepted := by
    rw [← violation?_eq_none_iff, checked]
    cases c.violation? <;> simp
  refused e := by
    simp only [← violation?_eq_some_iff, checked]
    cases c.violation? <;> simp [eq_comm]
  blank := Text.isBlank_iff_trim
  deployable _ := Builtin.mem_serviceNames_iff id

end NodeConfig

end ServiceRouting
