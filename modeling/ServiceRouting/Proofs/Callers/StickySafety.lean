import ServiceRouting.Proofs.Callers.Sharing

/-!
# The safety of the sticky slot

What holds at every moment of every interleaving of a sticky proxy's callers, whatever the order of
their steps. Read `SlotSafe` first. Installations are told apart by their origin, the moment of the
selection behind them: neither the node nor the tag would do, since the node can be selected again
and the tag can be taken again.
-/

namespace ServiceRouting

universe u

open Callers Invocation

namespace Interleaving

variable {Handler : Type u} {p : Proxy} {start : Callers Handler}

/-- A caller whose own attempt on the installation with this origin failed retryably takes the step
that clears it. -/
def DropsAt (e : Interleaving p start) (n caller origin : Nat) (target : Target) : Prop :=
  e.ClearsAt n caller target ∧
    ∃ resolved failed, e.Clearing n caller origin resolved failed target

/-- The slot is emptied of the installation with this origin. -/
def EmptiesAt (e : Interleaving p start) (n origin : Nat) : Prop :=
  (∃ target, e.Holds n origin target) ∧ e.held (n + 1) = none

/-- The properties that make the slot safe to share. -/
structure SlotSafe (e : Interleaving p start) : Prop where
  /-- What the slot holds was selected and installed by one caller, and it has been there since. -/
  installed : ∀ n target, e.held n = some target → ∃ origin caller moment,
    origin < moment ∧ moment < n ∧ e.SelectsAt origin caller target ∧
    e.InstallsAt moment caller target ∧ ∀ k, moment < k → k ≤ n → e.Holds k origin target
  /-- An installation stays in the slot, or leaves it empty; then a caller whose own attempt on this
  very installation failed retryably is clearing it. -/
  leaves : ∀ n origin target, e.Holds n origin target →
    e.Holds (n + 1) origin target ∨
    (e.held (n + 1) = none ∧ ∃ caller, e.DropsAt n caller origin target)
  /-- A caller clears nothing but an installation that its own attempt failed on. -/
  own : ∀ n caller target, e.ClearsAt n caller target → ∃ origin, e.DropsAt n caller origin target
  /-- The slot is emptied of an installation once at most. -/
  once : ∀ n k origin, e.EmptiesAt n origin → e.EmptiesAt k origin → n = k
  /-- After a caller has cleared an installation the slot does not hold it, and no caller resolves
  to it. -/
  gone : ∀ n caller origin target, e.DropsAt n caller origin target → ∀ k, n < k → ∀ other,
    ¬ e.Holds k origin other ∧ ∀ resolver, e.ResolvesAt k resolver other →
      e.origin other.tag (k + 1) ≠ some origin
  /-- A caller that clears an installation leaves any other one in the slot, even one of the same
  node. -/
  late : ∀ n caller origin target, e.DropsAt n caller origin target → ∀ newer other,
    newer ≠ origin → e.Holds n newer other → e.Holds (n + 1) newer other
  /-- A caller resolves to what the slot holds afterwards. Either it saw it there, or it came to
  install what it had selected and found it there or put it there. -/
  resolves : ∀ n caller target, e.ResolvesAt n caller target → ∃ origin,
    e.Holds (n + 1) origin target ∧
    ((e.stage? n caller = some .reading ∧ e.Holds n origin target) ∨
      ∃ fresh selected, e.SelectsAt selected caller fresh ∧
        e.stage? n caller = some (.installing fresh) ∧
        (e.Holds n origin target ∨ (e.InstallsAt n caller target ∧ target = fresh)))
  /-- A caller resolves to nothing only if it saw the slot empty and then its selection, which had
  this outcome, gave nothing. -/
  fails : ∀ n caller, e.move n = .hear caller (.selected none) →
    none ∈ (p.selector.choice (e.state n).cluster (e.state n).registry p.name).outcomes ∧
    ∃ looked, e.MissesAt looked caller ∧ e.StaysAt looked n caller .selecting

variable {e : Interleaving p start} {n : Nat}

/-- What the slot holds has an origin in the past. -/
theorem Sound.holds (h : e.Sound n) {target : Target} (hheld : e.held n = some target) :
    ∃ origin, e.Holds n origin target := by
  obtain ⟨origin, _, _, _, hlt, _, _, hsince⟩ := h.slot target hheld
  exact ⟨origin, hsince n hlt (Nat.le_refl n)⟩

/-- An origin is that of one target only. -/
theorem holds_unique (hsound : ∀ n, e.Sound n) {k origin : Nat} {target other : Target}
    (h : e.Holds n origin target) (hother : e.Holds k origin other) : target = other := by
  -- The origin is the moment of a selection, and a selection has one outcome.
  have selected : ∀ {m x}, e.Holds m origin x →
      ∃ caller, e.move origin = .hear caller (.selected (some x)) := by
    intro m x hholds
    obtain ⟨_, caller, _, _, hlt, hselects, _, hsince⟩ := (hsound m).slot x hholds.1
    obtain rfl :=
      Option.some.inj ((hsince m hlt (Nat.le_refl m)).2.symm.trans hholds.2)
    exact ⟨caller, hselects.1⟩
  obtain ⟨_, hmove⟩ := selected h
  obtain ⟨_, hmove'⟩ := selected hother
  have heq := hmove.symm.trans hmove'
  simp only [Move.hear.injEq, Event.selected.injEq, Option.some.injEq] at heq
  exact heq.2

/-- One caller takes the step of a moment. -/
theorem ClearsAt.unique {caller other : Nat} {target failed : Target}
    (h : e.ClearsAt n caller target) (hother : e.ClearsAt n other failed) :
    caller = other ∧ target = failed := by
  obtain rfl := Move.use.inj (h.1.symm.trans hother.1)
  exact ⟨rfl, Stage.clearing.inj (Option.some.inj (h.2.symm.trans hother.2))⟩

/-- A caller that is about to clear a target of the origin that the slot holds empties the slot. -/
theorem DropsAt.held_succ {caller origin : Nat} {target other : Target}
    (h : e.DropsAt n caller origin target) (hholds : e.Holds n origin other) :
    e.held (n + 1) = none := by
  obtain ⟨⟨hmove, hstage⟩, _, _, hclearing⟩ := h
  have htag : other.tag = target.tag := tag_unique hholds.2 hclearing.same
  have hatomic := e.atomic n
  rw [hmove] at hatomic
  have hslot : (e.state n).slot.holds target.tag = true := by
    rw [StickySlot.holds_of_held hholds.1, htag, decide_eq_true rfl]
  rw [held, slot_of_clearing hatomic hstage, StickySlot.clearIf_of_holds hslot]
  rfl

/-- What is held at a moment and not at the next is dropped by a caller. -/
theorem Sound.leaves (hsound : ∀ n, e.Sound n) {origin : Nat} {target : Target}
    (h : e.Holds n origin target) :
    e.Holds (n + 1) origin target ∨
    (e.held (n + 1) = none ∧ ∃ caller, e.DropsAt n caller origin target) := by
  rcases held_succ_of_held h.1 with hheld | ⟨hnone, caller, failed, hclears, htag⟩
  · exact .inl ⟨hheld, (origin_succ_of_held h.1).trans h.2⟩
  -- The tags agree, and both are in use, so they were taken by one selection.
  · obtain ⟨origin', resolved, moment, hclearing⟩ := (hsound n).callers caller _ hclears.2
    obtain rfl : origin' = origin := by
      have hsame := hclearing.same
      rw [← htag, h.2] at hsame
      exact (Option.some.inj hsame).symm
    obtain rfl : target = failed := holds_unique hsound h hclearing.attempting.holds
    exact .inr ⟨hnone, caller, hclears, resolved, moment, hclearing⟩

/-- A clearing of one installation leaves any other in the slot. -/
theorem Sound.late (hsound : ∀ n, e.Sound n) {caller origin newer : Nat} {target other : Target}
    (h : e.DropsAt n caller origin target) (hne : newer ≠ origin) (hholds : e.Holds n newer other) :
    e.Holds (n + 1) newer other := by
  rcases Sound.leaves hsound hholds with hkept | ⟨_, dropper, hdrops⟩
  · exact hkept
  · obtain ⟨hclears, _, _, hclearing⟩ := h
    obtain ⟨hclears', _, _, hclearing'⟩ := hdrops
    obtain ⟨_, rfl⟩ := hclears.unique hclears'
    exact absurd (Option.some.inj (hclearing'.same.symm.trans hclearing.same)) hne

/-- After a caller has cleared an installation the slot holds it no more. -/
theorem Sound.not_holds_of_dropsAt (hsound : ∀ n, e.Sound n) {caller origin : Nat} {target : Target}
    (h : e.DropsAt n caller origin target) {k : Nat} (hk : n < k) (other : Target) :
    ¬ e.Holds k origin other := by
  have hclearing := h.2
  obtain ⟨resolved, failed, hclearing⟩ := hclearing
  have hpast := hclearing.attempting.holds
  have hle : resolved + 1 ≤ n + 1 := by
    have hresolved := hclearing.attempting.calling.1
    have hfailed := hclearing.clearing.1
    omega
  -- It is enough to look at the moment after the clearing: nothing comes back later.
  refine not_holds_again hsound hpast hle (fun x hholds => ?_) hk other
  rcases held_of_held_succ hholds.1 with hnow | ⟨installer, hinstalls, _⟩
  · have hheld := hholds.1
    rw [h.held_succ (hholds.of_succ hnow)] at hheld
    cases hheld
  · obtain rfl := Move.use.inj (h.1.1.symm.trans hinstalls.1)
    have heq := h.1.2.symm.trans hinstalls.2.1
    cases heq

/-- A caller resolves to what the slot holds afterwards, which was there or which it has just
installed. -/
theorem Sound.resolves (hsound : ∀ n, e.Sound n) {caller : Nat} {target : Target}
    (h : e.ResolvesAt n caller target) : ∃ origin,
      e.Holds (n + 1) origin target ∧
      ((e.stage? n caller = some .reading ∧ e.Holds n origin target) ∨
        ∃ fresh selected, e.SelectsAt selected caller fresh ∧
          e.stage? n caller = some (.installing fresh) ∧
          (e.Holds n origin target ∨ (e.InstallsAt n caller target ∧ target = fresh))) := by
  obtain ⟨hmove, hcalling⟩ := h
  have hatomic := e.atomic n
  rw [hmove] at hatomic
  obtain ⟨hnext, hcases⟩ := resolve_cases hatomic hcalling
  obtain ⟨origin, hholds⟩ := (hsound (n + 1)).holds hnext
  refine ⟨origin, hholds, ?_⟩
  rcases hcases with ⟨hreading, hnow⟩ | ⟨fresh, hinstalling, hcases⟩
  · exact .inl ⟨hreading, hholds.of_succ hnow⟩
  · obtain ⟨selected, _, hselects, _⟩ := (hsound n).callers caller _ hinstalling
    refine .inr ⟨fresh, selected, hselects, hinstalling, ?_⟩
    rcases hcases with hnow | ⟨hempty, rfl⟩
    · exact .inl (hholds.of_succ hnow)
    · exact .inr ⟨⟨hmove, hinstalling, hempty, hnext⟩, rfl⟩

variable {cluster : Cluster} {registry : Registry Handler}

/-- The slot of a sticky proxy is safe in every interleaving of its callers. -/
theorem slot_safe (e : Interleaving p (.idle cluster registry)) (hsticky : p.isSticky = true) :
    e.SlotSafe where
  installed n := (e.sound hsticky n).slot
  leaves n origin target h := Sound.leaves (e.sound hsticky) h
  own n caller target h := by
    obtain ⟨origin, resolved, failed, hclearing⟩ := (e.sound hsticky n).callers caller _ h.2
    exact ⟨origin, h, resolved, failed, hclearing⟩
  once n k origin := by
    -- Between two emptyings the installation would have to come back.
    have back : ∀ {i j}, e.EmptiesAt i origin → e.EmptiesAt j origin → ¬ i < j := by
      intro i j ⟨⟨target, hholds⟩, hnone⟩ ⟨⟨other, hagain⟩, _⟩ hlt
      refine not_holds_again (e.sound hsticky) hholds (Nat.le_succ i) ?_ hlt other hagain
      intro x hx
      rw [Holds, hnone] at hx
      cases hx.1
    intro h h'
    exact Nat.le_antisymm (Nat.le_of_not_lt (back h' h)) (Nat.le_of_not_lt (back h h'))
  gone n caller origin target h k hk other := by
    refine ⟨Sound.not_holds_of_dropsAt (e.sound hsticky) h hk other, ?_⟩
    intro resolver hresolves horigin
    obtain ⟨_, hholds, _⟩ := Sound.resolves (e.sound hsticky) hresolves
    exact Sound.not_holds_of_dropsAt (e.sound hsticky) h (Nat.lt_succ_of_lt hk) other
      ⟨hholds.1, horigin⟩
  late n caller origin target h newer other hne hholds :=
    Sound.late (e.sound hsticky) h hne hholds
  resolves n caller target h := Sound.resolves (e.sound hsticky) h
  fails n caller hmove := by
    have hatomic := e.atomic n
    rw [hmove] at hatomic
    obtain ⟨hselecting, hmem⟩ := none_mem_of_selected hatomic
    exact ⟨hmem, (e.sound hsticky n).callers caller .selecting hselecting⟩

/-- An address. -/
def someAddress : SocketAddress :=
  .v4 (Fin.last 255) (Fin.last 255) (Fin.last 255) (Fin.last 255) (Fin.last 65535)

/-- A node that runs the only instance of a service. -/
def soleNode : Node := { id := "b", address := someAddress }

/-- The local node together with the one that runs the service. -/
def pair : Cluster := (Cluster.ofNode { id := "a", address := someAddress }).join soleNode

/-- The registry that knows of the service. -/
def soleRegistry : Registry Unit := (Registry.ofNode "a").setInstances "s" "b" 1

/-- A sticky proxy of the service. -/
def stickyProxy : Proxy := .make pair "s" (.all []) 0 { selector := { sticky := true } } ⟨0, []⟩

/-- Two callers share an installation and lose its node. The first clears it and installs the same
node anew; only then the second clears. -/
def lateClearing : List (Move Unit) :=
  let lost : Event := .answered (.error (.topologyChanged "b"))
  [.begin, .begin, .use 0, .hear 0 (.selected (some ⟨0, soleNode⟩)), .use 0, .use 1, .hear 0 lost,
    .hear 1 lost, .use 0, .hear 0 (.paused .resumed), .use 0,
    .hear 0 (.selected (some ⟨1, soleNode⟩)), .use 0, .use 1]

/-- The interleaving that begins with the late clearing. -/
def lateInterleaving : Interleaving stickyProxy (.idle pair soleRegistry) :=
  ofMoves (p := stickyProxy) lateClearing (Option.some_get (by decide)).symm

/-- The slot is safe in the interleaving with the late clearing, which takes place and leaves the
newer installation in the slot. -/
theorem slot_safe_of_lateClearing :
    stickyProxy.isSticky = true ∧ lateInterleaving.SlotSafe ∧
    lateInterleaving.Holds 13 11 ⟨1, soleNode⟩ ∧ lateInterleaving.ClearsAt 13 1 ⟨0, soleNode⟩ ∧
    lateInterleaving.Holds 14 11 ⟨1, soleNode⟩ :=
  ⟨rfl, slot_safe lateInterleaving rfl, ⟨rfl, rfl⟩, ⟨rfl, rfl⟩, rfl, rfl⟩

end Interleaving

end ServiceRouting
