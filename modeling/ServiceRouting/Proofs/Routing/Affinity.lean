import Mathlib.Data.List.Induction
import ServiceRouting.Proofs.Routing.Hosting

/-!
# Local affinity over time

A selector learns when it is made whether the local node is a member of its projection, and it asks
at every selection whether the service runs there. `local_unless_kept` says how far that carries
once the cluster, the registry and the slot have changed: a selector that had the local node gives
it for a service that runs there, save for a node that its slot has held since a time when the
service did not.
-/

namespace ServiceRouting

universe u

namespace Selector

variable {Handler : Type u} {s : Selector} {c : Cluster} {r : Registry Handler}
  {service : ServiceName} {draw : Nat} {tag : Tag} {slot : StickySlot} {target : Target}

/-- A sticky selector gives the target in the slot, whatever else holds. -/
theorem resolve_of_held (hsticky : s.options.sticky = true) (hheld : slot.held = some target) :
    s.resolve c r service draw tag slot = (slot, some target) := by
  rw [resolve, if_pos hsticky, hheld]

/-- A service that runs on the local node is resolved to it, if the projection had that node and
the slot holds nothing. -/
theorem resolve_of_affinity (hlocal : s.hasLocalNode = true)
    (hhandle : (r.handle? service).isSome = true)
    (hslot : s.options.sticky = true → slot.held = none) :
    (s.resolve c r service draw tag slot).2 = some ⟨tag, c.localNode⟩ := by
  have hselect : s.select c r service draw = some c.localNode := by
    rw [select, choice_of_affinity hlocal hhandle]
    rfl
  unfold resolve
  split
  next hsticky =>
    rw [hslot hsticky, hselect]
    exact congrArg (some ·.2) (StickySlot.install_of_held_none (hslot hsticky) _)
  next => rw [hselect, Option.map_some]

/-- What a resolution leaves in the slot was there before, or it was selected now for a slot that
held nothing. -/
theorem held_resolve (h : (s.resolve c r service draw tag slot).1.held = some target) :
    slot.held = some target ∨
      slot.held = none ∧ target.tag = tag ∧ s.select c r service draw = some target.node := by
  cases hheld : slot.held with
  | some other =>
      unfold resolve at h
      split at h
      · rw [hheld] at h
        exact .inl (hheld.symm.trans h)
      · exact .inl (hheld.symm.trans h)
  | none =>
      unfold resolve at h
      split at h
      · rw [hheld] at h
        cases hselect : s.select c r service draw with
        | none =>
            rw [hselect] at h
            exact .inl (hheld.symm.trans h)
        | some n =>
            rw [hselect] at h
            replace h : (slot.install ⟨tag, n⟩).1.held = some target := h
            rw [StickySlot.install_of_held_none hheld] at h
            obtain rfl := Option.some.inj h
            exact .inr ⟨rfl, rfl, rfl⟩
      · exact .inl (hheld.symm.trans h)

end Selector

/-- The slot of a selector and what it selects from. -/
structure Surroundings (Handler : Type u) where
  cluster : Cluster
  registry : Registry Handler
  slot : StickySlot

/-- What happens around a selector, and the uses of it. -/
inductive Occurrence (Handler : Type u) where
  | join (n : Node)
  | leave (id : NodeId)
  | setState (id : NodeId) (state : NodeState)
  | setTopology (name : ServiceName) (t : Topology)
  | setInstances (name : ServiceName) (node : NodeId) (count : Nat)
  | deploy (running : Service Handler)
  | undeploy (name : ServiceName)
  | removeService (name : ServiceName)
  | resolve (draw : Nat) (tag : Tag)
  | clear (tag : Tag)

namespace Surroundings

variable {Handler : Type u}

/-- What an occurrence makes of the surroundings of a selector that is used for one service. -/
def step (s : Selector) (service : ServiceName) (w : Surroundings Handler) :
    Occurrence Handler → Surroundings Handler
  | .join n => { w with cluster := w.cluster.join n }
  | .leave id => { w with cluster := (w.cluster.leave id).1 }
  | .setState id state => { w with cluster := (w.cluster.setState id state).1 }
  | .setTopology name t => { w with registry := w.registry.setTopology name t }
  | .setInstances name node count =>
      { w with registry := w.registry.setInstances name node count }
  | .deploy running => { w with registry := w.registry.deploy running }
  | .undeploy name => { w with registry := (w.registry.undeploy name).1 }
  | .removeService name => { w with registry := w.registry.removeService name }
  | .resolve draw tag =>
      { w with slot := (s.resolve w.cluster w.registry service draw tag w.slot).1 }
  | .clear tag => { w with slot := (w.slot.clearIf tag).1 }

/-- What a history makes of the surroundings. -/
def run (s : Selector) (service : ServiceName) (w : Surroundings Handler)
    (history : List (Occurrence Handler)) : Surroundings Handler :=
  history.foldl (step s service) w

/-- A history leaves a target in the slot: a resolution selected it for an empty slot, which has
held it ever since. -/
structure Keeps (s : Selector) (service : ServiceName) (w : Surroundings Handler)
    (before : List (Occurrence Handler)) (draw : Nat) (target : Target)
    (after : List (Occurrence Handler)) : Prop where
  unset : (w.run s service before).slot.held = none
  selected :
    s.select (w.run s service before).cluster (w.run s service before).registry service draw =
      some target.node
  kept : ∀ part rest, after = part ++ rest →
    (w.run s service (before ++ .resolve draw target.tag :: part)).slot.held = some target

variable {s : Selector} {service : ServiceName} {w : Surroundings Handler} {target : Target}

/-- A history that goes on by one occurrence. -/
theorem run_concat (history : List (Occurrence Handler)) (o : Occurrence Handler) :
    w.run s service (history ++ [o]) = (w.run s service history).step s service o :=
  List.foldl_append ..

/-- The local node stays the one that it was. -/
theorem step_localNode (o : Occurrence Handler) :
    (w.step s service o).cluster.localNode = w.cluster.localNode := by
  cases o with
  | leave id =>
      show (w.cluster.leave id).1.localNode = w.cluster.localNode
      unfold Cluster.leave
      split <;> rfl
  | setState id state =>
      show (w.cluster.setState id state).1.localNode = w.cluster.localNode
      unfold Cluster.setState
      split <;> rfl
  | join | setTopology | setInstances | deploy | undeploy | removeService | resolve | clear => rfl

/-- The local node stays the one that it was over a whole history. -/
theorem run_localNode (history : List (Occurrence Handler)) :
    (w.run s service history).cluster.localNode = w.cluster.localNode := by
  induction history using List.reverseRecOn with
  | nil => rfl
  | append_singleton history o ih => rw [run_concat, step_localNode, ih]

/-- What an occurrence leaves in the slot was there before, or it is a resolution that selected it
for a slot that held nothing. -/
theorem held_step {o : Occurrence Handler} (h : (w.step s service o).slot.held = some target) :
    w.slot.held = some target ∨
      ∃ draw, o = .resolve draw target.tag ∧ w.slot.held = none ∧
        s.select w.cluster w.registry service draw = some target.node := by
  cases o with
  | resolve draw tag =>
      obtain hkept | ⟨hunset, rfl, hselect⟩ := Selector.held_resolve h
      · exact .inl hkept
      · exact .inr ⟨draw, rfl, hunset, hselect⟩
  | clear tag =>
      replace h : (w.slot.clearIf tag).1.held = some target := h
      cases hholds : w.slot.holds tag with
      | true =>
          rw [StickySlot.clearIf_of_holds hholds] at h
          cases h
      | false =>
          rw [StickySlot.clearIf_of_not_holds hholds] at h
          exact .inl h
  | join | leave | setState | setTopology | setInstances | deploy | undeploy | removeService =>
      exact .inl h

/-- Whatever the slot holds after a history was selected in the course of it and kept since. -/
theorem keeps_of_held (hempty : w.slot.held = none) {history : List (Occurrence Handler)}
    (h : (w.run s service history).slot.held = some target) :
    ∃ before draw after, history = before ++ .resolve draw target.tag :: after ∧
      w.Keeps s service before draw target after := by
  induction history using List.reverseRecOn with
  | nil =>
      rw [run, List.foldl_nil, hempty] at h
      cases h
  | append_singleton history o ih =>
      have hlast := h
      rw [run_concat] at h
      obtain hheld | ⟨draw, rfl, hunset, hselect⟩ := held_step h
      · obtain ⟨before, draw, after, rfl, hkeeps⟩ := ih hheld
        refine ⟨before, draw, after ++ [o], by simp, hkeeps.unset, hkeeps.selected, ?_⟩
        intro part rest hsplit
        -- The slot has held the target up to the last occurrence, and it does after it.
        obtain rfl | ⟨rest, last, rfl⟩ := List.eq_nil_or_concat rest
        · rw [List.append_nil] at hsplit
          subst hsplit
          simpa using hlast
        · rw [List.concat_eq_append, ← List.append_assoc] at hsplit
          exact hkeeps.kept part rest (List.append_inj' hsplit rfl).1
      · refine ⟨history, draw, [], rfl, hunset, hselect, ?_⟩
        intro part rest hsplit
        obtain ⟨rfl, rfl⟩ := List.append_eq_nil_iff.1 hsplit.symm
        exact hlast

/-- A selector that had the local node when it was made gives that node whenever the service runs
there, sticky or not, unless its slot holds a target that it has held since a resolution at a time
when the service did not run there. -/
theorem local_unless_kept (c : Cluster) (r : Registry Handler) (projection : Projection)
    (options : SelectorOptions) (service : ServiceName) (history : List (Occurrence Handler))
    (draw : Nat) (tag : Tag) (hlocal : projection.containsLocal c = true) :
    let s : Selector := .ofProjection c projection options
    let start : Surroundings Handler := ⟨c, r, .empty⟩
    let now := start.run s service history
    (now.registry.handle? service).isSome = true →
      ∃ target, (s.resolve now.cluster now.registry service draw tag now.slot).2 = some target ∧
        (target.node = c.localNode ∨
          options.sticky = true ∧ ∃ before draw after,
            history = before ++ .resolve draw target.tag :: after ∧
            (start.run s service before).registry.handle? service = none ∧
            start.Keeps s service before draw target after) := by
  intro s start now hhandle
  have hmade : s.hasLocalNode = true := hlocal
  by_cases hkept : options.sticky = true ∧ now.slot.held ≠ none
  · obtain ⟨hsticky, hheld⟩ := hkept
    obtain ⟨target, htarget⟩ := Option.ne_none_iff_exists'.1 hheld
    refine ⟨target, by rw [Selector.resolve_of_held hsticky htarget], ?_⟩
    obtain ⟨before, draw, after, hhistory, hkeeps⟩ := keeps_of_held rfl htarget
    -- Did the service run on the local node when the target was resolved?
    cases hthen : (start.run s service before).registry.handle? service with
    | none => exact .inr ⟨hsticky, before, draw, after, hhistory, hthen, hkeeps⟩
    | some handle =>
        have hselected := hkeeps.selected
        rw [Selector.select, Selector.choice_of_affinity hmade (by rw [hthen]; rfl)] at hselected
        have hnode : (start.run s service before).cluster.localNode = target.node :=
          Option.some.inj hselected
        exact .inl (hnode.symm.trans (run_localNode before))
  · have hunset : options.sticky = true → now.slot.held = none :=
      fun hsticky => Decidable.byContradiction fun hheld => hkept ⟨hsticky, hheld⟩
    exact ⟨⟨tag, now.cluster.localNode⟩, Selector.resolve_of_affinity hmade hhandle hunset,
      .inl (run_localNode history)⟩

/-- The local node of a cluster. -/
def home : Node := .ofId "home"

/-- A node that joins the cluster. -/
def away : Node := .ofId "away"

/-- Another node joins with the only instance of a service. -/
def arrival : List (Occurrence Unit) := [.join away, .setInstances "s" "away" 1]

/-- A sticky selector that resolved the service there gives the local node once the service runs on
it and the slot was cleared. -/
theorem local_unless_kept_of_cleared :
    let s : Selector := .ofProjection (.ofNode home) (.all []) { sticky := true }
    let start : Surroundings Unit := ⟨.ofNode home, .ofNode "home", .empty⟩
    let history := arrival ++ [.resolve 0 7, .deploy (.ofName "s"), .clear 7]
    let now := start.run s "s" history
    (Projection.all []).containsLocal (.ofNode home) = true ∧
    (now.registry.handle? "s").isSome = true ∧
    (start.run s "s" (arrival ++ [.resolve 0 7])).slot.held = some ⟨7, away⟩ ∧
    ∃ target, (s.resolve now.cluster now.registry "s" 0 8 now.slot).2 = some target ∧
      target.node = home := by
  intro s start history now
  have hlocal : (Projection.all []).containsLocal (.ofNode home) = true := rfl
  have hhandle : (now.registry.handle? "s").isSome = true := rfl
  refine ⟨hlocal, hhandle, rfl, ?_⟩
  obtain ⟨target, hresolve, hnode | ⟨_, before, draw, after, hhistory, _, hkeeps⟩⟩ :=
    local_unless_kept (.ofNode home) (.ofNode "home") (.all []) { sticky := true } "s" history 0 8
      hlocal hhandle
  · exact ⟨target, hresolve, hnode⟩
  -- What was kept would still be in the slot, which was cleared.
  · have hheld : now.slot.held = some target := by
      have hkept := hkeeps.kept after [] (List.append_nil after).symm
      rwa [← hhistory] at hkept
    cases hheld

/-- A service that runs on the local node, which is a member, is resolved to another node by a
sticky selector that resolved it there before, and by one that was made while the local node was
not alive. -/
theorem away_though_home :
    (let s : Selector := .ofProjection (.ofNode home) (.all []) { sticky := true }
     let start : Surroundings Unit := ⟨.ofNode home, .ofNode "home", .empty⟩
     let now := start.run s "s" (arrival ++ [.resolve 0 7, .deploy (.ofName "s")])
     s.projection.containsLocal now.cluster = true ∧
     (now.registry.handle? "s").isSome = true ∧
     ∀ draw tag,
      (s.resolve now.cluster now.registry "s" draw tag now.slot).2 = some ⟨7, away⟩) ∧
    (let suspected : Cluster := ((Cluster.ofNode home).setState "home" .suspect).1
     let s : Selector := .ofProjection suspected (.all []) {}
     let start : Surroundings Unit := ⟨suspected, .ofNode "home", .empty⟩
     let now := start.run s "s" (arrival ++ [.setState "home" .alive, .deploy (.ofName "s"),
      .setTopology "s" (Table.empty.insert "away" 1)])
     s.projection.containsLocal now.cluster = true ∧
     (now.registry.handle? "s").isSome = true ∧
     ∀ draw tag,
      (s.resolve now.cluster now.registry "s" draw tag now.slot).2 = some ⟨tag, away⟩) :=
  ⟨⟨rfl, rfl, fun _ _ => rfl⟩, ⟨rfl, rfl, fun _ _ => rfl⟩⟩

end Surroundings

end ServiceRouting
