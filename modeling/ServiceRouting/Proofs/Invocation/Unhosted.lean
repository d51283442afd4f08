import ServiceRouting.Proofs.Invocation.Course
import ServiceRouting.Proofs.Routing.Hosting

/-!
# Invocations of a service that is not hosted

While the world stands still, an invocation of a service without any instance ends at once, because
nothing is selected (`invoke_of_unhosted`). This takes a topology that does not list a single node.
One that lists the local node alone, without an instance, sends every round of the invocation there
again, and no number of steps ends it (`result?_invoke_of_gone`).
-/

namespace ServiceRouting

open Json (Value)

namespace Invocation

variable {Handler : Type}

namespace Answers

/-- The world stands still around an invocation through a proxy: whatever is drawn, a selection is
that of the proxy's selector for this cluster and this registry. -/
structure Still (answers : Answers Handler) (p : Proxy) (c : Cluster) (r : Registry Handler) :
    Prop where
  select : ∀ past, ∃ draw tag,
    answers.select past = (p.selector.select c r p.name draw).map (⟨tag, ·⟩)
  registry : ∀ past, answers.registry past = r

end Answers

variable {answers : Answers Handler} {p : Proxy} {c : Cluster} {r : Registry Handler}

/-- An invocation of a service that is not hosted ends without an attempt, unless the topology of
the service has a single entry. -/
theorem invoke_of_unhosted (h : r.Unhosted p.name) (hsole : ¬ r.HasSoleEntry p.name)
    (hstill : answers.Still p c r) (hheld : answers.held [] = none) (method : String)
    (args : List Value) (fuel : Nat) :
    answers.invoke p method args (fuel + 2) =
      (⟨.finished (.error (.serviceUnavailable p.name)), 0⟩, looks p ++ [.selected none]) := by
  obtain ⟨draw, tag, hselect⟩ := hstill.select (looks p)
  rw [Selector.select_of_unhosted h hsole, Option.map_none] at hselect
  exact Answers.invoke_of_select_none hheld hselect method args fuel

/-- A stage of an invocation that never gets beyond the local node. -/
def Stage.IsAtHome (localId : NodeId) : Stage → Prop
  | .reading | .selecting | .pausing => True
  | .calling target | .clearing target => target.node.id = localId
  | .installing _ | .finished _ => False

/-- On a local node that does not run the service an attempt fails retryably. -/
theorem attempt_of_gone {localId : NodeId} {n : Node} {past : List (Deed Handler)}
    {call : CallDescriptor} (hhome : n.id = localId)
    (hgone : (answers.registry past).handle? call.service = none) :
    (answers.site.attempt localId call n past).1 =
      .error (.serviceNotFound call.service n.id) := by
  have hfound : Execution.findLocal (answers.registry past) n.id call =
      .error (.serviceNotFound call.service n.id) := by
    rw [Execution.findLocal, hgone]
  rw [Answers.attempt_of_missing _ hhome hfound]

/-- While every selection gives the local node, which does not run the service, an invocation that
is not interrupted never ends. -/
theorem result?_invoke_of_gone (hsticky : p.isSticky = false) (hstill : answers.Still p c r)
    (hgone : r.handle? p.name = none)
    (hhome : ∀ draw, ∃ n, p.selector.select c r p.name draw = some n ∧ n.id = p.selector.localId)
    (hpause : ∀ past number, answers.pause past number = .resumed) (method : String)
    (args : List Value) (fuel : Nat) :
    (answers.invoke p method args fuel).1.result? = none := by
  -- Each round comes back to the local node, which is what every step keeps.
  have hstage : (answers.invoke p method args fuel).1.stage.IsAtHome p.selector.localId := by
    refine Answers.run_preserves (motive := fun _ i => i.stage.IsAtHome p.selector.localId)
      (fun past i _ h => ?_) fuel trivial
    obtain ⟨stage, pauses⟩ := i
    cases stage with
    | reading =>
        rw [Answers.advance_reading _ _ _ _ _ hsticky]
        trivial
    | selecting =>
        obtain ⟨draw, tag, hselect⟩ := hstill.select past
        obtain ⟨n, hn, hid⟩ := hhome draw
        rw [Answers.advance_selecting, hselect, hn]
        simp only [hsticky]
        exact hid
    | calling target =>
        have hlocal : target.node.id = p.selector.localId := h
        have hnone : (answers.registry past).handle? p.name = none := by
          rw [hstill.registry past]
          exact hgone
        rw [Answers.advance_calling, attempt_of_gone hlocal hnone]
        exact hlocal
    | clearing failed =>
        rw [Answers.advance_clearing]
        trivial
    | pausing =>
        rw [Answers.advance_pausing, hpause]
        trivial
    | installing fresh => cases h
    | finished result => cases h
  unfold Invocation.result?
  split
  next hfinished =>
    rw [hfinished] at hstage
    cases hstage
  next => rfl

/-- A node is selected for a service only for a reason. Without any instance nothing is resolved
from an empty slot, and an invocation ends at once without an attempt, unless the topology of the
service has a single entry. -/
theorem reason_or_unavailable (p : Proxy) (c : Cluster) (r : Registry Handler) :
    (∀ draw n, p.selector.select c r p.name draw = some n →
      p.selector.Reason c r p.name n) ∧
    (r.Unhosted p.name → ¬ r.HasSoleEntry p.name →
      (∀ draw tag, p.selector.resolve c r p.name draw tag .empty = (.empty, none)) ∧
      ∀ (answers : Answers Handler) method args fuel,
        answers.Still p c r → answers.held [] = none →
        answers.invoke p method args (fuel + 2) =
          (⟨.finished (.error (.serviceUnavailable p.name)), 0⟩,
            looks p ++ [.selected none])) := by
  refine ⟨fun _ _ hselect => Selector.reason_of_select hselect, fun h hsole => ⟨?_, ?_⟩⟩
  · intro draw tag
    simp [Selector.resolve, StickySlot.empty, Selector.select_of_unhosted h hsole]
  · intro answers method args fuel hstill hheld
    exact invoke_of_unhosted h hsole hstill hheld method args fuel

/-- The only node of a cluster. -/
def hermit : Node := .ofId "a"

/-- The cluster of the only node. -/
def hermitage : Cluster := .ofNode hermit

/-- A proxy of the only node. -/
def hermitProxy : Proxy := .make hermitage "s" (.all []) 0 {} ⟨0, []⟩

/-- The registry of the only node, after a service was deployed and taken back. -/
def takenBack : Registry Unit :=
  (((Registry.ofNode "a").deploy (Service.ofName "s")).undeploy "s").1

/-- The registry of the only node with another node that has no instance either. -/
def takenBackTwice : Registry Unit := takenBack.setInstances "s" "b" 0

/-- A world that stands still around the proxy and cancels nothing. -/
def standstill (r : Registry Unit) : Answers Unit where
  held _ := none
  select _ := (hermitProxy.selector.select hermitage r "s" 0).map (⟨0, ·⟩)
  install _ fresh := fresh
  registry _ := r
  outcome _ _ _ := .ok .null
  submit _ target _ _ := .error (.topologyChanged target.id)
  pause _ _ := .resumed

/-- The standstill is a world that stands still around its proxy. -/
theorem still_standstill (r : Registry Unit) : (standstill r).Still hermitProxy hermitage r :=
  ⟨fun _ => ⟨0, 0, rfl⟩, fun _ => rfl⟩

/-- With a second entry the service that was taken back is unavailable at once. -/
theorem reason_or_unavailable_of_takenBackTwice :
    takenBackTwice.Unhosted "s" ∧ ¬ takenBackTwice.HasSoleEntry "s" ∧
    (standstill takenBackTwice).invoke hermitProxy "m" [] 2 =
      (⟨.finished (.error (.serviceUnavailable "s")), 0⟩, [.selected none]) := by
  have hunhosted : takenBackTwice.Unhosted "s" := Registry.unhosted_of_entries rfl rfl (by decide)
  have hseveral : ¬ takenBackTwice.HasSoleEntry "s" := by
    rintro ⟨t, ht, hone⟩
    cases ht
    cases hone
  exact ⟨hunhosted, hseveral,
    ((reason_or_unavailable hermitProxy hermitage takenBackTwice).2 hunhosted hseveral).2 _ _ _ 0
      (still_standstill takenBackTwice) rfl⟩

/-- A service that was deployed on the only node and taken back is not hosted. Still its node is
selected, without local affinity, and an invocation that is not interrupted never ends. -/
theorem selected_though_unhosted :
    takenBack.Unhosted "s" ∧
    (∀ draw, hermitProxy.selector.select hermitage takenBack "s" draw = some hermit) ∧
    (∀ draw tag, hermitProxy.selector.resolve hermitage takenBack "s" draw tag .empty =
      (.empty, some ⟨tag, hermit⟩)) ∧
    ∀ method args fuel,
      ((standstill takenBack).invoke hermitProxy method args fuel).1.result? = none := by
  have hunhosted : takenBack.Unhosted "s" := by
    refine Registry.unhosted_undeploy fun t ht id hid => Bool.eq_false_iff.2 fun hhosts => ?_
    cases ht
    obtain ⟨count, hentry, _⟩ := Selector.hosts_iff.1 hhosts
    have honly : (id, count) = ("a", 1) := List.mem_singleton.1 hentry
    exact hid (congrArg Prod.fst honly)
  refine ⟨hunhosted, fun _ => rfl, fun _ _ => rfl, fun method args fuel => ?_⟩
  exact result?_invoke_of_gone rfl (still_standstill takenBack) hunhosted.handle
    (fun _ => ⟨hermit, rfl, rfl⟩) (fun _ _ => rfl) method args fuel

end Invocation

end ServiceRouting
