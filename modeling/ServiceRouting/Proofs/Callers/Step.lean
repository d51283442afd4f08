import ServiceRouting.Proxy.Callers

/-!
# The atomic steps of callers

What one step of `Callers.step` can be. Read `Callers.Atomic` first: it lists the steps with the
conditions under which each is taken, and `atomic_of_step` says that there are no others. Two
summaries follow from it: how the slot changes (`slot_cases`) and how a caller comes to refer to a
target (`target_cases`).
-/

namespace ServiceRouting

universe u

namespace Callers

open Invocation (Stage Event)

variable {Handler : Type u} {p : Proxy} {s t : Callers Handler} {move : Move Handler}

/-- The steps that can be taken, each with what it leads to. -/
inductive Atomic (p : Proxy) (s : Callers Handler) : Move Handler → Callers Handler → Prop where
  | change (cluster registry) : Atomic p s (.change cluster registry) { s with cluster, registry }
  | cancel : Atomic p s .cancel { s with cancelled := true }
  | begin : Atomic p s .begin { s with invocations := s.invocations ++ [some .start] }
  | abandon (caller) :
      Atomic p s (.abandon caller) { s with invocations := s.invocations.set caller none }
  /-- The slot holds a target, and the caller takes it. -/
  | keep (caller i target) :
      s.invocation? caller = some i → i.stage = .reading → p.isSticky = true →
      s.slot.held = some target →
      Atomic p s (.use caller) (s.put s.slot caller (i.moveTo (.calling target)))
  /-- The slot has nothing for the caller. -/
  | miss (caller i) :
      s.invocation? caller = some i → i.stage = .reading →
      (p.isSticky = true → s.slot.held = none) →
      Atomic p s (.use caller) (s.put s.slot caller (i.moveTo .selecting))
  | install (caller i fresh) :
      s.invocation? caller = some i → i.stage = .installing fresh →
      Atomic p s (.use caller)
        (s.put (s.slot.install fresh).1 caller (i.moveTo (.calling (s.slot.install fresh).2)))
  | clear (caller i failed) :
      s.invocation? caller = some i → i.stage = .clearing failed →
      Atomic p s (.use caller)
        (s.put (s.slot.clearIf failed.tag).1 caller
          ⟨.pausing, Nat.min (i.pauses + 1) Invocation.pauseLimit⟩)
  /-- The selection gives nothing. -/
  | miscarry (caller i) :
      s.invocation? caller = some i → i.stage = .selecting →
      none ∈ (p.selector.choice s.cluster s.registry p.name).outcomes →
      Atomic p s (.hear caller (.selected none))
        (s.put s.slot caller (i.moveTo (.finished (.error (.serviceUnavailable p.name)))))
  /-- The selection gives a node, under a tag that is not in use. -/
  | find (caller i fresh) :
      s.invocation? caller = some i → i.stage = .selecting →
      some fresh.node ∈ (p.selector.choice s.cluster s.registry p.name).outcomes →
      s.isInUse fresh.tag = false →
      Atomic p s (.hear caller (.selected (some fresh)))
        (s.put s.slot caller (i.moveTo (if p.isSticky then .installing fresh else .calling fresh)))
  | answer (caller i target result) :
      s.invocation? caller = some i → i.stage = .calling target →
      Atomic p s (.hear caller (.answered result))
        (s.put s.slot caller (i.afterAttempt target result))
  | resume (caller i) :
      s.invocation? caller = some i → i.stage = .pausing → s.cancelled = false →
      Atomic p s (.hear caller (.paused .resumed)) (s.put s.slot caller (i.moveTo .reading))
  | interrupt (caller i) :
      s.invocation? caller = some i → i.stage = .pausing → s.cancelled = true →
      Atomic p s (.hear caller (.paused .interrupted))
        (s.put s.slot caller (i.moveTo (.finished (.error .interrupted))))

/-- A step on the slot is one of its four uses. -/
theorem atomic_of_use {caller : Nat} (h : s.step p (.use caller) = some t) :
    Atomic p s (.use caller) t := by
  simp only [step, Option.bind_eq_some_iff, Option.map_eq_some_iff] at h
  obtain ⟨i, hi, ⟨slot, event⟩, hused, next, hnext, rfl⟩ := h
  -- Only a look, an installation and a clearing use the slot, so these stages are all there is.
  cases hstage : i.stage with
  | reading =>
      simp only [hstage, Stage.onSlot, Option.some.injEq, Prod.mk.injEq] at hused
      obtain ⟨rfl, rfl⟩ := hused
      simp only [Invocation.step, hstage] at hnext
      split at hnext
      next target hsticky hheld =>
        obtain rfl := Option.some.inj hnext
        exact .keep caller i target hi hstage hsticky hheld
      next hmiss =>
        obtain rfl := Option.some.inj hnext
        refine .miss caller i hi hstage fun hsticky => ?_
        exact Option.eq_none_iff_forall_ne_some.2 fun target => hmiss target hsticky
  | installing fresh =>
      simp only [hstage, Stage.onSlot, Option.some.injEq, Prod.mk.injEq] at hused
      obtain ⟨rfl, rfl⟩ := hused
      simp only [Invocation.step, hstage, Option.some.injEq] at hnext
      subst hnext
      exact .install caller i fresh hi hstage
  | clearing failed =>
      simp only [hstage, Stage.onSlot, Option.some.injEq, Prod.mk.injEq] at hused
      obtain ⟨rfl, rfl⟩ := hused
      simp only [Invocation.step, hstage, Option.some.injEq] at hnext
      subst hnext
      exact .clear caller i failed hi hstage
  | selecting | calling | pausing | finished =>
      simp only [hstage, Stage.onSlot, reduceCtorEq] at hused

/-- A step on news from outside is the end of a selection, an attempt or a pause. -/
theorem atomic_of_hear {caller : Nat} {event : Event} (h : s.step p (.hear caller event) = some t) :
    Atomic p s (.hear caller event) t := by
  simp only [step, Option.bind_eq_some_iff] at h
  obtain ⟨i, hi, h⟩ := h
  split at h
  next hallowed =>
    obtain ⟨next, hnext, rfl⟩ := Option.map_eq_some_iff.1 h
    -- What is allowed decides the event, and the event decides the stage that it fits.
    cases event with
    | read | installed | cleared => simp [allows] at hallowed
    | selected outcome =>
        simp only [allows, Bool.and_eq_true, decide_eq_true_eq] at hallowed
        cases hstage : i.stage with
        | selecting =>
            cases outcome with
            | none =>
                simp only [Invocation.step, hstage, Option.some.injEq] at hnext
                subst hnext
                exact .miscarry caller i hi hstage hallowed.1
            | some fresh =>
                simp only [Invocation.step, hstage, Option.some.injEq] at hnext
                subst hnext
                exact .find caller i fresh hi hstage hallowed.1 (by simpa using hallowed.2)
        | _ => simp [Invocation.step, hstage] at hnext
    | answered result =>
        cases hstage : i.stage with
        | calling target =>
            simp only [Invocation.step, hstage, Option.some.injEq] at hnext
            subst hnext
            exact .answer caller i target result hi hstage
        | _ => simp [Invocation.step, hstage] at hnext
    | paused ending =>
        cases hstage : i.stage with
        | pausing =>
            cases hcancelled : s.cancelled <;> cases ending <;>
              simp [allows, PauseEnd.poll, hcancelled] at hallowed <;>
              simp only [Invocation.step, hstage, Option.some.injEq] at hnext <;> subst hnext
            · exact .resume caller i hi hstage hcancelled
            · exact .interrupt caller i hi hstage hcancelled
        | _ => simp [Invocation.step, hstage] at hnext
  next => cases h

/-- Every step is one of the atomic ones. -/
theorem atomic_of_step (h : s.step p move = some t) : Atomic p s move t := by
  cases move with
  | change cluster registry => cases h; exact .change cluster registry
  | cancel => cases h; exact .cancel
  | begin => cases h; exact .begin
  | abandon caller => cases h; exact .abandon caller
  | use caller => exact atomic_of_use h
  | hear caller event => exact atomic_of_hear h

/-- A target is selected under a tag that is not in use. -/
theorem not_isInUse_of_selected {caller : Nat} {fresh : Target}
    (h : Atomic p s (.hear caller (.selected (some fresh))) t) : s.isInUse fresh.tag = false := by
  cases h with
  | find _ _ _ _ _ _ hfree => exact hfree

/-- A selection that gives nothing is one that the selector has, for a caller about to select. -/
theorem none_mem_of_selected {caller : Nat} (h : Atomic p s (.hear caller (.selected none)) t) :
    s.stage? caller = some .selecting ∧
    none ∈ (p.selector.choice s.cluster s.registry p.name).outcomes := by
  cases h with
  | miscarry _ i hi hselecting hmem =>
      refine ⟨?_, hmem⟩
      simp [stage?, hi, hselecting]

/-- The caller whose invocation is put in place has its stage. -/
theorem stage?_put_self {slot : StickySlot} {caller : Nat} {i j : Invocation}
    (h : s.invocation? caller = some i) : (s.put slot caller j).stage? caller = some j.stage := by
  have hlt : caller < s.invocations.length := by
    refine Decidable.byContradiction fun hge => ?_
    simp [invocation?, List.getElem?_eq_none (Nat.le_of_not_lt hge)] at h
  simp [stage?, invocation?, put, hlt]

/-- Putting an invocation in place leaves the stages of the other callers. -/
theorem stage?_put_of_ne {slot : StickySlot} {caller other : Nat} (j : Invocation)
    (h : other ≠ caller) : (s.put slot caller j).stage? other = s.stage? other := by
  simp only [stage?, invocation?, put, List.getElem?_set, Ne.symm h, if_false]

/-- A caller whose invocation is known has its stage. -/
theorem stage?_of_invocation? {caller : Nat} {i : Invocation} (h : s.invocation? caller = some i) :
    s.stage? caller = some i.stage := by
  simp [stage?, h]

/-- A new invocation is about to look at the slot, and the others stay as they are. -/
theorem stage?_begin {caller : Nat} {stage : Stage}
    (h : Callers.stage? { s with invocations := s.invocations ++ [some .start] } caller =
      some stage) :
    s.stage? caller = some stage ∨ stage = .reading := by
  simp only [stage?, invocation?, List.getElem?_append] at h ⊢
  split at h
  next => exact .inl h
  next =>
    cases hindex : caller - s.invocations.length with
    | zero => exact .inr (by simpa [hindex, Invocation.start] using h.symm)
    | succ n => simp [hindex] at h

/-- Giving an invocation up leaves the others as they are. -/
theorem stage?_abandon {caller other : Nat} {stage : Stage}
    (h : Callers.stage? { s with invocations := s.invocations.set caller none } other =
      some stage) :
    s.stage? other = some stage := by
  simp only [stage?, invocation?, List.getElem?_set] at h ⊢
  split at h
  next => split at h <;> simp at h
  next => exact h

/-- A caller that does not take the step is where it was, or it has just begun. -/
theorem stage?_of_other (h : Atomic p s move t) {caller : Nat} {stage : Stage}
    (hother : move.caller? ≠ some caller) (hstage : t.stage? caller = some stage) :
    s.stage? caller = some stage ∨ stage = .reading := by
  cases h with
  | change | cancel => exact .inl hstage
  | begin => exact stage?_begin hstage
  | abandon => exact .inl (stage?_abandon hstage)
  | keep mover | miss mover | install mover | clear mover | miscarry mover | find mover
  | answer mover | resume mover | interrupt mover =>
      have hne : caller ≠ mover := fun heq => hother (congrArg some heq.symm)
      rw [stage?_put_of_ne _ hne] at hstage
      exact .inl hstage

/-- The slot stays as it is, or a caller fills it while it is empty, or a caller empties it that
was to clear a target with the tag of the one held. -/
theorem slot_cases (h : Atomic p s move t) :
    t.slot = s.slot ∨
    (∃ caller fresh, move = .use caller ∧ s.stage? caller = some (.installing fresh) ∧
      t.stage? caller = some (.calling fresh) ∧ s.slot.held = none ∧ t.slot.held = some fresh) ∨
    (∃ caller failed target, move = .use caller ∧ s.stage? caller = some (.clearing failed) ∧
      s.slot.held = some target ∧ target.tag = failed.tag ∧ t.slot.held = none) := by
  cases h with
  -- An installation into a full slot and a clearing of another tag change nothing.
  | install caller i fresh hi hstage =>
      cases hheld : s.slot.held with
      | some winner => exact .inl (by rw [StickySlot.install_of_held hheld, put])
      | none =>
          refine .inr (.inl ⟨caller, fresh, rfl, ?_, ?_, rfl, ?_⟩)
          · rw [stage?_of_invocation? hi, hstage]
          · rw [stage?_put_self hi, StickySlot.install_of_held_none hheld, Invocation.moveTo]
          · rw [StickySlot.install_of_held_none hheld, put]
  | clear caller i failed hi hstage =>
      cases hholds : s.slot.holds failed.tag with
      | true =>
          obtain ⟨target, hheld, htag⟩ := StickySlot.exists_held_of_holds hholds
          refine .inr (.inr ⟨caller, failed, target, rfl, ?_, hheld, htag, ?_⟩)
          · rw [stage?_of_invocation? hi, hstage]
          · rw [StickySlot.clearIf_of_holds hholds]
            rfl
      | false => exact .inl (by rw [StickySlot.clearIf_of_not_holds hholds, put])
  | _ => exact .inl rfl

/-- A caller about to clear a target clears the slot of its tag. -/
theorem slot_of_clearing {caller : Nat} {failed : Target} (h : Atomic p s (.use caller) t)
    (hstage : s.stage? caller = some (.clearing failed)) :
    t.slot = (s.slot.clearIf failed.tag).1 := by
  cases h with
  | clear _ i cleared hi hclearing =>
      rw [stage?_of_invocation? hi, hclearing, Option.some.injEq] at hstage
      obtain rfl := Stage.clearing.inj hstage
      rfl
  | keep _ i _ hi hreading | miss _ i hi hreading | install _ i _ hi hreading =>
      rw [stage?_of_invocation? hi, hreading] at hstage
      cases hstage

/-- After an attempt an invocation refers to its target only to clear it, and only if the attempt
failed retryably. -/
theorem afterAttempt_target? {i : Invocation} {called target : Target}
    {result : Except InvocationError Json.Value}
    (h : (i.afterAttempt called result).stage.target? = some target) :
    ∃ e, result = .error e ∧ e.isRetryable = true ∧ target = called ∧
      (i.afterAttempt called result).stage = .clearing target := by
  cases result with
  | ok value => cases h
  | error e =>
      cases hretry : e.isRetryable with
      | false => simp [Invocation.afterAttempt, Invocation.moveTo, hretry, Stage.target?] at h
      | true =>
          simp only [Invocation.afterAttempt, hretry, Invocation.moveTo, if_true] at h ⊢
          obtain rfl := Option.some.inj h
          exact ⟨e, rfl, hretry, rfl, rfl⟩

/-- An attempt is not followed by a selection at once. -/
theorem afterAttempt_ne_selecting (i : Invocation) (called : Target)
    (result : Except InvocationError Json.Value) :
    (i.afterAttempt called result).stage ≠ .selecting := by
  unfold Invocation.afterAttempt
  split
  · exact nofun
  · split <;> exact nofun

/-- How a caller comes to be at a stage that refers to a target after a step. -/
inductive Source (p : Proxy) (s : Callers Handler) (move : Move Handler) (t : Callers Handler)
    (caller : Nat) : Stage → Target → Prop where
  /-- The caller was at this stage before. -/
  | kept (stage target) : s.stage? caller = some stage → Source p s move t caller stage target
  /-- The slot held the target and gave it to the caller. -/
  | held (target) :
      move = .use caller → t.slot = s.slot → s.slot.held = some target →
      Source p s move t caller (.calling target) target
  /-- The caller installed its own target. -/
  | installed (target) :
      move = .use caller → s.stage? caller = some (.installing target) → s.slot.held = none →
      t.slot.held = some target → Source p s move t caller (.calling target) target
  /-- The caller selected the target. -/
  | selected (target) :
      move = .hear caller (.selected (some target)) → s.isInUse target.tag = false →
      some target.node ∈ (p.selector.choice s.cluster s.registry p.name).outcomes →
      t.slot = s.slot → Source p s move t caller (.installing target) target
  /-- The caller's attempt failed retryably. -/
  | failed (target e) :
      move = .hear caller (.answered (.error e)) → e.isRetryable = true →
      s.stage? caller = some (.calling target) → t.slot = s.slot →
      Source p s move t caller (.clearing target) target

/-- A caller of a sticky proxy that takes a step and refers to a target after it has it from one of
the sources. -/
theorem source_of_own (h : Atomic p s move t) (hsticky : p.isSticky = true) {caller : Nat}
    {stage : Stage} {target : Target} (hown : move.caller? = some caller)
    (hstage : t.stage? caller = some stage) (htarget : stage.target? = some target) :
    Source p s move t caller stage target := by
  cases h with
  | change | cancel | begin => cases hown
  | abandon mover => exact .kept stage target (stage?_abandon hstage)
  | keep mover i winner hi _ _ hheld =>
      obtain rfl := Option.some.inj hown
      rw [stage?_put_self hi, Option.some.injEq] at hstage
      subst hstage
      obtain rfl := Option.some.inj htarget
      exact .held winner rfl rfl hheld
  | install mover i fresh hi hinstalling =>
      obtain rfl := Option.some.inj hown
      rw [stage?_put_self hi, Option.some.injEq] at hstage
      subst hstage
      obtain rfl := Option.some.inj htarget
      -- The caller goes on with its own target only if the slot was empty.
      cases hheld : s.slot.held with
      | some winner =>
          rw [StickySlot.install_of_held hheld]
          exact .held winner rfl rfl hheld
      | none =>
          rw [StickySlot.install_of_held_none hheld]
          refine .installed fresh rfl ?_ hheld rfl
          rw [stage?_of_invocation? hi, hinstalling]
  | find mover i fresh hi _ hmem hfree =>
      obtain rfl := Option.some.inj hown
      rw [stage?_put_self hi, hsticky, Option.some.injEq] at hstage
      subst hstage
      obtain rfl := Option.some.inj htarget
      exact .selected fresh rfl hfree hmem rfl
  | answer mover i called result hi hcalling =>
      obtain rfl := Option.some.inj hown
      rw [stage?_put_self hi, Option.some.injEq] at hstage
      subst hstage
      obtain ⟨e, rfl, hretry, rfl, hclearing⟩ := afterAttempt_target? htarget
      rw [hclearing]
      refine .failed target e rfl hretry ?_ rfl
      rw [stage?_of_invocation? hi, hcalling]
  | miss mover i hi | clear mover i _ hi | miscarry mover i hi | resume mover i hi
  | interrupt mover i hi =>
      obtain rfl := Option.some.inj hown
      rw [stage?_put_self hi, Option.some.injEq] at hstage
      subst hstage
      cases htarget

/-- A caller of a sticky proxy that refers to a target after a step has it from one of the
sources. -/
theorem target_cases (h : Atomic p s move t) (hsticky : p.isSticky = true) {caller : Nat}
    {stage : Stage} {target : Target} (hstage : t.stage? caller = some stage)
    (htarget : stage.target? = some target) : Source p s move t caller stage target := by
  by_cases hown : move.caller? = some caller
  · exact source_of_own h hsticky hown hstage htarget
  · rcases stage?_of_other h hown hstage with hstage | rfl
    · exact .kept stage target hstage
    · cases htarget

/-- A caller of a sticky proxy that is about to select was so before, or it has just seen the slot
empty. -/
theorem selecting_cases (h : Atomic p s move t) (hsticky : p.isSticky = true) {caller : Nat}
    (hstage : t.stage? caller = some .selecting) :
    s.stage? caller = some .selecting ∨
    (move = .use caller ∧ s.stage? caller = some .reading ∧ s.slot.held = none) := by
  by_cases hown : move.caller? = some caller
  · cases h with
    | change | cancel | begin => cases hown
    | abandon => exact .inl (stage?_abandon hstage)
    | miss mover i hi hreading hmiss =>
        obtain rfl := Option.some.inj hown
        refine .inr ⟨rfl, ?_, hmiss hsticky⟩
        rw [stage?_of_invocation? hi, hreading]
    | answer mover i called result hi =>
        obtain rfl := Option.some.inj hown
        rw [stage?_put_self hi, Option.some.injEq] at hstage
        exact absurd hstage (afterAttempt_ne_selecting i called result)
    | find mover i fresh hi =>
        obtain rfl := Option.some.inj hown
        rw [stage?_put_self hi, hsticky] at hstage
        cases hstage
    | keep mover i _ hi | install mover i _ hi | clear mover i _ hi | miscarry mover i hi
    | resume mover i hi | interrupt mover i hi =>
        obtain rfl := Option.some.inj hown
        rw [stage?_put_self hi] at hstage
        cases hstage
  · rcases stage?_of_other h hown hstage with hstage | hreading
    · exact .inl hstage
    · cases hreading

/-- A caller that goes on to call a target after a step on the slot has it from there: the slot held
it, or the caller has just installed it. Afterwards the slot holds it. -/
theorem resolve_cases {caller : Nat} {target : Target} (h : Atomic p s (.use caller) t)
    (hcalling : t.stage? caller = some (.calling target)) :
    t.slot.held = some target ∧
    ((s.stage? caller = some .reading ∧ s.slot.held = some target) ∨
      ∃ fresh, s.stage? caller = some (.installing fresh) ∧
        (s.slot.held = some target ∨ (s.slot.held = none ∧ target = fresh))) := by
  cases h with
  | keep _ i winner hi hreading _ hheld =>
      rw [stage?_put_self hi, Option.some.injEq] at hcalling
      obtain rfl := Stage.calling.inj hcalling
      refine ⟨hheld, .inl ⟨?_, hheld⟩⟩
      rw [stage?_of_invocation? hi, hreading]
  | install _ i fresh hi hinstalling =>
      rw [stage?_put_self hi, Option.some.injEq] at hcalling
      obtain rfl := Stage.calling.inj hcalling
      refine ⟨s.slot.held_install fresh, .inr ⟨fresh, ?_, ?_⟩⟩
      · rw [stage?_of_invocation? hi, hinstalling]
      · cases hheld : s.slot.held with
        | some winner => exact .inl (by rw [StickySlot.install_of_held hheld])
        | none => exact .inr ⟨rfl, by rw [StickySlot.install_of_held_none hheld]⟩
  | miss _ i hi | clear _ i _ hi =>
      rw [stage?_put_self hi] at hcalling
      cases hcalling

end Callers

end ServiceRouting
