import ServiceRouting.Proofs.Callers.Interleaving

/-!
# What callers share through the slot

The invariant of an interleaving of a sticky proxy's callers. Read `Sound` first. It ties what the
slot holds, and what each caller refers to, to the past: to a selection and an installation, and for
a caller past its resolution to the attempt that it made. The part that carries the rest is that a
target about to be installed has never been in the slot; since a target leaves the slot for good,
none comes back (`not_holds_again`).
-/

namespace ServiceRouting

universe u

open Callers Invocation

namespace Interleaving

variable {Handler : Type u} {p : Proxy} {start : Callers Handler}

/-- A caller resolved to a target at moment `resolved`, when the slot held it with this origin, and
has been calling it since. -/
structure Attempting (e : Interleaving p start) (n caller origin resolved : Nat) (target : Target) :
    Prop where
  resolves : e.ResolvesAt resolved caller target
  holds : e.Holds (resolved + 1) origin target
  calling : e.StaysAt resolved n caller (.calling target)
  same : e.origin target.tag n = some origin

/-- A caller's attempt on a target failed retryably at moment `failed`, and the caller has been
about to clear the target since. -/
structure Clearing (e : Interleaving p start) (n caller origin resolved failed : Nat)
    (target : Target) : Prop where
  attempting : e.Attempting failed caller origin resolved target
  fails : e.FailsAt failed caller target
  clearing : e.StaysAt failed n caller (.clearing target)
  same : e.origin target.tag n = some origin

/-- A target that the slot holds was selected and then installed by one caller, and the slot has
held it since. -/
def SlotSound (e : Interleaving p start) (n : Nat) : Prop :=
  ∀ target, e.held n = some target → ∃ origin caller installed,
    origin < installed ∧ installed < n ∧ e.SelectsAt origin caller target ∧
    e.InstallsAt installed caller target ∧
    ∀ k, installed < k → k ≤ n → e.Holds k origin target

/-- What a caller refers to at a stage has the past that belongs to the stage. -/
def CallerSound (e : Interleaving p start) (n caller : Nat) : Stage → Prop
  | .selecting => ∃ looked, e.MissesAt looked caller ∧ e.StaysAt looked n caller .selecting
  | .installing target => ∃ origin, e.origin target.tag n = some origin ∧
      e.SelectsAt origin caller target ∧ ∀ k, k ≤ n → ∀ other, ¬ e.Holds k origin other
  | .calling target => ∃ origin resolved, e.Attempting n caller origin resolved target
  | .clearing target => ∃ origin resolved failed,
      e.Clearing n caller origin resolved failed target
  | _ => True

/-- The slot and all callers have sound pasts. -/
structure Sound (e : Interleaving p start) (n : Nat) : Prop where
  slot : e.SlotSound n
  callers : ∀ caller stage, e.stage? n caller = some stage → e.CallerSound n caller stage

variable {e : Interleaving p start} {n : Nat}

/-- What the slot holds at the next moment it holds now, or a caller is just installing it. -/
theorem held_of_held_succ {target : Target} (h : e.held (n + 1) = some target) :
    e.held n = some target ∨
    (∃ caller, e.InstallsAt n caller target ∧
      e.stage? (n + 1) caller = some (.calling target)) := by
  rcases slot_cases (e.atomic n) with
    hslot | ⟨caller, fresh, hmove, hstage, hnext, hempty, hfilled⟩ | ⟨_, _, _, _, _, _, _, hnone⟩
  · exact .inl (by rw [held, ← hslot]; exact h)
  · obtain rfl : fresh = target := Option.some.inj (hfilled.symm.trans h)
    exact .inr ⟨caller, ⟨hmove, hstage, hempty, h⟩, hnext⟩
  · rw [held, hnone] at h
    cases h

/-- What the slot holds now it holds at the next moment, or a caller is just emptying it that was to
clear a target with the same tag. -/
theorem held_succ_of_held {target : Target} (h : e.held n = some target) :
    e.held (n + 1) = some target ∨
    (e.held (n + 1) = none ∧
      ∃ caller failed, e.ClearsAt n caller failed ∧ target.tag = failed.tag) := by
  rcases slot_cases (e.atomic n) with
    hslot | ⟨_, _, _, _, _, hempty, _⟩ | ⟨caller, failed, found, hmove, hstage, hfound, htag, hnone⟩
  · exact .inl (by rw [held, hslot]; exact h)
  · rw [held, hempty] at h
    cases h
  · obtain rfl : found = target := Option.some.inj (hfound.symm.trans h)
    exact .inr ⟨hnone, caller, failed, ⟨hmove, hstage⟩, htag⟩

/-- What the slot holds for another moment keeps its origin. -/
theorem Holds.of_succ {origin : Nat} {target : Target} (h : e.Holds (n + 1) origin target)
    (hnow : e.held n = some target) : e.Holds n origin target :=
  ⟨hnow, (origin_succ_of_held hnow).symm.trans h.2⟩

/-- The slot stays sound. -/
theorem Sound.slot_succ (h : e.Sound n) : e.SlotSound (n + 1) := by
  intro target hheld
  rcases held_of_held_succ hheld with hnow | ⟨caller, hinstalls, _⟩
  · obtain ⟨origin, caller, installed, hlt, hbefore, hselects, hinstalls, hsince⟩ :=
      h.slot target hnow
    refine ⟨origin, caller, installed, hlt, by omega, hselects, hinstalls, fun k hk hle => ?_⟩
    by_cases hlast : k = n + 1
    · subst hlast
      exact ⟨hheld, (origin_succ_of_held hnow).trans (hsince n hbefore (Nat.le_refl n)).2⟩
    · exact hsince k hk (by omega)
  · have hstage := hinstalls.2.1
    obtain ⟨origin, horigin, hselects, _⟩ := h.callers caller _ hstage
    refine ⟨origin, caller, n, origin_lt horigin, by omega, hselects, hinstalls, fun k hk hle => ?_⟩
    obtain rfl : k = n + 1 := by omega
    exact ⟨hheld, (origin_succ_of_stage? hstage rfl).trans horigin⟩

/-- A target that a caller is about to install, and goes on to be about to install, does not enter
the slot meanwhile: only its own caller could install it. -/
theorem Sound.not_holds_succ (h : e.Sound n) {caller origin : Nat} {target : Target}
    (hselects : e.SelectsAt origin caller target)
    (hfresh : ∀ k, k ≤ n → ∀ other, ¬ e.Holds k origin other)
    (hstage : e.stage? (n + 1) caller = some (.installing target)) (other : Target) :
    ¬ e.Holds (n + 1) origin other := by
  intro hholds
  rcases held_of_held_succ hholds.1 with hnow | ⟨installer, hinstalls, hnext⟩
  · exact hfresh n (Nat.le_refl n) other (hholds.of_succ hnow)
  -- The installer selected its target at the same moment, so it is the caller itself; but that one
  -- has not moved on to an attempt.
  · have hinstalling := hinstalls.2.1
    obtain ⟨_, horigin, hselects', _⟩ := h.callers installer _ hinstalling
    obtain rfl : _ = origin :=
      Option.some.inj (horigin.symm.trans ((origin_succ_of_stage? hinstalling rfl).symm.trans
        hholds.2))
    have hmove := hselects.1.symm.trans hselects'.1
    obtain rfl : caller = installer := Option.some.inj (congrArg Move.caller? hmove)
    rw [hnext] at hstage
    cases hstage

/-- A caller that goes on with its attempt has the same past at the next moment. -/
theorem Attempting.succ {caller origin resolved : Nat} {target : Target}
    (h : e.Attempting n caller origin resolved target)
    (hnext : e.stage? (n + 1) caller = some (.calling target)) :
    e.Attempting (n + 1) caller origin resolved target where
  resolves := h.resolves
  holds := h.holds
  calling := h.calling.succ hnext
  same := (origin_succ_of_stage? h.calling.stage? rfl).trans h.same

/-- A caller that is still about to clear has the same past at the next moment. -/
theorem Clearing.succ {caller origin resolved failed : Nat} {target : Target}
    (h : e.Clearing n caller origin resolved failed target)
    (hnext : e.stage? (n + 1) caller = some (.clearing target)) :
    e.Clearing (n + 1) caller origin resolved failed target where
  attempting := h.attempting
  fails := h.fails
  clearing := h.clearing.succ hnext
  same := (origin_succ_of_stage? h.clearing.stage? rfl).trans h.same

/-- A caller that resolves to what the slot holds then begins an attempt. -/
theorem Attempting.first {caller origin : Nat} {target : Target}
    (hresolves : e.ResolvesAt n caller target) (hholds : e.Holds (n + 1) origin target) :
    e.Attempting (n + 1) caller origin n target where
  resolves := hresolves
  holds := hholds
  calling := .first hresolves.2
  same := hholds.2

/-- A caller whose attempt fails retryably is then about to clear its target. -/
theorem Clearing.first {caller origin resolved : Nat} {target : Target}
    (h : e.Attempting n caller origin resolved target) (hfails : e.FailsAt n caller target)
    (hnext : e.stage? (n + 1) caller = some (.clearing target)) :
    e.Clearing (n + 1) caller origin resolved n target where
  attempting := h
  fails := hfails
  clearing := .first hnext
  same := (origin_succ_of_stage? h.calling.stage? rfl).trans h.same

/-- A caller that stays at a stage stays sound. -/
theorem Sound.caller_kept (h : e.Sound n) {caller : Nat} {stage : Stage}
    (hnow : e.stage? n caller = some stage) (hnext : e.stage? (n + 1) caller = some stage) :
    e.CallerSound (n + 1) caller stage := by
  have hsound := h.callers caller stage hnow
  cases stage with
  | installing target =>
      obtain ⟨origin, horigin, hselects, hfresh⟩ := hsound
      refine ⟨origin, (origin_succ_of_stage? hnow rfl).trans horigin, hselects, fun k hk => ?_⟩
      rcases Nat.lt_or_eq_of_le hk with hlt | rfl
      · exact hfresh k (Nat.le_of_lt_succ hlt)
      · exact h.not_holds_succ hselects hfresh hnext
  | calling target =>
      obtain ⟨origin, resolved, hattempting⟩ := hsound
      exact ⟨origin, resolved, hattempting.succ hnext⟩
  | clearing target =>
      obtain ⟨origin, resolved, failed, hclearing⟩ := hsound
      exact ⟨origin, resolved, failed, hclearing.succ hnext⟩
  | selecting =>
      obtain ⟨looked, hmisses, hstays⟩ := hsound
      exact ⟨looked, hmisses, hstays.succ hnext⟩
  | reading | pausing | finished => trivial

/-- A caller that comes to be about to select is sound. -/
theorem Sound.caller_selecting (h : e.Sound n) (hsticky : p.isSticky = true) {caller : Nat}
    (hnext : e.stage? (n + 1) caller = some .selecting) :
    e.CallerSound (n + 1) caller .selecting := by
  rcases selecting_cases (e.atomic n) hsticky hnext with hnow | hmisses
  · exact h.caller_kept hnow hnext
  · exact ⟨n, hmisses, .first hnext⟩

/-- A caller that comes to refer to a target is sound. -/
theorem Sound.caller_of_source (h : e.Sound n) {caller : Nat} {stage : Stage} {target : Target}
    (hsource : Source p (e.state n) (e.move n) (e.state (n + 1)) caller stage target)
    (hnext : e.stage? (n + 1) caller = some stage) : e.CallerSound (n + 1) caller stage := by
  cases hsource with
  | kept stage target hnow => exact h.caller_kept hnow hnext
  | held target hmove hslot hheld =>
      obtain ⟨origin, _, installed, _, hlt, _, _, hsince⟩ := h.slot target hheld
      have hholds := hsince n hlt (Nat.le_refl n)
      refine ⟨origin, n, .first ⟨hmove, hnext⟩ ⟨?_, ?_⟩⟩
      · rw [held, hslot]
        exact hheld
      · exact (origin_succ_of_held hheld).trans hholds.2
  | installed target hmove hstage hempty hfilled =>
      obtain ⟨origin, horigin, _⟩ := h.callers caller _ hstage
      exact ⟨origin, n, .first ⟨hmove, hnext⟩
        ⟨hfilled, (origin_succ_of_stage? hstage rfl).trans horigin⟩⟩
  | selected target hmove hfree hmem hslot =>
      refine ⟨n, by simp [origin, hmove, Move.takes], ⟨hmove, hmem⟩, fun k hk other hholds => ?_⟩
      -- Nothing that the slot has held until now was selected just now.
      rcases Nat.lt_or_eq_of_le hk with hlt | rfl
      · exact absurd (origin_lt hholds.2) (by omega)
      · have hnow : e.held n = some other := by rw [held, ← hslot]; exact hholds.1
        exact absurd (origin_lt (hholds.of_succ hnow).2) (Nat.lt_irrefl n)
  | failed target error hmove hretry hcalling hslot =>
      obtain ⟨origin, resolved, hattempting⟩ := h.callers caller _ hcalling
      have hfails : e.FailsAt n caller target := ⟨hcalling, error, hretry, hmove⟩
      exact ⟨origin, resolved, n, .first hattempting hfails hnext⟩

/-- A step of a sticky proxy's callers keeps all pasts sound. -/
theorem Sound.succ (hsticky : p.isSticky = true) (h : e.Sound n) : e.Sound (n + 1) where
  slot := h.slot_succ
  callers caller stage hstage := by
    cases stage with
    | reading | pausing | finished => trivial
    | selecting => exact h.caller_selecting hsticky hstage
    | installing target | calling target | clearing target =>
        exact h.caller_of_source (target_cases (e.atomic n) hsticky hstage rfl) hstage

variable {cluster : Cluster} {registry : Registry Handler}

/-- At every moment of an interleaving that begins without callers all pasts are sound. -/
theorem sound (e : Interleaving p (.idle cluster registry)) (hsticky : p.isSticky = true)
    (n : Nat) : e.Sound n := by
  induction n with
  | zero =>
      constructor
      · intro target hheld
        simp [held, e.begins, idle, StickySlot.empty] at hheld
      · intro caller stage hstage
        simp [stage?, e.begins, Callers.stage?, invocation?, idle] at hstage
  | succ n ih => exact ih.succ hsticky

/-- A target that was in the slot and is no longer there never comes back: what enters the slot has
never been in it. -/
theorem not_holds_again (hsound : ∀ n, e.Sound n) {k origin : Nat} {target : Target}
    (hpast : e.Holds k origin target) (hle : k ≤ n) (hgone : ∀ other, ¬ e.Holds n origin other)
    {m : Nat} (hm : n ≤ m) (other : Target) : ¬ e.Holds m origin other := by
  -- By induction on the later moment. Only an installation could bring the target back, and what is
  -- installed has never been in the slot, although this one was at moment `k`.
  induction hm generalizing other with
  | refl => exact hgone other
  | @step m hm ih =>
      intro hholds
      rcases held_of_held_succ hholds.1 with hnow | ⟨installer, hinstalls, _⟩
      · exact ih other (hholds.of_succ hnow)
      · have hstage := hinstalls.2.1
        obtain ⟨_, horigin, _, hfresh⟩ := (hsound m).callers installer _ hstage
        obtain rfl : _ = origin :=
          Option.some.inj (horigin.symm.trans ((origin_succ_of_stage? hstage rfl).symm.trans
            hholds.2))
        exact hfresh k (Nat.le_trans hle hm) target hpast

end Interleaving

end ServiceRouting
