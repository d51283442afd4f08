import ServiceRouting.Proofs.Callers.StickySafety

/-!
# Callers and cancellation

What the cancellation of a proxy's token does to its callers, in every interleaving of their steps.
Read `Follows` first: it lists the stages that a caller can go to from the one where it is. From an
attempt there is only one way to another, which leads through a pause, and a pause that sees the
token cancelled does not lead there. So a caller that is late at the cancellation begins no attempt
any more (`not_beginsAt_of_le`). `RetriesEnd` is the past of a caller that was interrupted.
-/

namespace ServiceRouting

universe u

open Json (Value)

namespace Invocation

/-- Whether an invocation at a stage has begun its attempt or is beyond it. -/
def Stage.IsLate : Stage → Prop
  | reading | selecting | installing _ => False
  | calling _ | clearing _ | pausing | finished _ => True

end Invocation

open Callers Invocation

namespace Callers

variable {Handler : Type u} {p : Proxy} {s t : Callers Handler} {move : Move Handler}
  {caller : Nat} {stage : Stage}

/-- The stages that a caller goes to with a step of its own. -/
inductive Follows (p : Proxy) (s : Callers Handler) (caller : Nat) :
    Move Handler → Stage → Stage → Prop where
  | keep (target) : Follows p s caller (.use caller) .reading (.calling target)
  | miss : Follows p s caller (.use caller) .reading .selecting
  | miscarry :
      Follows p s caller (.hear caller (.selected none)) .selecting
        (.finished (.error (.serviceUnavailable p.name)))
  | find (fresh) : p.isSticky = true →
      Follows p s caller (.hear caller (.selected (some fresh))) .selecting (.installing fresh)
  | go (fresh) : p.isSticky = false →
      Follows p s caller (.hear caller (.selected (some fresh))) .selecting (.calling fresh)
  | install (fresh winner) :
      Follows p s caller (.use caller) (.installing fresh) (.calling winner)
  | answer (target result) : (∀ e, result = .error e → e.isRetryable = false) →
      Follows p s caller (.hear caller (.answered result)) (.calling target) (.finished result)
  | fail (target e) : e.isRetryable = true →
      Follows p s caller (.hear caller (.answered (.error e))) (.calling target)
        (.clearing target)
  | clear (failed) : Follows p s caller (.use caller) (.clearing failed) .pausing
  | resume : s.cancelled = false →
      Follows p s caller (.hear caller (.paused .resumed)) .pausing .reading
  | interrupt : s.cancelled = true →
      Follows p s caller (.hear caller (.paused .interrupted)) .pausing
        (.finished (.error .interrupted))

/-- A caller whose attempt has ended clears its target or has the result. -/
theorem follows_afterAttempt (i : Invocation) (target : Target)
    (result : Except InvocationError Value) :
    Follows p s caller (.hear caller (.answered result)) (.calling target)
      (i.afterAttempt target result).stage := by
  cases result with
  | ok value => exact .answer target (.ok value) nofun
  | error e =>
      cases hretry : e.isRetryable with
      | true =>
          rw [afterAttempt, hretry]
          exact .fail target e hretry
      | false =>
          rw [afterAttempt, hretry]
          refine .answer target (.error e) fun other heq => ?_
          rw [← Except.error.inj heq]
          exact hretry

/-- A caller whose invocation is put in place goes to its stage. -/
theorem follows_put {slot : StickySlot} {i j : Invocation} (hi : s.invocation? caller = some i)
    (hfollows : Follows p s caller move i.stage j.stage)
    (hstage : (s.put slot caller j).stage? caller = some stage) :
    ∃ before, s.stage? caller = some before ∧ Follows p s caller move before stage := by
  rw [stage?_put_self hi, Option.some.injEq] at hstage
  subst hstage
  exact ⟨i.stage, stage?_of_invocation? hi, hfollows⟩

/-- An invocation that was given up is gone. -/
theorem stage?_abandon_self :
    Callers.stage? { s with invocations := s.invocations.set caller none } caller = none := by
  rw [stage?, invocation?, List.getElem?_set, if_pos rfl]
  split <;> rfl

/-- A caller that takes a step and is not given up goes to a stage that follows. -/
theorem follows_of_own (h : Atomic p s move t) (hown : move.caller? = some caller)
    (hstage : t.stage? caller = some stage) :
    ∃ before, s.stage? caller = some before ∧ Follows p s caller move before stage := by
  cases h with
  | change | cancel | begin => cases hown
  | abandon =>
      obtain rfl := Option.some.inj hown
      rw [stage?_abandon_self] at hstage
      cases hstage
  | keep _ i target hi hbefore =>
      obtain rfl := Option.some.inj hown
      exact follows_put hi (by rw [hbefore]; exact .keep target) hstage
  | miss _ i hi hbefore =>
      obtain rfl := Option.some.inj hown
      exact follows_put hi (by rw [hbefore]; exact .miss) hstage
  | install _ i fresh hi hbefore =>
      obtain rfl := Option.some.inj hown
      exact follows_put hi (by rw [hbefore]; exact .install fresh _) hstage
  | clear _ i failed hi hbefore =>
      obtain rfl := Option.some.inj hown
      exact follows_put hi (by rw [hbefore]; exact .clear failed) hstage
  | miscarry _ i hi hbefore =>
      obtain rfl := Option.some.inj hown
      exact follows_put hi (by rw [hbefore]; exact .miscarry) hstage
  | find _ i fresh hi hbefore =>
      obtain rfl := Option.some.inj hown
      refine follows_put hi ?_ hstage
      rw [hbefore, moveTo]
      cases hsticky : p.isSticky with
      | true => exact .find fresh hsticky
      | false => exact .go fresh hsticky
  | answer _ i target result hi hbefore =>
      obtain rfl := Option.some.inj hown
      exact follows_put hi (by rw [hbefore]; exact follows_afterAttempt i target result) hstage
  | resume _ i hi hbefore hcancelled =>
      obtain rfl := Option.some.inj hown
      exact follows_put hi (by rw [hbefore]; exact .resume hcancelled) hstage
  | interrupt _ i hi hbefore hcancelled =>
      obtain rfl := Option.some.inj hown
      exact follows_put hi (by rw [hbefore]; exact .interrupt hcancelled) hstage

/-- A caller that has begun and does not take the step is where it was. -/
theorem stage?_of_begun (h : Atomic p s move t) (hbegun : caller < s.invocations.length)
    (hother : move.caller? ≠ some caller) : t.stage? caller = s.stage? caller := by
  cases h with
  | change | cancel => rfl
  | begin => rw [stage?, invocation?, List.getElem?_append_left hbegun]; rfl
  | abandon mover =>
      have hne : mover ≠ caller := fun heq => hother (congrArg some heq)
      rw [stage?, invocation?, List.getElem?_set_ne hne]
      rfl
  | keep mover | miss mover | install mover | clear mover | miscarry mover | find mover
  | answer mover | resume mover | interrupt mover =>
      exact stage?_put_of_ne _ fun heq => hother (congrArg some heq.symm)

/-- Where a caller that has begun is after a step: where it was, or at a stage that follows. -/
theorem stage_cases (h : Atomic p s move t) (hbegun : caller < s.invocations.length)
    (hstage : t.stage? caller = some stage) : s.stage? caller = some stage ∨
      ∃ before, s.stage? caller = some before ∧ Follows p s caller move before stage := by
  by_cases hown : move.caller? = some caller
  · exact .inr (follows_of_own h hown hstage)
  · exact .inl ((stage?_of_begun h hbegun hown).symm.trans hstage)

/-- A caller that is at a stage has begun. -/
theorem begun_of_stage? (h : s.stage? caller = some stage) : caller < s.invocations.length := by
  refine Decidable.byContradiction fun hge => ?_
  rw [stage?, invocation?, List.getElem?_eq_none (Nat.le_of_not_lt hge)] at h
  cases h

/-- A caller that has begun has begun after every step. -/
theorem begun_of_atomic (h : Atomic p s move t) (hbegun : caller < s.invocations.length) :
    caller < t.invocations.length := by
  cases h with
  | change | cancel => exact hbegun
  | begin => rw [List.length_append]; exact Nat.lt_add_right 1 hbegun
  | abandon | keep | miss | install | clear | miscarry | find | answer | resume | interrupt =>
      exact (List.length_set ..).symm ▸ hbegun

/-- A cancelled token stays cancelled. -/
theorem cancelled_of_atomic (h : Atomic p s move t) (hcancelled : s.cancelled = true) :
    t.cancelled = true := by
  cases h with
  | cancel => rfl
  | change | begin | abandon | keep | miss | install | clear | miscarry | find | answer | resume
  | interrupt => exact hcancelled

/-- After a late stage comes a late one, if the token is cancelled. -/
theorem Follows.isLate {before : Stage} (h : Follows p s caller move before stage)
    (hlate : before.IsLate) (hcancelled : s.cancelled = true) : stage.IsLate := by
  cases h with
  | keep | miss | miscarry | find | go | install => exact hlate.elim
  | answer | fail | clear | interrupt => trivial
  | resume hnot => exact absurd (hcancelled.symm.trans hnot) nofun

/-- From a late stage a caller does not go to an attempt. -/
theorem Follows.not_isLate {before : Stage} {target : Target}
    (h : Follows p s caller move before (.calling target)) : ¬ before.IsLate := by
  cases h with
  | keep | go | install => exact id

end Callers

namespace Interleaving

variable {Handler : Type u} {p : Proxy} {start : Callers Handler} {e : Interleaving p start}
  {n k caller : Nat} {stage : Stage}

/-- A caller begins an attempt. -/
def BeginsAt (e : Interleaving p start) (n caller : Nat) : Prop :=
  ∃ target, e.stage? (n + 1) caller = some (.calling target) ∧
    e.stage? n caller ≠ some (.calling target)

/-- A token that is cancelled at a moment is cancelled at every later one. -/
theorem cancelled_of_le (h : (e.state n).cancelled = true) (hle : n ≤ k) :
    (e.state k).cancelled = true := by
  induction hle with
  | refl => exact h
  | step _ ih => exact cancelled_of_atomic (e.atomic _) ih

/-- A caller that has begun has begun at every later moment. -/
theorem begun_of_le (h : caller < (e.state n).invocations.length) (hle : n ≤ k) :
    caller < (e.state k).invocations.length := by
  induction hle with
  | refl => exact h
  | step _ ih => exact begun_of_atomic (e.atomic _) ih

/-- A caller stays within stages that only such stages follow. -/
theorem within_of_le {P : Stage → Prop}
    (hclosed : ∀ k, n ≤ k → ∀ before after, P before →
      Follows p (e.state k) caller (e.move k) before after → P after)
    (h : e.stage? n caller = some stage) (hstage : P stage) (hle : n ≤ k) :
    ∀ later, e.stage? k caller = some later → P later := by
  induction hle with
  | refl =>
      intro later hlater
      obtain rfl := Option.some.inj (h.symm.trans hlater)
      exact hstage
  | @step k hle ih =>
      intro later hlater
      have hbegun := begun_of_le (begun_of_stage? h) hle
      rcases stage_cases (e.atomic k) hbegun hlater with hkept | ⟨before, hbefore, hfollows⟩
      · exact ih later hkept
      · exact hclosed k hle before later (ih before hbefore) hfollows

/-- A caller that is late when the token is cancelled begins no attempt any more. -/
theorem not_beginsAt_of_le (hcancelled : (e.state n).cancelled = true)
    (h : e.stage? n caller = some stage) (hlate : stage.IsLate) (hle : n ≤ k) :
    ¬ e.BeginsAt k caller := by
  have hwithin := within_of_le (P := Stage.IsLate)
    (fun k hk _ _ hbefore hfollows => hfollows.isLate hbefore (cancelled_of_le hcancelled hk))
    h hlate hle
  rintro ⟨target, hcalling, hnew⟩
  have hbegun := begun_of_le (begun_of_stage? h) hle
  rcases stage_cases (e.atomic k) hbegun hcalling with hkept | ⟨before, hbefore, hfollows⟩
  · exact hnew hkept
  · exact hfollows.not_isLate (hwithin before hbefore)

/-- Under a cancelled token no caller begins two attempts. -/
theorem beginsAt_unique (hcancelled : (e.state n).cancelled = true) {m : Nat} (hk : n ≤ k)
    (hm : n ≤ m) (h : e.BeginsAt k caller) (h' : e.BeginsAt m caller) : k = m := by
  -- With its attempt a caller becomes late.
  have ordered : ∀ {i j}, n ≤ i → e.BeginsAt i caller → e.BeginsAt j caller → ¬ i < j := by
    rintro i j hi ⟨target, hcalling, _⟩ hagain hlt
    exact not_beginsAt_of_le (cancelled_of_le hcancelled (Nat.le_succ_of_le hi)) hcalling trivial
      hlt hagain
  exact Nat.le_antisymm (Nat.le_of_not_lt (ordered hm h' h)) (Nat.le_of_not_lt (ordered hk h h'))

/-- A caller that has its result keeps it until it is given up. -/
theorem finished_of_le {result : Except InvocationError Value}
    (h : e.stage? n caller = some (.finished result)) (hle : n ≤ k) :
    ∀ later, e.stage? k caller = some later → later = .finished result := by
  refine within_of_le (P := (· = .finished result)) (fun k _ before after hbefore hfollows => ?_)
    h rfl hle
  generalize e.move k = move at hfollows
  subst hbefore
  cases hfollows

/-- Under a cancelled token a pause does not end but by an interruption. -/
theorem pausing_of_le (hcancelled : (e.state n).cancelled = true)
    (h : e.stage? n caller = some .pausing) (hle : n ≤ k) :
    ∀ later, e.stage? k caller = some later →
      later = .pausing ∨ later = .finished (.error .interrupted) := by
  refine within_of_le (P := fun later => later = .pausing ∨ later = .finished (.error .interrupted))
    (fun k hk before after hbefore hfollows => ?_) h (.inl rfl) hle
  have hlater := cancelled_of_le hcancelled hk
  generalize e.move k = move at hfollows
  rcases hbefore with rfl | rfl
  · cases hfollows with
    | resume hnot => exact absurd (hlater.symm.trans hnot) nofun
    | interrupt => exact .inr rfl
  · cases hfollows

/-- A caller that is at a stage came to it with a step and has been there since. -/
theorem exists_staysAt (hidle : start.invocations = []) (h : e.stage? n caller = some stage) :
    ∃ since, e.StaysAt since n caller stage ∧
      (stage = .reading ∨ ∃ before, e.stage? since caller = some before ∧
        Follows p (e.state since) caller (e.move since) before stage) := by
  induction n with
  | zero =>
      have hbegun := begun_of_stage? h
      rw [e.begins, hidle] at hbegun
      exact absurd hbegun (Nat.not_lt_zero caller)
  | succ n ih =>
      by_cases hown : (e.move n).caller? = some caller
      · exact ⟨n, .first h, .inr (follows_of_own (e.atomic n) hown h)⟩
      · rcases stage?_of_other (e.atomic n) hown h with hkept | hreading
        · obtain ⟨since, hstays, hbefore⟩ := ih hkept
          exact ⟨since, hstays.succ h, hbefore⟩
        · exact ⟨n, .first h, .inl hreading⟩

/-- The past of a caller that was interrupted: its last attempt failed retryably, it cleared what it
had attempted, and the pause then saw the token cancelled. -/
structure RetriesEnd (e : Interleaving p start) (n caller failed cleared paused : Nat)
    (target : Target) : Prop where
  fails : e.FailsAt failed caller target
  clearing : e.StaysAt failed cleared caller (.clearing target)
  clears : e.ClearsAt cleared caller target
  pausing : e.StaysAt cleared paused caller .pausing
  cancelled : (e.state paused).cancelled = true
  ended : e.StaysAt paused n caller (.finished (.error .interrupted))

/-- Where a stage comes from that follows an attempt that failed. -/
theorem exists_failsAt (hidle : start.invocations = []) {target : Target}
    (h : e.stage? n caller = some (.clearing target)) :
    ∃ failed, e.FailsAt failed caller target ∧ e.StaysAt failed n caller (.clearing target) := by
  obtain ⟨failed, hstays, hreading | ⟨before, hbefore, hfollows⟩⟩ := exists_staysAt hidle h
  · cases hreading
  · generalize hmove : e.move failed = move at hfollows
    cases hfollows with
    | fail _ error hretry => exact ⟨failed, ⟨hbefore, error, hretry, hmove⟩, hstays⟩

/-- Where a pause comes from. -/
theorem exists_clearsAt (hidle : start.invocations = []) (h : e.stage? n caller = some .pausing) :
    ∃ cleared target, e.ClearsAt cleared caller target ∧ e.StaysAt cleared n caller .pausing := by
  obtain ⟨cleared, hstays, hreading | ⟨before, hbefore, hfollows⟩⟩ := exists_staysAt hidle h
  · cases hreading
  · generalize hmove : e.move cleared = move at hfollows
    cases hfollows with
    | clear target => exact ⟨cleared, target, ⟨hmove, hbefore⟩, hstays⟩

/-- A caller that was interrupted, though no attempt was, has retried. -/
theorem exists_retriesEnd (hidle : start.invocations = [])
    (hattempts : ∀ n caller, e.move n ≠ .hear caller (.answered (.error .interrupted)))
    (h : e.stage? n caller = some (.finished (.error .interrupted))) :
    ∃ failed cleared paused target, e.RetriesEnd n caller failed cleared paused target := by
  obtain ⟨paused, hended, hreading | ⟨before, hbefore, hfollows⟩⟩ := exists_staysAt hidle h
  · cases hreading
  · generalize hmove : e.move paused = move at hfollows
    cases hfollows with
    | answer => exact absurd hmove (hattempts paused caller)
    | interrupt hcancelled =>
        obtain ⟨cleared, target, hclears, hpausing⟩ := exists_clearsAt hidle hbefore
        obtain ⟨failed, hfails, hclearing⟩ := exists_failsAt hidle hclears.2
        exact ⟨failed, cleared, paused, target, hfails, hclearing, hclears, hpausing, hcancelled,
          hended⟩

/-- A caller that was interrupted has begun no attempt since its last one failed. -/
theorem RetriesEnd.not_beginsAt {failed cleared paused : Nat} {target : Target}
    (h : e.RetriesEnd n caller failed cleared paused target) (hk : failed ≤ k) (hlt : k < n) :
    ¬ e.BeginsAt k caller := by
  rintro ⟨other, hcalling, _⟩
  -- After the failure the caller was about to clear, then within the pause, then done.
  have hlater : e.stage? (k + 1) caller = some (.clearing target) ∨
      e.stage? (k + 1) caller = some .pausing ∨
      e.stage? (k + 1) caller = some (.finished (.error .interrupted)) := by
    by_cases hcleared : k + 1 ≤ cleared
    · exact .inl (h.clearing.2 (k + 1) (Nat.lt_succ_of_le hk) hcleared)
    · by_cases hpaused : k + 1 ≤ paused
      · exact .inr (.inl (h.pausing.2 (k + 1) (Nat.lt_of_not_le hcleared) hpaused))
      · exact .inr (.inr (h.ended.2 (k + 1) (Nat.lt_of_not_le hpaused) hlt))
  rw [hcalling] at hlater
  rcases hlater with h | h | h <;> cases h

/-- No caller of a proxy that is not sticky comes to install anything. -/
theorem not_installing (hidle : start.invocations = []) (hsticky : p.isSticky = false)
    (fresh : Target) : e.stage? n caller ≠ some (.installing fresh) := by
  intro h
  obtain ⟨since, _, hreading | ⟨before, _, hfollows⟩⟩ := exists_staysAt hidle h
  · cases hreading
  · generalize e.move since = move at hfollows
    cases hfollows with
    | find _ hnot => rw [hsticky] at hnot; cases hnot

/-- The slot of a proxy that is not sticky stays empty. -/
theorem held_of_not_sticky (hidle : start.invocations = []) (hslot : start.slot.held = none)
    (hsticky : p.isSticky = false) : e.held n = none := by
  induction n with
  | zero => rw [held, e.begins, hslot]
  | succ n ih =>
      refine Option.eq_none_iff_forall_ne_some.2 fun target hheld => ?_
      rcases held_of_held_succ hheld with hnow | ⟨installer, hinstalls, _⟩
      · rw [ih] at hnow
        cases hnow
      · exact not_installing hidle hsticky target hinstalls.2.1

end Interleaving

end ServiceRouting
