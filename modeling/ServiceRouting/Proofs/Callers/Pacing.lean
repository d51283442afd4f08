import ServiceRouting.Proofs.Callers.Cancellation
import ServiceRouting.Proxy.PacedCallers

/-!
# Cancellation and the clock

What holds at every moment of every schedule of a proxy's callers, with attempts that end in what
handlers and transport make of them and with pauses that look at the token and at the clock. Read
`CutOff` first. A schedule is an interleaving of the callers (`Schedule.interleaving`), moment by
moment, so what is known of those holds of it.
-/

namespace ServiceRouting

open Json (Value)
open Callers Invocation

namespace PacedCallers

variable {Handler : Type} {p : Proxy} {s t : PacedCallers Handler} {move : Move Handler}
  {caller : Nat}

/-- A handler that is not found is missed for another reason than an interruption. -/
theorem findLocal_ne_interrupted (r : Registry Handler) (node : NodeId) (call : CallDescriptor) :
    Execution.findLocal r node call ≠ .error .interrupted := by
  unfold Execution.findLocal
  split
  · exact nofun
  · split <;> exact nofun

/-- No attempt ends as if it had been interrupted. -/
theorem Course.result_ne_interrupted (course : Course Handler) (localId : NodeId) (n : Node) :
    course.result localId n ≠ .error .interrupted := by
  unfold result CallSite.attempt
  cases Attempt.of localId course.call n with
  | submitted target call failover =>
      show InvocationError.ofResult (course.submit target call failover) ≠ .error .interrupted
      cases course.submit target call failover with
      | ok => exact nofun
      | error e => cases e <;> exact nofun
  | direct =>
      have hfound := findLocal_ne_interrupted course.registry n.id course.call
      dsimp only [bind, pure]
      split
      next e he => exact fun heq => hfound (he.trans (congrArg _ (Except.error.inj heq)))
      next handler _ => cases course.run handler course.call.args <;> exact nofun

/-- The step of the callers in a step. -/
def underlying (p : Proxy) (s : PacedCallers Handler) (move : Move Handler) :
    Callers.Move Handler :=
  ((s.react p move).map Reaction.move).getD s.still

/-- A step is a step of the callers. -/
theorem callers_step (h : s.step p move = some t) :
    s.callers.step p (s.underlying p move) = some t.callers := by
  obtain ⟨reaction, hreaction, h⟩ := Option.bind_eq_some_iff.1 h
  obtain ⟨callers, hcallers, rfl⟩ := Option.map_eq_some_iff.1 h
  rw [underlying, hreaction]
  exact hcallers

/-- A step is taken if the step of the callers in it is. -/
theorem step_of_react {reaction : Reaction Handler} {callers : Callers Handler}
    (hreact : s.react p move = some reaction)
    (hstep : s.callers.step p reaction.move = some callers) :
    s.step p move = some ⟨callers, reaction.now, reaction.due?⟩ := by
  rw [step, hreact, Option.bind_some, hstep, Option.map_some]

/-- Nothing that a caller does in its pause is the end of an attempt. -/
theorem enterPause_ne_answered (number draw mover : Nat)
    (result : Except InvocationError Value) :
    (s.enterPause p mover number draw).move ≠ .hear caller (.answered result) := by
  unfold enterPause
  split
  · exact nofun
  · split <;> exact nofun

/-- Nothing that a caller does when it is woken is the end of an attempt. -/
theorem wakeUp_ne_answered (due mover : Nat) (result : Except InvocationError Value) :
    (s.wakeUp mover due).move ≠ .hear caller (.answered result) := by
  unfold wakeUp
  split <;> exact nofun

/-- An attempt ends with what handlers and transport make of it. -/
theorem exists_course {result : Except InvocationError Value}
    (h : s.underlying p move = .hear caller (.answered result)) :
    ∃ course target, move = .answer caller course ∧
      s.callers.stage? caller = some (.calling target) ∧
      result = course.result p.selector.localId target.node := by
  unfold underlying at h
  cases hreact : s.react p move with
  | none => rw [hreact] at h; cases h
  | some reaction =>
      rw [hreact] at h
      replace h : reaction.move = .hear caller (.answered result) := h
      cases move with
      | go move =>
          rw [react, Option.ite_none_right_eq_some] at hreact
          obtain ⟨hfree, hreact⟩ := hreact
          obtain rfl := Option.some.inj hreact
          obtain rfl : move = .hear caller (.answered result) := h
          cases hfree
      | answer other course =>
          rw [react] at hreact
          split at hreact
          next target hcalling =>
            obtain rfl := Option.some.inj hreact
            cases h
            exact ⟨course, target, rfl, hcalling, rfl⟩
          next => cases hreact
      | pass ms => cases hreact; cases h
      | enter mover draw =>
          rw [react] at hreact
          split at hreact
          next => cases hreact; exact absurd h (enterPause_ne_answered _ _ _ _)
          next => cases hreact
      | wake mover =>
          rw [react] at hreact
          split at hreact
          next => cases hreact; exact absurd h (wakeUp_ne_answered _ _ _)
          next => cases hreact

/-- A pause that sees the token cancelled ends by an interruption. -/
theorem exists_interrupt (hcancelled : s.callers.cancelled = true)
    (hpausing : s.callers.stage? caller = some .pausing)
    (hreact : s.react p move = some (s.waiting caller (.hear caller (.paused .interrupted)) none)) :
    ∃ t, s.step p move = some t ∧
      t.callers.stage? caller = some (.finished (.error .interrupted)) := by
  obtain ⟨i, hi, hstage⟩ := Option.map_eq_some_iff.1 hpausing
  have hstep : s.callers.step p (.hear caller (.paused .interrupted)) =
      some (s.callers.put s.callers.slot caller
        (i.moveTo (.finished (.error .interrupted)))) := by
    simp only [Callers.step, hi, allows, PauseEnd.poll, hcancelled, Invocation.step, hstage,
      Option.bind_some, if_true, decide_true, Option.map_some]
  refine ⟨_, step_of_react hreact hstep, ?_⟩
  exact stage?_put_self hi

/-- A caller that enters its pause under a cancelled token is interrupted, whatever it draws. -/
theorem exists_enter (draw : Nat) (hcancelled : s.callers.cancelled = true)
    (hpausing : s.callers.stage? caller = some .pausing) (hdue : s.due? caller = none) :
    ∃ t, s.step p (.enter caller draw) = some t ∧
      t.callers.stage? caller = some (.finished (.error .interrupted)) := by
  obtain ⟨⟨stage, number⟩, hi, rfl⟩ := Option.map_eq_some_iff.1 hpausing
  refine exists_interrupt hcancelled hpausing ?_
  simp only [react, hi, hdue, enterPause, PauseEnd.poll, hcancelled, if_true]

/-- A caller that waits and is woken under a cancelled token is interrupted, whether or not its
delay is over. -/
theorem exists_wake {due : Nat} (hcancelled : s.callers.cancelled = true)
    (hpausing : s.callers.stage? caller = some .pausing) (hdue : s.due? caller = some due) :
    ∃ t, s.step p (.wake caller) = some t ∧
      t.callers.stage? caller = some (.finished (.error .interrupted)) := by
  refine exists_interrupt hcancelled hpausing ?_
  simp only [react, hpausing, hdue, wakeUp, PauseEnd.poll, hcancelled, if_true]

/-- Whatever becomes of an attempt, it can end so, and if that is no reason to try again it is the
result. -/
theorem exists_answer {target : Target} (course : Course Handler)
    (hcalling : s.callers.stage? caller = some (.calling target)) :
    ∃ t, s.step p (.answer caller course) = some t ∧
      ((∀ e, course.result p.selector.localId target.node = .error e → e.isRetryable = false) →
        t.callers.stage? caller =
          some (.finished (course.result p.selector.localId target.node))) := by
  obtain ⟨i, hi, hstage⟩ := Option.map_eq_some_iff.1 hcalling
  generalize hresult : course.result p.selector.localId target.node = result
  have hstep : s.callers.step p (.hear caller (.answered result)) =
      some (s.callers.put s.callers.slot caller (i.afterAttempt target result)) := by
    simp only [Callers.step, hi, allows, Invocation.step, hstage, Option.bind_some, if_true,
      Option.map_some]
  have hreact : s.react p (.answer caller course) =
      some (s.plainly (.hear caller (.answered result))) := by
    simp only [react, hcalling, hresult]
  refine ⟨_, step_of_react hreact hstep, fun hfinal => ?_⟩
  refine (stage?_put_self hi).trans ?_
  cases result with
  | ok value => rfl
  | error e => rw [afterAttempt, hfinal e rfl]; rfl

end PacedCallers

/-- The states that a proxy's callers go through with the time, and the steps between them. -/
structure Schedule {Handler : Type} (p : Proxy) (start : PacedCallers Handler) where
  state : Nat → PacedCallers Handler
  move : Nat → PacedCallers.Move Handler
  begins : state 0 = start
  steps : ∀ n, (state n).step p (move n) = some (state (n + 1))

namespace Schedule

open PacedCallers

variable {Handler : Type} {p : Proxy} {start : PacedCallers Handler}

/-- The schedule in which nothing happens. -/
def still (p : Proxy) (start : PacedCallers Handler) : Schedule p start where
  state _ := start
  move _ := .pass 0
  begins := rfl
  steps _ := rfl

/-- The schedule that begins with one more step. -/
def cons {next : PacedCallers Handler} (move : PacedCallers.Move Handler)
    (h : start.step p move = some next) (e : Schedule p next) : Schedule p start where
  state
    | 0 => start
    | n + 1 => e.state n
  move
    | 0 => move
    | n + 1 => e.move n
  begins := rfl
  steps
    | 0 => by
        show start.step p move = some (e.state 0)
        rw [e.begins, h]
    | n + 1 => e.steps n

/-- Steps that can all be taken are the beginning of a schedule. -/
theorem exists_of_run {moves : List (PacedCallers.Move Handler)} {last : PacedCallers Handler}
    (h : start.run p moves = some last) : ∃ e : Schedule p start, e.state moves.length = last := by
  induction moves generalizing start with
  | nil => exact ⟨still p start, Option.some.inj h⟩
  | cons move moves ih =>
      obtain ⟨next, hstep, hrest⟩ := Option.bind_eq_some_iff.1 h
      obtain ⟨e, hlast⟩ := ih hrest
      exact ⟨cons move hstep e, hlast⟩

/-- The interleaving of the callers in a schedule. -/
def interleaving (e : Schedule p start) : Interleaving p start.callers where
  state n := (e.state n).callers
  move n := (e.state n).underlying p (e.move n)
  begins := congrArg PacedCallers.callers e.begins
  steps n := callers_step (e.steps n)

/-- The stage of a caller at a moment. -/
def stage? (e : Schedule p start) (n caller : Nat) : Option Stage := e.interleaving.stage? n caller

/-- The token is cancelled at a moment. -/
def CancelledAt (e : Schedule p start) (n : Nat) : Prop := (e.state n).callers.cancelled = true

/-- What the cancellation of the token does to the callers of a proxy. -/
structure CutOff (e : Schedule p start) : Prop where
  /-- After the cancellation a caller begins one more attempt at most. -/
  once : ∀ n caller j k, e.CancelledAt n → n ≤ j → n ≤ k →
    e.interleaving.BeginsAt j caller → e.interleaving.BeginsAt k caller → j = k
  /-- A caller that is within an attempt or a pause, or between them, at the cancellation begins no
  attempt after it. -/
  never : ∀ n caller stage, e.CancelledAt n → e.stage? n caller = some stage → stage.IsLate →
    ∀ k, n ≤ k → ¬ e.interleaving.BeginsAt k caller
  /-- A caller that enters a pause under a cancelled token is interrupted, whatever it draws. -/
  enters : ∀ n caller draw, e.CancelledAt n → e.stage? n caller = some .pausing →
    (e.state n).due? caller = none →
    ∃ t, (e.state n).step p (.enter caller draw) = some t ∧
      t.callers.stage? caller = some (.finished (.error .interrupted))
  /-- A caller that waits under a cancelled token is interrupted when it is woken, whether or not
  its delay is over. -/
  wakes : ∀ n caller due, e.CancelledAt n → e.stage? n caller = some .pausing →
    (e.state n).due? caller = some due →
    ∃ t, (e.state n).step p (.wake caller) = some t ∧
      t.callers.stage? caller = some (.finished (.error .interrupted))
  /-- No pause ends in another way under a cancelled token: until it is given up a caller is within
  its pause, or it was interrupted. -/
  pauses : ∀ n caller, e.CancelledAt n → e.stage? n caller = some .pausing →
    ∀ k, n ≤ k → ∀ stage, e.stage? k caller = some stage →
      stage = .pausing ∨ stage = .finished (.error .interrupted)
  /-- An attempt may end in any way, whether or not the token is cancelled. Its result is never that
  it was interrupted, and if it is no reason to try again it is that of the caller. -/
  answers : ∀ n caller target course, e.stage? n caller = some (.calling target) →
    ∃ t, (e.state n).step p (.answer caller course) = some t ∧
      course.result p.selector.localId target.node ≠ .error .interrupted ∧
      ((∀ error, course.result p.selector.localId target.node = .error error →
        error.isRetryable = false) →
        t.callers.stage? caller =
          some (.finished (course.result p.selector.localId target.node)))
  /-- The result of a caller does not change. -/
  keeps : ∀ n caller result, e.stage? n caller = some (.finished result) → ∀ k, n ≤ k →
    ∀ stage, e.stage? k caller = some stage → stage = .finished result
  /-- A caller that was interrupted saw the token cancelled after its last attempt had failed
  retryably and it had cleared what it attempted, which the slot does not hold any more. -/
  interrupted : ∀ n caller, e.stage? n caller = some (.finished (.error .interrupted)) →
    e.CancelledAt n ∧ ∃ failed cleared paused target,
      e.interleaving.RetriesEnd n caller failed cleared paused target ∧
      (∀ k, failed ≤ k → k < n → ¬ e.interleaving.BeginsAt k caller) ∧
      (p.isSticky = true → ∃ origin, e.interleaving.DropsAt cleared caller origin target ∧
        ∀ k, cleared < k → ∀ other, ¬ e.interleaving.Holds k origin other) ∧
      (p.isSticky = false → ∀ k, e.interleaving.held k = none)

variable {cluster : Cluster} {registry : Registry Handler}

/-- What a clearing removed from the slot of a sticky proxy stays away. -/
theorem exists_dropsAt (e : Interleaving p (.idle cluster registry)) (hsticky : p.isSticky = true)
    {cleared caller : Nat} {target : Target} (h : e.ClearsAt cleared caller target) :
    ∃ origin, e.DropsAt cleared caller origin target ∧
      ∀ k, cleared < k → ∀ other, ¬ e.Holds k origin other := by
  obtain ⟨origin, resolved, failed, hclearing⟩ :=
    (e.sound hsticky cleared).callers caller _ h.2
  have hdrops : e.DropsAt cleared caller origin target := ⟨h, resolved, failed, hclearing⟩
  exact ⟨origin, hdrops, fun k hk other =>
    Interleaving.Sound.not_holds_of_dropsAt (e.sound hsticky) hdrops hk other⟩

/-- The cancellation of the token cuts off the retries of all callers, in every schedule. -/
theorem retries_cut_off (e : Schedule p (.idle cluster registry)) : e.CutOff where
  once n caller j k hcancelled hj hk h h' :=
    Interleaving.beginsAt_unique (e := e.interleaving) hcancelled hj hk h h'
  never n caller stage hcancelled hstage hlate k hle :=
    Interleaving.not_beginsAt_of_le (e := e.interleaving) hcancelled hstage hlate hle
  enters n caller draw hcancelled hpausing hdue := exists_enter draw hcancelled hpausing hdue
  wakes n caller due hcancelled hpausing hdue := exists_wake hcancelled hpausing hdue
  pauses n caller hcancelled hpausing k hle :=
    Interleaving.pausing_of_le (e := e.interleaving) hcancelled hpausing hle
  answers n caller target course hcalling := by
    obtain ⟨t, hstep, hfinal⟩ := exists_answer (p := p) course hcalling
    exact ⟨t, hstep, course.result_ne_interrupted _ _, hfinal⟩
  keeps n caller result hfinished k hle :=
    Interleaving.finished_of_le (e := e.interleaving) hfinished hle
  interrupted n caller h := by
    have hattempts : ∀ n caller,
        e.interleaving.move n ≠ .hear caller (.answered (.error .interrupted)) := by
      intro n caller hmove
      obtain ⟨course, target, _, _, hresult⟩ := exists_course hmove
      exact course.result_ne_interrupted _ _ hresult.symm
    obtain ⟨failed, cleared, paused, target, hpast⟩ :=
      Interleaving.exists_retriesEnd rfl hattempts h
    refine ⟨Interleaving.cancelled_of_le hpast.cancelled (Nat.le_of_lt hpast.ended.1), failed,
      cleared, paused, target, hpast, fun k hk hlt => hpast.not_beginsAt hk hlt,
      fun hsticky => exists_dropsAt e.interleaving hsticky hpast.clears,
      fun hsticky k => Interleaving.held_of_not_sticky rfl rfl hsticky⟩

/-- An attempt on a node that is gone. -/
def lostCourse : Course Unit where
  registry := Interleaving.soleRegistry
  call := ⟨"s", "m", []⟩
  run _ _ := .ok .null
  submit n _ _ := .error (.topologyChanged n.id)

-- The delay of ten milliseconds is over when the token is cancelled, but the caller was not woken.
example :
    ((PacedCallers.idle Interleaving.pair Interleaving.soleRegistry).run Interleaving.stickyProxy
      [.go .begin, .go (.use 0), .go (.hear 0 (.selected (some ⟨0, Interleaving.soleNode⟩))),
        .go (.use 0), .answer 0 lostCourse, .go (.use 0), .enter 0 0, .pass 20, .go .cancel,
        .wake 0]).bind (·.callers.stage? 0) =
      some (Stage.finished (.error .interrupted)) := rfl

end Schedule

end ServiceRouting
