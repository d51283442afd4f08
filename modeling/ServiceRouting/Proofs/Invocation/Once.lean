import ServiceRouting.Proofs.Invocation.Account
import ServiceRouting.Transport.InProcess

/-!
# Handlers run once

An invocation tries again after any number of failures, in place and through the transport within
the process, while the world changes between any two questions. Still a handler runs for it once at
most: a retryable failure is found out before a handler runs, and what a handler gives is not
retried. Read `Executed` first.
-/

namespace ServiceRouting

open Json (Value)

namespace Invocation

variable {Handler : Type}

/-- What the handlers that ran gave, in order. -/
def executions (deeds : List (Deed Handler)) : List Outcome :=
  deeds.filterMap fun
    | .ran _ _ outcome => some outcome
    | _ => none

namespace Answers

/-- What attempts are made with if the transport is the one within the process: at each submission
its nodes and their registries are what the world has them to be then. -/
def siteWithin (answers : Answers Handler)
    (world : List (Deed Handler) → InProcess × List (Registry Handler)) :
    CallSite (Account Handler) Handler :=
  { answers.site with
    submit := fun target call _ =>
      InProcess.submit (fun past => (world past, past)) answers.site.run target call }

/-- The first steps of an invocation whose transport is the one within the process. -/
def invokeWithin (answers : Answers Handler)
    (world : List (Deed Handler) → InProcess × List (Registry Handler)) (p : Proxy)
    (method : String) (args : List Value) (fuel : Nat) : Invocation × List (Deed Handler) :=
  let attempt := (answers.siteWithin world).attempt p.selector.localId ⟨p.name, method, args⟩
  (answers.environment p attempt).run fuel .start []

variable {answers : Answers Handler}
  {world : List (Deed Handler) → InProcess × List (Registry Handler)}
  {target : Node} {call : CallDescriptor} {past : List (Deed Handler)}

/-- Without a handler on the other node nothing is written down. -/
theorem submit_of_missing {e : DispatchError}
    (hfound : (world past).1.find (world past).2 target call = .error e) :
    InProcess.submit (fun past => (world past, past)) answers.site.run target call past =
      (.error e, past) := by
  simp only [InProcess.submit, hfound, Execution.serve, bind_apply, pure_apply]

/-- The handler that is found on the other node runs. -/
theorem submit_of_found {handler : Handler}
    (hfound : (world past).1.find (world past).2 target call = .ok handler) :
    InProcess.submit (fun past => (world past, past)) answers.site.run target call past =
      (Execution.receivedResult (answers.outcome past handler call.args),
        past ++ [.ran handler call.args (answers.outcome past handler call.args)]) := by
  simp only [InProcess.submit, hfound, Execution.serve, site, ask, bind_apply, pure_apply]

end Answers

/-- What an attempt of a call can end in, with what the handlers gave that ran meanwhile. -/
inductive Ran (call : CallDescriptor) : List Outcome → Except InvocationError Value → Prop where
  | value (v) : Ran call [.ok v] (.ok v)
  /-- The handler failed on the local node. -/
  | failed (source) : Ran call [.error source] (.error (.failed source))
  /-- The handler failed on another node, which reports the text of its failure. -/
  | reported (source) : Ran call [.error source] (.error (.failed ⟨source.fullText, []⟩))
  | methodNotFound : Ran call [] (.error (.methodNotFound call.service call.signature))
  | retryable (e) : e.isRetryable = true → Ran call [] (.error e)

/-- What an invocation of a call can end in, with what the handlers gave that ran for it. -/
inductive Executed (call : CallDescriptor) :
    List Outcome → Option (Except InvocationError Value) → Prop where
  /-- The invocation has not ended. -/
  | underWay : Executed call [] none
  /-- An attempt ended it, not to be retried. -/
  | settled (outcomes result) :
      Ran call outcomes result → (∀ e, result = .error e → e.isRetryable = false) →
      Executed call outcomes (some result)
  | unavailable : Executed call [] (some (.error (.serviceUnavailable call.service)))
  | interrupted : Executed call [] (some (.error .interrupted))

/-- The handlers that ran for an invocation of a call, against what it ended in. -/
structure RunOnce (call : CallDescriptor) (outcomes : List Outcome)
    (result : Option (Except InvocationError Value)) : Prop where
  /-- A value is that of the one handler that ran. -/
  value : ∀ v, result = some (.ok v) → outcomes = [.ok v]
  /-- A failure of the method is that of the one handler that ran, which another node reports by its
  text. -/
  failed : ∀ source, result = some (.error (.failed source)) →
    ∃ cause, outcomes = [.error cause] ∧ (source = cause ∨ source = ⟨cause.fullText, []⟩)
  /-- For any other failure no handler ran. -/
  neither : ∀ e, result = some (.error e) → (∀ source, e ≠ .failed source) → outcomes = []
  /-- No handler has run to its end before the invocation ends. -/
  underWay : result = none → outcomes = []
  /-- A failure is an unavailable service, a missing method, an interruption or a failure of the
  method. -/
  only : ∀ e, result = some (.error e) →
    e = .serviceUnavailable call.service ∨ e = .methodNotFound call.service call.signature ∨
      e = .interrupted ∨ ∃ source, e = .failed source

variable {answers : Answers Handler} {p : Proxy} {call : CallDescriptor}
  {world : List (Deed Handler) → InProcess × List (Registry Handler)}

/-- What handlers gave in one account and then in another is what they gave in both together. -/
theorem executions_append (deeds others : List (Deed Handler)) :
    executions (deeds ++ others) = executions deeds ++ executions others :=
  List.filterMap_append

/-- No handler has run to its end for an invocation under way. -/
theorem Executed.underWay_nil {outcomes : List Outcome} (h : Executed call outcomes none) :
    outcomes = [] := by
  cases h
  rfl

/-- A handler that is not found on the local node is missing, or its service has gone. -/
theorem ran_of_findLocal {r : Registry Handler} {node : NodeId} {e : InvocationError}
    (h : Execution.findLocal r node call = .error e) : Ran call [] (.error e) := by
  unfold Execution.findLocal at h
  split at h
  · cases h
    exact .retryable _ rfl
  · split at h <;> cases h
    exact .methodNotFound

/-- A handler that is not found on another node is missing, or its service or the node has gone. -/
theorem ran_of_find {t : InProcess} {registries : List (Registry Handler)} {target : Node}
    {e : DispatchError} (h : t.find registries target call = .error e) :
    Ran call [] (.error (.ofDispatch e)) := by
  unfold InProcess.find at h
  split at h
  · cases h
    exact .retryable _ rfl
  · unfold Execution.findReceived at h
    split at h
    · cases h
      exact .retryable _ rfl
    · split at h <;> cases h
      exact .methodNotFound

/-- In an attempt a handler runs once or not at all, and it is not retried after one ran. -/
theorem ran_attempt (answers : Answers Handler)
    (world : List (Deed Handler) → InProcess × List (Registry Handler)) (call : CallDescriptor)
    (localId : NodeId) (n : Node) (past : List (Deed Handler)) :
    ∃ outcomes,
      executions ((answers.siteWithin world).attempt localId call n past).2 =
        executions past ++ outcomes ∧
      Ran call outcomes ((answers.siteWithin world).attempt localId call n past).1 := by
  rw [Answers.siteWithin]
  by_cases hlocal : n.id = localId
  · cases hfound : Execution.findLocal (answers.registry past) n.id call with
    | error e =>
        rw [Answers.attempt_of_missing _ hlocal hfound, executions_append]
        exact ⟨[], rfl, ran_of_findLocal hfound⟩
    | ok handler =>
        rw [Answers.attempt_of_found _ hlocal hfound, List.append_assoc, executions_append]
        generalize answers.outcome _ handler call.args = outcome
        refine ⟨[outcome], rfl, ?_⟩
        cases outcome with
        | ok v => exact .value v
        | error source => exact .failed source
  · rw [Answers.attempt_of_other _ hlocal]
    cases hfound : (world past).1.find (world past).2 n call with
    | error e =>
        rw [Answers.submit_of_missing hfound]
        exact ⟨[], (List.append_nil _).symm, ran_of_find hfound⟩
    | ok handler =>
        rw [Answers.submit_of_found hfound, executions_append]
        generalize answers.outcome past handler call.args = outcome
        refine ⟨[outcome], rfl, ?_⟩
        cases outcome with
        | ok v => exact .value v
        | error source => exact .reported source

/-- A step keeps it that handlers ran as the result says. -/
theorem executed_advance (past : List (Deed Handler)) (i : Invocation) (hlast : i.result? = none)
    (hservice : call.service = p.name) (h : Executed call (executions past) i.result?) :
    Executed call
      (executions ((answers.environment p
        ((answers.siteWithin world).attempt p.selector.localId call)).advance i past).2)
      ((answers.environment p
        ((answers.siteWithin world).attempt p.selector.localId call)).advance i
          past).1.result? := by
  -- No handler has run so far, so only the attempt that ends the invocation can have run one.
  have hnone : executions past = [] := (hlast ▸ h).underWay_nil
  obtain ⟨stage, pauses⟩ := i
  cases stage with
  | reading =>
      cases hsticky : p.isSticky with
      | false =>
          rw [Answers.advance_reading _ _ _ _ _ hsticky, hnone]
          exact .underWay
      | true =>
          rw [Answers.advance_reading_sticky _ _ _ _ _ hsticky, executions_append, hnone]
          cases answers.held past <;> exact .underWay
  | selecting =>
      rw [Answers.advance_selecting, executions_append, hnone]
      cases answers.select past with
      | none => exact hservice ▸ .unavailable
      | some fresh => cases p.isSticky <;> exact .underWay
  | installing fresh =>
      rw [Answers.advance_installing, executions_append, hnone]
      exact .underWay
  | calling target =>
      rw [Answers.advance_calling]
      obtain ⟨outcomes, hpast, hran⟩ :=
        ran_attempt answers world call p.selector.localId target.node past
      rw [hpast, hnone, List.nil_append]
      generalize ((answers.siteWithin world).attempt p.selector.localId call target.node past).1 =
        result at hran
      cases result with
      | ok value => exact .settled _ _ hran nofun
      | error e =>
          cases hretry : e.isRetryable with
          | true =>
              simp only [afterAttempt, hretry, if_true]
              -- What a handler gave is not retryable.
              cases hran with
              | methodNotFound => cases hretry
              | failed | reported => cases hretry
              | retryable => exact .underWay
          | false =>
              simp only [afterAttempt, hretry, Bool.false_eq_true, if_false]
              refine .settled _ _ hran fun e' he => ?_
              obtain rfl := Except.error.inj he
              exact hretry
  | clearing failed =>
      rw [Answers.advance_clearing, executions_append, hnone]
      exact .underWay
  | pausing =>
      rw [Answers.advance_pausing, executions_append, hnone]
      cases answers.pause past pauses with
      | resumed => exact .underWay
      | interrupted => exact .interrupted
  | finished result => cases hlast

/-- Whatever an invocation has ended in, handlers ran once or not at all as it says. -/
theorem Executed.runOnce {outcomes : List Outcome}
    {result : Option (Except InvocationError Value)} (h : Executed call outcomes result) :
    RunOnce call outcomes result := by
  cases h with
  | underWay => exact ⟨nofun, nofun, fun _ _ _ => rfl, fun _ => rfl, nofun⟩
  | unavailable | interrupted =>
      refine ⟨nofun, nofun, fun _ _ _ => rfl, nofun, fun e he => ?_⟩
      cases he
      simp
  | settled outcomes result hran hsettled =>
      cases hran with
      | value v =>
          refine ⟨fun v' hv => ?_, nofun, nofun, nofun, nofun⟩
          cases hv
          rfl
      | failed source | reported source =>
          refine ⟨nofun, fun source' hsource => ?_, fun e he hne => ?_, nofun, fun e he => ?_⟩
          · cases hsource
            exact ⟨source, rfl, by simp⟩
          · cases he
            exact absurd rfl (hne _)
          · cases he
            simp
      | methodNotFound =>
          refine ⟨nofun, nofun, fun _ _ _ => rfl, nofun, fun e he => ?_⟩
          cases he
          simp
      | retryable e hretry =>
          rw [hsettled e rfl] at hretry
          cases hretry

/-- However often an invocation tries again and however the world changes meanwhile, a handler runs
for it exactly once if it ends in a value or a failure of the method, and never otherwise. -/
theorem runOnce_invokeWithin (answers : Answers Handler)
    (world : List (Deed Handler) → InProcess × List (Registry Handler)) (p : Proxy)
    (method : String) (args : List Value) (fuel : Nat) :
    RunOnce ⟨p.name, method, args⟩ (executions (answers.invokeWithin world p method args fuel).2)
      (answers.invokeWithin world p method args fuel).1.result? := by
  have hexecuted : Executed ⟨p.name, method, args⟩
      (executions (answers.invokeWithin world p method args fuel).2)
      (answers.invokeWithin world p method args fuel).1.result? := by
    refine Answers.run_preserves
      (motive := fun past i => Executed ⟨p.name, method, args⟩ (executions past) i.result?)
      (fun past i hlast h => ?_) fuel Executed.underWay
    exact executed_advance past i hlast rfl h
  exact hexecuted.runOnce

end Invocation

end ServiceRouting
