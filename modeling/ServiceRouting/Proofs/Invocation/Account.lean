import ServiceRouting.Proxy.Attempt
import ServiceRouting.Proxy.Basic
import ServiceRouting.Proxy.Environment

/-!
# Accounts of invocations

An invocation in surroundings that keep an account: every question that it asks of the world is
written down with the answer. Read `Answers` first. The answers are any functions of the account so
far, so they may change between any two questions, and every order of answers is that of some
`Answers`.
-/

namespace ServiceRouting

open Json (Value)

namespace Invocation

variable {Handler : Type}

/-- What an invocation asks of the world, with the answer. -/
inductive Deed (Handler : Type) where
  | looked (held : Option Target)
  | selected (outcome : Option Target)
  | installed (fresh winner : Target)
  /-- The handler of a call was looked for on the local node. -/
  | found (handler : Except InvocationError Handler)
  /-- A handler ran to its end. -/
  | ran (handler : Handler) (args : List Value) (outcome : Outcome)
  /-- A call was handed to the transport. -/
  | submitted (target : Node) (call : CallDescriptor) (failover : Failover)
      (result : Except DispatchError Value)
  | cleared (tag : Tag)
  | paused (number : Nat) (ending : PauseEnd)

/-- The effects that are written down. -/
abbrev Account (Handler : Type) := StateM (List (Deed Handler))

/-- Asks a question: the answer depends on the account so far, and is added to it. -/
def ask {α : Type} (answer : List (Deed Handler) → α) (deed : α → Deed Handler) :
    Account Handler α :=
  fun past => (answer past, past ++ [deed (answer past)])

/-- Nothing is written down for a value. -/
theorem pure_apply {α : Type} (a : α) (past : List (Deed Handler)) :
    (pure a : Account Handler α) past = (a, past) :=
  rfl

/-- What follows an effect goes on with its account. -/
theorem bind_apply {α β : Type} (x : Account Handler α) (f : α → Account Handler β)
    (past : List (Deed Handler)) : (x >>= f) past = f (x past).1 (x past).2 :=
  rfl

/-- What the world answers after each account. -/
structure Answers (Handler : Type) where
  held : List (Deed Handler) → Option Target
  select : List (Deed Handler) → Option Target
  install : List (Deed Handler) → Target → Target
  /-- The registry that the proxy asks for local instances. -/
  registry : List (Deed Handler) → Registry Handler
  outcome : List (Deed Handler) → Handler → List Value → Outcome
  submit : List (Deed Handler) → Node → CallDescriptor → Failover → Except DispatchError Value
  pause : List (Deed Handler) → Nat → PauseEnd

/-- The look at the slot before a selection: it saw nothing. A proxy that is not sticky does not
look. -/
def looks (p : Proxy) : List (Deed Handler) := if p.isSticky then [.looked none] else []

/-- A sticky proxy looks once. -/
theorem looks_of_sticky {p : Proxy} (h : p.isSticky = true) :
    (looks p : List (Deed Handler)) = [.looked none] :=
  if_pos h

/-- A proxy that is not sticky does not look. -/
theorem looks_of_not_sticky {p : Proxy} (h : p.isSticky = false) :
    (looks p : List (Deed Handler)) = [] :=
  if_neg (Bool.eq_false_iff.1 h)

namespace Answers

/-- What attempts are made with. -/
def site (answers : Answers Handler) : CallSite (Account Handler) Handler where
  find id call := ask (fun past => Execution.findLocal (answers.registry past) id call) .found
  run handler args := ask (answers.outcome · handler args) (.ran handler args)
  submit target call failover :=
    ask (answers.submit · target call failover) (.submitted target call failover)

/-- The surroundings of an invocation through a proxy whose attempts are made in a given way. -/
def environment (answers : Answers Handler) (p : Proxy)
    (attempt : Node → Account Handler (Except InvocationError Value)) :
    Environment (Account Handler) where
  sticky := p.isSticky
  service := p.name
  held := ask answers.held .looked
  select := ask answers.select .selected
  install fresh := ask (answers.install · fresh) (.installed fresh)
  attempt := attempt
  clear tag := ask (fun _ => ()) fun _ => .cleared tag
  pause number := ask (answers.pause · number) (.paused number)

/-- The first steps of an invocation of a method with arguments: how far it comes, and the
account. -/
def invoke (answers : Answers Handler) (p : Proxy) (method : String) (args : List Value)
    (fuel : Nat) : Invocation × List (Deed Handler) :=
  let attempt := answers.site.attempt p.selector.localId ⟨p.name, method, args⟩
  (answers.environment p attempt).run fuel .start []

/-- The surroundings of an invocation of a call. -/
def surroundings (answers : Answers Handler) (p : Proxy) (call : CallDescriptor) :
    Environment (Account Handler) :=
  answers.environment p (answers.site.attempt p.selector.localId call)

/-- What the world answers after an account to the question of a deed. The local node is asked for
the handler of the call. -/
def Says (answers : Answers Handler) (localId : NodeId) (call : CallDescriptor)
    (past : List (Deed Handler)) : Deed Handler → Prop
  | .looked held => held = answers.held past
  | .selected outcome => outcome = answers.select past
  | .installed fresh winner => winner = answers.install past fresh
  | .found handler => handler = Execution.findLocal (answers.registry past) localId call
  | .ran handler args outcome => outcome = answers.outcome past handler args
  | .submitted target call failover result => result = answers.submit past target call failover
  | .cleared _ => True
  | .paused number ending => ending = answers.pause past number

/-- An account in which every answer is the one that the world gave after the account before it. -/
inductive Told (answers : Answers Handler) (localId : NodeId) (call : CallDescriptor) :
    List (Deed Handler) → Prop where
  | nil : Told answers localId call []
  | add (past : List (Deed Handler)) (deed : Deed Handler) :
      Told answers localId call past → answers.Says localId call past deed →
      Told answers localId call (past ++ [deed])

variable (answers : Answers Handler) (p : Proxy)
  (attempt : Node → Account Handler (Except InvocationError Value)) (past : List (Deed Handler))
  (pauses : Nat)

/-- A sticky invocation looks at the slot, and takes the target it sees. -/
theorem advance_reading_sticky (h : p.isSticky = true) :
    (answers.environment p attempt).advance ⟨.reading, pauses⟩ past =
      (⟨match answers.held past with
        | some target => .calling target
        | none => .selecting, pauses⟩, past ++ [.looked (answers.held past)]) := by
  simp only [Environment.advance, Environment.event, environment, h, ask, bind_apply, pure_apply,
    if_true]
  cases answers.held past <;> rfl

/-- An invocation that is not sticky selects at once. -/
theorem advance_reading (h : p.isSticky = false) :
    (answers.environment p attempt).advance ⟨.reading, pauses⟩ past =
      (⟨.selecting, pauses⟩, past) := by
  simp only [Environment.advance, Environment.event, environment, h, bind_apply, pure_apply,
    Bool.false_eq_true, if_false]
  rfl

/-- A selection gives the target to install or to call, or it ends the invocation. -/
theorem advance_selecting :
    (answers.environment p attempt).advance ⟨.selecting, pauses⟩ past =
      (⟨match answers.select past with
        | none => .finished (.error (.serviceUnavailable p.name))
        | some fresh => if p.isSticky then .installing fresh else .calling fresh, pauses⟩,
        past ++ [.selected (answers.select past)]) := by
  simp only [Environment.advance, Environment.event, environment, ask, bind_apply, pure_apply]
  cases answers.select past <;> rfl

/-- After an installation the target in the slot is called. -/
theorem advance_installing (fresh : Target) :
    (answers.environment p attempt).advance ⟨.installing fresh, pauses⟩ past =
      (⟨.calling (answers.install past fresh), pauses⟩,
        past ++ [.installed fresh (answers.install past fresh)]) :=
  rfl

/-- An attempt is made as it is given. -/
theorem advance_calling (target : Target) :
    (answers.environment p attempt).advance ⟨.calling target, pauses⟩ past =
      ((⟨.calling target, pauses⟩ : Invocation).afterAttempt target
        (attempt target.node past).1, (attempt target.node past).2) :=
  rfl

/-- A clearing is followed by the next pause. -/
theorem advance_clearing (failed : Target) :
    (answers.environment p attempt).advance ⟨.clearing failed, pauses⟩ past =
      (⟨.pausing, Nat.min (pauses + 1) pauseLimit⟩, past ++ [.cleared failed.tag]) :=
  rfl

/-- A pause is followed by another resolution, or it ends the invocation. -/
theorem advance_pausing :
    (answers.environment p attempt).advance ⟨.pausing, pauses⟩ past =
      (⟨match answers.pause past pauses with
        | .resumed => .reading
        | .interrupted => .finished (.error .interrupted), pauses⟩,
        past ++ [.paused pauses (answers.pause past pauses)]) := by
  simp only [Environment.advance, Environment.event, environment, ask, bind_apply, pure_apply]
  cases answers.pause past pauses <;> rfl

variable {answers p attempt past}

section Attempts

variable {localId : NodeId} {call : CallDescriptor} {n : Node}
  (submit : Node → CallDescriptor → Failover → Account Handler (Except DispatchError Value))

/-- Without a handler an attempt on the local node ends with the look for it. -/
theorem attempt_of_missing {e : InvocationError} (hlocal : n.id = localId)
    (hfound : Execution.findLocal (answers.registry past) n.id call = .error e) :
    ({ answers.site with submit } : CallSite _ Handler).attempt localId call n past =
      (.error e, past ++ [.found (.error e)]) := by
  have hof : Attempt.of localId call n = .direct := if_pos hlocal
  simp only [CallSite.attempt, hof, site, ask, hfound, bind_apply, pure_apply]

/-- On the local node an attempt runs the handler that is found. -/
theorem attempt_of_found {handler : Handler} (hlocal : n.id = localId)
    (hfound : Execution.findLocal (answers.registry past) n.id call = .ok handler) :
    ({ answers.site with submit } : CallSite _ Handler).attempt localId call n past =
      (Execution.localResult
          (answers.outcome (past ++ [.found (.ok handler)]) handler call.args),
        past ++ [.found (.ok handler)] ++ [.ran handler call.args
          (answers.outcome (past ++ [.found (.ok handler)]) handler call.args)]) := by
  have hof : Attempt.of localId call n = .direct := if_pos hlocal
  simp only [CallSite.attempt, hof, site, ask, hfound, bind_apply, pure_apply]

/-- An attempt on another node leaves the call to the transport. -/
theorem attempt_of_other (hother : n.id ≠ localId) :
    ({ answers.site with submit } : CallSite _ Handler).attempt localId call n past =
      (InvocationError.ofResult (submit n call .disabled past).1,
        (submit n call .disabled past).2) := by
  have hof : Attempt.of localId call n = .submitted n call .disabled := if_neg hother
  simp only [CallSite.attempt, hof, bind_apply, pure_apply]

end Attempts

/-- What every step preserves, a run preserves. -/
theorem run_preserves {motive : List (Deed Handler) → Invocation → Prop}
    (hstep : ∀ past i, i.result? = none → motive past i →
      motive ((answers.environment p attempt).advance i past).2
        ((answers.environment p attempt).advance i past).1)
    (fuel : Nat) {past : List (Deed Handler)} {i : Invocation} (h : motive past i) :
    motive ((answers.environment p attempt).run fuel i past).2
      ((answers.environment p attempt).run fuel i past).1 := by
  -- By induction on the fuel, for every account: an invocation that has ended takes no step.
  induction fuel generalizing past i with
  | zero => exact h
  | succ fuel ih =>
      simp only [Environment.run]
      cases hresult : i.result? with
      | some result => exact h
      | none => exact ih (hstep past i hresult h)

/-- An invocation that has ended takes no more steps. -/
theorem run_of_result {i : Invocation} {result : Except InvocationError Value}
    (h : i.result? = some result) (fuel : Nat) :
    (answers.environment p attempt).run fuel i past = (i, past) := by
  cases fuel with
  | zero => rfl
  | succ fuel =>
      rw [Environment.run, h]
      rfl

/-- An invocation that has not ended takes a step first. -/
theorem run_succ {i : Invocation} (h : i.result? = none) (fuel : Nat) :
    (answers.environment p attempt).run (fuel + 1) i past =
      (answers.environment p attempt).run fuel
        ((answers.environment p attempt).advance i past).1
        ((answers.environment p attempt).advance i past).2 := by
  rw [Environment.run, h]
  rfl

/-- With the fuel of two runs an invocation makes the first one and then the second one. -/
theorem run_add (fuel more : Nat) (i : Invocation) (past : List (Deed Handler)) :
    (answers.environment p attempt).run (fuel + more) i past =
      (answers.environment p attempt).run more
        ((answers.environment p attempt).run fuel i past).1
        ((answers.environment p attempt).run fuel i past).2 := by
  induction fuel generalizing i past with
  | zero => rw [Nat.zero_add]; rfl
  | succ fuel ih =>
      cases hresult : i.result? with
      | some result => simp only [run_of_result hresult]
      | none => rw [Nat.succ_add, run_succ hresult, run_succ hresult, ih]

/-- An invocation whose first selection gives nothing ends there, without an attempt. -/
theorem invoke_of_select_none (hheld : answers.held [] = none)
    (hselect : answers.select (looks p) = none) (method : String) (args : List Value) (fuel : Nat) :
    answers.invoke p method args (fuel + 2) =
      (⟨.finished (.error (.serviceUnavailable p.name)), 0⟩, looks p ++ [.selected none]) := by
  have hselecting : ∀ attempt, (answers.environment p attempt).run (fuel + 1) ⟨.selecting, 0⟩
      (looks p) =
        (⟨.finished (.error (.serviceUnavailable p.name)), 0⟩, looks p ++ [.selected none]) := by
    intro attempt
    rw [run_succ rfl, advance_selecting, hselect]
    exact run_of_result rfl fuel
  rw [invoke, start, run_succ rfl]
  cases hsticky : p.isSticky with
  | true =>
      rw [advance_reading_sticky _ _ _ _ _ hsticky, hheld, List.nil_append,
        ← looks_of_sticky hsticky]
      exact hselecting _
  | false =>
      rw [advance_reading _ _ _ _ _ hsticky]
      rw [looks_of_not_sticky hsticky] at hselecting ⊢
      exact hselecting _

variable {method : String} {args : List Value} {fuel : Nat}

/-- More fuel takes an invocation that has not ended one step further. -/
theorem invoke_succ (h : (answers.invoke p method args fuel).1.result? = none) :
    answers.invoke p method args (fuel + 1) =
      (answers.surroundings p ⟨p.name, method, args⟩).advance
        (answers.invoke p method args fuel).1 (answers.invoke p method args fuel).2 := by
  rw [invoke, run_add]
  exact run_succ h 0

/-- More fuel changes nothing about an invocation that has ended. -/
theorem invoke_add_of_result {result : Except InvocationError Value}
    (h : (answers.invoke p method args fuel).1.result? = some result) (more : Nat) :
    answers.invoke p method args (fuel + more) = answers.invoke p method args fuel := by
  rw [invoke, run_add]
  exact run_of_result h more

variable {call : CallDescriptor}

/-- An attempt is written down as it was answered. -/
theorem Told.add_attempt {localId : NodeId} (h : Told answers localId call past) (n : Node) :
    Told answers localId call (answers.site.attempt localId call n past).2 := by
  by_cases hlocal : n.id = localId
  · have hlooked := h.add _ (.found (Execution.findLocal (answers.registry past) n.id call))
      (by rw [hlocal]; rfl)
    cases hfound : Execution.findLocal (answers.registry past) n.id call with
    | error e =>
        rw [attempt_of_missing _ hlocal hfound]
        exact hfound ▸ hlooked
    | ok handler =>
        rw [attempt_of_found _ hlocal hfound]
        exact (hfound ▸ hlooked).add _ (.ran handler call.args _) rfl
  · rw [attempt_of_other _ hlocal]
    exact h.add _ (.submitted n call .disabled _) rfl

/-- A step is written down as it was answered. -/
theorem Told.add_advance {i : Invocation} (hlast : i.result? = none)
    (h : Told answers p.selector.localId call past) :
    Told answers p.selector.localId call ((answers.surroundings p call).advance i past).2 := by
  obtain ⟨stage, pauses⟩ := i
  rw [surroundings]
  cases stage with
  | reading =>
      cases hsticky : p.isSticky with
      | false =>
          rw [advance_reading _ _ _ _ _ hsticky]
          exact h
      | true =>
          rw [advance_reading_sticky _ _ _ _ _ hsticky]
          exact h.add _ (.looked _) rfl
  | selecting =>
      rw [advance_selecting]
      exact h.add _ (.selected _) rfl
  | installing fresh =>
      rw [advance_installing]
      exact h.add _ (.installed fresh _) rfl
  | calling target =>
      rw [advance_calling]
      exact h.add_attempt target.node
  | clearing failed =>
      rw [advance_clearing]
      exact h.add _ (.cleared failed.tag) trivial
  | pausing =>
      rw [advance_pausing]
      exact h.add _ (.paused pauses _) rfl
  | finished result => cases hlast

/-- The account of an invocation is what the world answered. -/
theorem told_invoke (answers : Answers Handler) (p : Proxy) (method : String) (args : List Value)
    (fuel : Nat) :
    Told answers p.selector.localId ⟨p.name, method, args⟩
      (answers.invoke p method args fuel).2 :=
  run_preserves
    (motive := fun past _ => Told answers p.selector.localId ⟨p.name, method, args⟩ past)
    (fun _ _ hlast h => h.add_advance hlast) fuel .nil

end Answers

end Invocation

end ServiceRouting
