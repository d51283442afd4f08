import ServiceRouting.Proofs.Invocation.Account

/-!
# The course of an invocation

What the account of an invocation looks like at each stage. Read `Rounds` and `Ending` first: an
invocation goes through rounds, each a resolution, an attempt that failed retryably, a clearing and
a pause, and the last round ends in one of three ways. `Course` adds the accounts of invocations
under way, and every step keeps to it (`course_advance`).
-/

namespace ServiceRouting

open Json (Value)

namespace Invocation

variable {Handler : Type}

/-- The deeds of one resolution, with the target that it gives. -/
inductive Resolution (p : Proxy) : List (Deed Handler) → Option Target → Prop where
  /-- The slot held a target. -/
  | kept (target) : p.isSticky = true → Resolution p [.looked (some target)] (some target)
  /-- A target was selected, and the slot held one after its installation. -/
  | installed (fresh winner) :
      p.isSticky = true →
      Resolution p (looks p ++ [.selected (some fresh), .installed fresh winner]) (some winner)
  | selected (target) : p.isSticky = false → Resolution p [.selected (some target)] (some target)
  | failed : Resolution p (looks p ++ [.selected none]) none

/-- The deeds of one attempt of a call on a node, with its result. A node that is not the local one
gets the call in one submission that is not repeated; the local node gets none. -/
inductive Attempted (localId : NodeId) (call : CallDescriptor) (n : Node) :
    List (Deed Handler) → Except InvocationError Value → Prop where
  /-- The local node has no handler for the call. -/
  | refused (registry : Registry Handler) (e) :
      n.id = localId → Execution.findLocal registry n.id call = .error e →
      Attempted localId call n [.found (.error e)] (.error e)
  /-- The handler ran in place. -/
  | ran (registry : Registry Handler) (handler outcome) :
      n.id = localId → Execution.findLocal registry n.id call = .ok handler →
      Attempted localId call n [.found (.ok handler), .ran handler call.args outcome]
        (Execution.localResult outcome)
  | submitted (result) :
      n.id ≠ localId →
      Attempted localId call n [.submitted n call .disabled result]
        (InvocationError.ofResult result)

/-- The number of the pause after so many others. -/
def pauseNumber (pauses : Nat) : Nat := Nat.min (pauses + 1) pauseLimit

/-- The deeds of so many rounds, each of which ended in a new resolution. -/
inductive Rounds (p : Proxy) (call : CallDescriptor) : Nat → List (Deed Handler) → Prop where
  | none : Rounds p call 0 []
  | again (k before resolution target attempt) (e : InvocationError) :
      Rounds p call k before → Resolution p resolution (some target) →
      Attempted p.selector.localId call target.node attempt (.error e) → e.isRetryable = true →
      Rounds p call (k + 1)
        (before ++ (resolution ++ attempt ++
          [.cleared target.tag, .paused (pauseNumber k) .resumed]))

/-- Whether an attempt with this result is followed by another resolution. -/
def isRetried : Except InvocationError Value → Bool
  | .ok _ => false
  | .error e => e.isRetryable

/-- The deeds of the last round, after so many others, with the result of the invocation. -/
inductive Ending (p : Proxy) (call : CallDescriptor) (k : Nat) :
    List (Deed Handler) → Except InvocationError Value → Prop where
  | unavailable (resolution) :
      Resolution p resolution none →
      Ending p call k resolution (.error (.serviceUnavailable p.name))
  | settled (resolution target attempt result) :
      Resolution p resolution (some target) →
      Attempted p.selector.localId call target.node attempt result → isRetried result = false →
      Ending p call k (resolution ++ attempt) result
  | interrupted (resolution target attempt) (e : InvocationError) :
      Resolution p resolution (some target) →
      Attempted p.selector.localId call target.node attempt (.error e) → e.isRetryable = true →
      Ending p call k
        (resolution ++ attempt ++ [.cleared target.tag, .paused (pauseNumber k) .interrupted])
        (.error .interrupted)

/-- The account of an invocation that has come so far, after so many rounds. -/
inductive Course (p : Proxy) (call : CallDescriptor) :
    Nat → List (Deed Handler) → Invocation → Prop where
  | reading (k before) :
      Rounds p call k before → Course p call k before ⟨.reading, Nat.min k pauseLimit⟩
  | selecting (k before) :
      Rounds p call k before →
      Course p call k (before ++ looks p) ⟨.selecting, Nat.min k pauseLimit⟩
  | installing (k before fresh) :
      Rounds p call k before → p.isSticky = true →
      Course p call k (before ++ (looks p ++ [.selected (some fresh)]))
        ⟨.installing fresh, Nat.min k pauseLimit⟩
  | calling (k before resolution target) :
      Rounds p call k before → Resolution p resolution (some target) →
      Course p call k (before ++ resolution) ⟨.calling target, Nat.min k pauseLimit⟩
  | clearing (k before resolution target attempt) (e : InvocationError) :
      Rounds p call k before → Resolution p resolution (some target) →
      Attempted p.selector.localId call target.node attempt (.error e) → e.isRetryable = true →
      Course p call k (before ++ (resolution ++ attempt)) ⟨.clearing target, Nat.min k pauseLimit⟩
  | pausing (k before resolution target attempt) (e : InvocationError) :
      Rounds p call k before → Resolution p resolution (some target) →
      Attempted p.selector.localId call target.node attempt (.error e) → e.isRetryable = true →
      Course p call k (before ++ (resolution ++ attempt ++ [.cleared target.tag]))
        ⟨.pausing, pauseNumber k⟩
  | finished (k before ending result pauses) :
      Rounds p call k before → Ending p call k ending result →
      Course p call k (before ++ ending) ⟨.finished result, pauses⟩

/-- How many steps of its round lie behind a stage at most. -/
def Stage.place : Stage → Nat
  | reading => 0
  | selecting => 1
  | installing _ => 2
  | calling _ => 3
  | clearing _ => 4
  | pausing => 5
  | finished _ => 6

/-- An invocation that has not ended is within a round. -/
theorem place_le_of_result {i : Invocation} (h : i.result? = none) : i.stage.place ≤ 5 := by
  obtain ⟨stage, pauses⟩ := i
  cases stage with
  | finished result => cases h
  | _ => simp [Stage.place]

variable {answers : Answers Handler} {p : Proxy} {call : CallDescriptor}

/-- The number of the pause after so many others is one more, up to the limit. -/
theorem pauseNumber_min (k : Nat) :
    Nat.min (Nat.min k pauseLimit + 1) pauseLimit = pauseNumber k := by
  show min (min k pauseLimit + 1) pauseLimit = min (k + 1) pauseLimit
  omega

/-- An attempt at a site with an account adds the deeds of an attempt. -/
theorem attempted_attempt (answers : Answers Handler) (call : CallDescriptor) (localId : NodeId)
    (n : Node) (past : List (Deed Handler)) :
    ∃ deeds, (answers.site.attempt localId call n past).2 = past ++ deeds ∧
      Attempted localId call n deeds (answers.site.attempt localId call n past).1 := by
  by_cases hlocal : n.id = localId
  · cases hfound : Execution.findLocal (answers.registry past) n.id call with
    | error e =>
        rw [Answers.attempt_of_missing _ hlocal hfound]
        exact ⟨_, rfl, .refused _ e hlocal hfound⟩
    | ok handler =>
        rw [Answers.attempt_of_found _ hlocal hfound, List.append_assoc]
        exact ⟨_, rfl, .ran _ handler _ hlocal hfound⟩
  · rw [Answers.attempt_of_other _ hlocal]
    exact ⟨_, rfl, .submitted _ hlocal⟩

/-- An attempt at a target takes an invocation to the clearing of its target, or to its end. -/
theorem course_afterAttempt {k : Nat} {before resolution attempt : List (Deed Handler)}
    {target : Target} {result : Except InvocationError Value} (hrounds : Rounds p call k before)
    (hresolution : Resolution p resolution (some target))
    (hattempted : Attempted p.selector.localId call target.node attempt result) :
    Course p call k (before ++ (resolution ++ attempt))
        ((⟨.calling target, Nat.min k pauseLimit⟩ : Invocation).afterAttempt target result) ∧
      3 < ((⟨.calling target, Nat.min k pauseLimit⟩ : Invocation).afterAttempt target
        result).stage.place := by
  cases result with
  | ok value =>
      exact ⟨.finished k before _ _ _ hrounds (.settled _ _ _ _ hresolution hattempted rfl),
        (by decide : 3 < 6)⟩
  | error e =>
      cases hretry : e.isRetryable with
      | true =>
          simp only [afterAttempt, hretry, if_true]
          exact ⟨.clearing k before _ _ _ e hrounds hresolution hattempted hretry,
            (by decide : 3 < 4)⟩
      | false =>
          simp only [afterAttempt, hretry, Bool.false_eq_true, if_false]
          exact ⟨.finished k before _ _ _ hrounds (.settled _ _ _ _ hresolution hattempted hretry),
            (by decide : 3 < 6)⟩

/-- A step keeps an invocation on its course, and takes it further in its round or to the next
one. -/
theorem course_advance {k : Nat} (past : List (Deed Handler)) (i : Invocation)
    (hlast : i.result? = none) (h : Course p call k past i) :
    ∃ j, Course p call j ((answers.surroundings p call).advance i past).2
        ((answers.surroundings p call).advance i past).1 ∧
      6 * k + i.stage.place <
        6 * j + ((answers.surroundings p call).advance i past).1.stage.place := by
  rw [Answers.surroundings]
  -- Each point of the course is left by one step, and the next point takes its deeds.
  cases h with
  | reading before hrounds =>
      refine ⟨k, ?_⟩
      cases hsticky : p.isSticky with
      | false =>
          rw [Answers.advance_reading _ _ _ _ _ hsticky]
          have hselecting := Course.selecting k past hrounds
          rw [looks_of_not_sticky hsticky, List.append_nil] at hselecting
          exact ⟨hselecting, Nat.lt_succ_self _⟩
      | true =>
          rw [Answers.advance_reading_sticky _ _ _ _ _ hsticky]
          cases hheld : answers.held past with
          | none =>
              have hselecting := Course.selecting k past hrounds
              rw [looks_of_sticky hsticky] at hselecting
              exact ⟨hselecting, Nat.lt_succ_self _⟩
          | some target =>
              exact ⟨.calling k past _ target hrounds (.kept target hsticky),
                Nat.add_lt_add_left (by decide : 0 < 3) _⟩
  | selecting before hrounds =>
      refine ⟨k, ?_⟩
      rw [Answers.advance_selecting, List.append_assoc]
      cases hselect : answers.select (before ++ looks p) with
      | none =>
          exact ⟨.finished k before _ _ _ hrounds (.unavailable _ .failed),
            Nat.add_lt_add_left (by decide : 1 < 6) _⟩
      | some fresh =>
          cases hsticky : p.isSticky with
          | true => exact ⟨.installing k before fresh hrounds hsticky, Nat.lt_succ_self _⟩
          | false =>
              rw [looks_of_not_sticky hsticky]
              exact ⟨.calling k before _ fresh hrounds (.selected fresh hsticky),
                Nat.add_lt_add_left (by decide : 1 < 3) _⟩
  | installing before fresh hrounds hsticky =>
      refine ⟨k, ?_, Nat.lt_succ_self _⟩
      rw [Answers.advance_installing, List.append_assoc, List.append_assoc]
      exact .calling k before _ _ hrounds (.installed fresh _ hsticky)
  | calling before resolution target hrounds hresolution =>
      obtain ⟨attempt, hpast, hattempted⟩ :=
        attempted_attempt answers call p.selector.localId target.node (before ++ resolution)
      obtain ⟨hcourse, hplace⟩ := course_afterAttempt hrounds hresolution hattempted
      refine ⟨k, ?_⟩
      rw [Answers.advance_calling, hpast, List.append_assoc]
      exact ⟨hcourse, Nat.add_lt_add_left hplace _⟩
  | clearing before resolution target attempt e hrounds hresolution hattempted hretry =>
      refine ⟨k, ?_, Nat.lt_succ_self _⟩
      rw [Answers.advance_clearing, pauseNumber_min, List.append_assoc]
      exact .pausing k before _ target _ e hrounds hresolution hattempted hretry
  | pausing before resolution target attempt e hrounds hresolution hattempted hretry =>
      rw [Answers.advance_pausing]
      -- The pause is the last deed of this round, or the end of the invocation.
      generalize answers.pause _ _ = ending
      rw [List.append_assoc before, List.append_assoc (resolution ++ attempt)]
      cases ending with
      | resumed =>
          have hround := Rounds.again k before _ target _ e hrounds hresolution hattempted hretry
          refine ⟨k + 1, .reading (k + 1) _ hround, ?_⟩
          simp only [Stage.place]
          omega
      | interrupted =>
          exact ⟨k, .finished k before _ _ _ hrounds
            (.interrupted _ target _ e hresolution hattempted hretry), Nat.lt_succ_self _⟩
  | finished => cases hlast

/-- Every run of an invocation is on its course, and has taken as many steps as it had fuel for if
it has not ended. -/
theorem course_invoke (answers : Answers Handler) (p : Proxy) (method : String) (args : List Value)
    (fuel : Nat) :
    ∃ k, Course p ⟨p.name, method, args⟩ k (answers.invoke p method args fuel).2
        (answers.invoke p method args fuel).1 ∧
      ((answers.invoke p method args fuel).1.result? = none →
        fuel ≤ 6 * k + (answers.invoke p method args fuel).1.stage.place) := by
  induction fuel with
  | zero => exact ⟨0, .reading 0 [] .none, fun _ => Nat.zero_le _⟩
  | succ fuel ih =>
      obtain ⟨k, hcourse, hsteps⟩ := ih
      cases hresult : (answers.invoke p method args fuel).1.result? with
      | some result =>
          rw [Answers.invoke_add_of_result hresult]
          refine ⟨k, hcourse, fun hnone => ?_⟩
          cases hresult.symm.trans hnone
      | none =>
          rw [Answers.invoke_succ hresult]
          obtain ⟨j, hadvanced, hfurther⟩ := course_advance _ _ hresult hcourse
          refine ⟨j, hadvanced, fun _ => ?_⟩
          have hbefore := hsteps hresult
          omega

end Invocation

end ServiceRouting
