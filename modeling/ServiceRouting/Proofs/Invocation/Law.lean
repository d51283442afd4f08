import ServiceRouting.Endpoint.Answer
import ServiceRouting.Proofs.Invocation.Course

/-!
# What an invocation gives

The law of invocations. A deed can have a verdict, the result with which it ends the invocation; a
run has a result exactly if one of its deeds has a verdict, and it has no deed after that one
(`Course.verdicts`). Which errors there are, where each comes from, how the pauses are numbered and
what is handed to the transport follow from it. Read `Lawful` first, and then `Proceeds`: an
invocation does not stop before it has ended.
-/

namespace ServiceRouting

open Json (Value)

namespace Invocation

variable {Handler : Type}

namespace Deed

/-- The result of the attempt that ends with a deed. -/
def answer? : Deed Handler → Option (Except InvocationError Value)
  | found (.error e) => some (.error e)
  | ran _ _ outcome => some (Execution.localResult outcome)
  | submitted _ _ _ result => some (InvocationError.ofResult result)
  | _ => none

/-- The number of the pause that a deed is. -/
def pause? : Deed Handler → Option Nat
  | paused number _ => some number
  | _ => none

/-- The result of an invocation of a service that ends with a deed. -/
def verdict? (service : ServiceName) (deed : Deed Handler) :
    Option (Except InvocationError Value) :=
  match deed with
  | selected none => some (.error (.serviceUnavailable service))
  | paused _ .interrupted => some (.error .interrupted)
  | _ => deed.answer?.filter (!isRetried ·)

/-- Whether a deed belongs to the attempts of a call: the local node lacks the service or the
method, or the handler gets the arguments, or another node gets the call once. -/
def Belongs (localId : NodeId) (call : CallDescriptor) : Deed Handler → Prop
  | found (.error e) => (∃ node, e = .serviceNotFound call.service node) ∨
      e = .methodNotFound call.service call.signature
  | ran _ args _ => args = call.args
  | submitted target c failover _ => target.id ≠ localId ∧ c = call ∧ failover = .disabled
  | _ => True

end Deed

/-- The results of the attempts, in order. -/
def answersIn (deeds : List (Deed Handler)) : List (Except InvocationError Value) :=
  deeds.filterMap Deed.answer?

/-- The law of a run of an invocation of a call through a proxy: how far it has come, and the
account. -/
structure Lawful (p : Proxy) (call : CallDescriptor) (deeds : List (Deed Handler))
    (i : Invocation) : Prop where
  /-- Between two attempts lie the clearing of the target that failed, one pause with its number,
  and a resolution. -/
  course : ∃ k, Course p call k deeds i
  /-- That the service or its node has gone is no result. -/
  error : ∀ e, i.result? = some (.error e) →
    (∀ service node, e ≠ .serviceNotFound service node) ∧ ∀ node, e ≠ .topologyChanged node
  /-- The service is unavailable exactly if a resolution gave nothing. -/
  unavailable :
    i.result? = some (.error (.serviceUnavailable p.name)) ↔ .selected none ∈ deeds
  /-- An attempt that is not retried has the result of the invocation. -/
  settled : ∀ result ∈ answersIn deeds, isRetried result = false → i.result? = some result
  /-- The invocation is interrupted exactly if a pause was. -/
  interrupted :
    i.result? = some (.error .interrupted) ↔ ∃ number, .paused number .interrupted ∈ deeds
  /-- The results are that the service is unavailable, that the invocation was interrupted, and
  those of attempts that are not retried. -/
  ended : ∀ result, i.result? = some result →
    result = .error (.serviceUnavailable p.name) ∨ result = .error .interrupted ∨
      (result ∈ answersIn deeds ∧ isRetried result = false)
  /-- All attempts before the last one were retried. -/
  retried : ∀ result ∈ (answersIn deeds).dropLast, isRetried result = true
  /-- The pauses are numbered from one, up to the limit. -/
  pauses : ∃ k, deeds.filterMap Deed.pause? = (List.range k).map pauseNumber
  /-- Only other nodes get the call, as it was made, and none is asked to repeat it. -/
  submitted : ∀ target c failover result, .submitted target c failover result ∈ deeds →
    target.id ≠ p.selector.localId ∧ c = call ∧ failover = .disabled
  /-- Only a failure of the method is answered as an error of the server. -/
  status : ∀ result, i.result? = some result → (Answer.ofInvocation result).status = 500 →
    ∃ source, result = .error (.failed source) ∧
      ((∃ handler args, .ran handler args (.error source) ∈ deeds) ∨
        ∃ target c failover message,
          .submitted target c failover (.error (.failed message)) ∈ deeds ∧ source = ⟨message, []⟩)

variable {p : Proxy} {call : CallDescriptor} {k : Nat} {deeds : List (Deed Handler)}
  {i : Invocation}

/-- What the law needs of some deeds: their verdicts, the results of their attempts and the numbers
of their pauses, in order. -/
structure Summary (p : Proxy) (call : CallDescriptor) (deeds : List (Deed Handler))
    (verdicts answers : List (Except InvocationError Value)) (pauses : List Nat) : Prop where
  verdicts : deeds.filterMap (Deed.verdict? p.name) = verdicts
  answers : answersIn deeds = answers
  pauses : deeds.filterMap Deed.pause? = pauses
  belongs : ∀ deed ∈ deeds, deed.Belongs p.selector.localId call

/-- The summary of no deeds. -/
theorem Summary.nil : Summary p call ([] : List (Deed Handler)) [] [] [] :=
  ⟨rfl, rfl, rfl, nofun⟩

/-- The summary of one deed. -/
theorem Summary.single (deed : Deed Handler) (h : deed.Belongs p.selector.localId call) :
    Summary p call [deed] (deed.verdict? p.name).toList deed.answer?.toList deed.pause?.toList where
  verdicts := by cases hdeed : deed.verdict? p.name <;> simp [hdeed]
  answers := by cases hdeed : deed.answer? <;> simp [answersIn, hdeed]
  pauses := by cases hdeed : deed.pause? <;> simp [hdeed]
  belongs other hother := by
    obtain rfl := List.mem_singleton.1 hother
    exact h

/-- The summary of some deeds and then others. -/
theorem Summary.append {others : List (Deed Handler)}
    {verdicts verdicts' answers answers' : List (Except InvocationError Value)}
    {pauses pauses' : List Nat} (h : Summary p call deeds verdicts answers pauses)
    (hothers : Summary p call others verdicts' answers' pauses') :
    Summary p call (deeds ++ others) (verdicts ++ verdicts') (answers ++ answers')
      (pauses ++ pauses') where
  verdicts := by rw [List.filterMap_append, h.verdicts, hothers.verdicts]
  answers := by rw [answersIn, List.filterMap_append, ← h.answers, ← hothers.answers]; rfl
  pauses := by rw [List.filterMap_append, h.pauses, hothers.pauses]
  belongs deed hdeed := by
    rcases List.mem_append.1 hdeed with hdeed | hdeed
    · exact h.belongs deed hdeed
    · exact hothers.belongs deed hdeed

/-- The summary of the look before a selection. -/
theorem summary_looks : Summary p call (looks p : List (Deed Handler)) [] [] [] := by
  unfold looks
  split
  · exact .single (.looked none) trivial
  · exact .nil

/-- A resolution is no attempt and no pause. It ends the invocation if it gives nothing. -/
theorem Resolution.summary {outcome : Option Target} (h : Resolution p deeds outcome) :
    Summary p call deeds
      (if outcome.isNone then [.error (.serviceUnavailable p.name)] else []) [] [] := by
  cases h with
  | kept target => exact .single (.looked (some target)) trivial
  | selected target => exact .single (.selected (some target)) trivial
  | installed fresh winner =>
      exact summary_looks.append (Summary.append (.single (.selected (some fresh)) trivial)
        (.single (.installed fresh winner) trivial))
  | failed => exact summary_looks.append (.single (.selected none) trivial)

/-- The verdict on the result of an attempt. -/
theorem toList_verdict (result : Except InvocationError Value) :
    ((some result).filter (!isRetried ·)).toList = if isRetried result then [] else [result] := by
  cases h : isRetried result <;> simp [Option.filter, h]

/-- An attempt is one, with its result, and no pause. It ends the invocation unless it is
retried. -/
theorem Attempted.summary {n : Node} {result : Except InvocationError Value}
    (h : Attempted p.selector.localId call n deeds result) :
    Summary p call deeds (if isRetried result then [] else [result]) [result] [] := by
  rw [← toList_verdict]
  cases h with
  | refused registry e hlocal hfound =>
      refine .single (.found (.error e)) ?_
      unfold Execution.findLocal at hfound
      split at hfound
      · cases hfound
        exact .inl ⟨_, rfl⟩
      · split at hfound <;> cases hfound
        exact .inr rfl
  | ran registry handler outcome =>
      exact Summary.append (.single (.found (.ok handler)) trivial)
        (.single (.ran handler call.args outcome) rfl)
  | submitted result hother =>
      exact .single (.submitted n call .disabled result) ⟨hother, rfl, rfl⟩

/-- The summary of a clearing and a pause. -/
theorem summary_pause (tag : Tag) (k : Nat) (ending : PauseEnd) :
    Summary p call ([.cleared tag, .paused (pauseNumber k) ending] : List (Deed Handler))
      (if ending = .interrupted then [.error .interrupted] else []) [] [pauseNumber k] := by
  cases ending with
  | resumed | interrupted =>
      exact (Summary.single (.cleared tag) trivial).append
        (.single (.paused (pauseNumber k) _) trivial)

/-- No round ends the invocation. All attempts were retried, and the pauses were numbered. -/
theorem Rounds.summary (h : Rounds p call k deeds) :
    ∃ answers, Summary p call deeds [] answers ((List.range k).map pauseNumber) ∧
      ∀ result ∈ answers, isRetried result = true := by
  induction h with
  | none => exact ⟨[], .nil, nofun⟩
  -- A round adds one retried attempt and one pause to those before.
  | again k before resolution target attempt e _ hresolution hattempted hretry ih =>
      obtain ⟨answers, hbefore, hretried⟩ := ih
      refine ⟨answers ++ [.error e], ?_, ?_⟩
      · have htried := hresolution.summary.append hattempted.summary
        have hround := htried.append (summary_pause target.tag k .resumed)
        simpa [isRetried, hretry, List.range_succ] using hbefore.append hround
      · intro result hresult
        rcases List.mem_append.1 hresult with hresult | hresult
        · exact hretried result hresult
        · obtain rfl := List.mem_singleton.1 hresult
          exact hretry

/-- The last round has the verdict that is the result, one attempt at most, and one pause at
most. -/
theorem Ending.summary {result : Except InvocationError Value} (h : Ending p call k deeds result) :
    ∃ (answer : Option (Except InvocationError Value)) (pause : Option Nat),
      Summary p call deeds [result] answer.toList pause.toList ∧
        ∀ n ∈ pause, n = pauseNumber k := by
  cases h with
  | unavailable resolution hresolution => exact ⟨none, none, hresolution.summary, nofun⟩
  | settled resolution target attempt result hresolution hattempted hsettled =>
      refine ⟨some result, none, ?_, nofun⟩
      simpa [hsettled] using hresolution.summary.append hattempted.summary
  | interrupted resolution target attempt e hresolution hattempted hretry =>
      refine ⟨some (.error e), some (pauseNumber k), ?_, fun n hn => (Option.some.inj hn).symm⟩
      have htried := hresolution.summary.append hattempted.summary
      simpa [isRetried, hretry] using htried.append (summary_pause target.tag k .interrupted)

/-- The summary of the rounds with what has happened since. -/
theorem Rounds.summary_append {before rest : List (Deed Handler)}
    {verdicts : List (Except InvocationError Value)}
    (answer : Option (Except InvocationError Value)) (pause : Option Nat)
    (h : Rounds p call k before) (hrest : Summary p call rest verdicts answer.toList pause.toList)
    (hpause : ∀ n ∈ pause, n = pauseNumber k) :
    ∃ j answers, Summary p call (before ++ rest) verdicts (answers ++ answer.toList)
      ((List.range j).map pauseNumber) ∧ ∀ result ∈ answers, isRetried result = true := by
  obtain ⟨answers, hbefore, hretried⟩ := h.summary
  have hboth := hbefore.append hrest
  cases pause with
  | none =>
      refine ⟨k, answers, ?_, hretried⟩
      simpa using hboth
  | some n =>
      refine ⟨k + 1, answers, ?_, hretried⟩
      obtain rfl := hpause n rfl
      simpa [List.range_succ] using hboth

/-- A run has a result exactly if a deed has a verdict, and no deed after that one has another. All
its attempts but the last were retried, and its pauses were numbered. -/
theorem Course.summary (h : Course p call k deeds i) :
    ∃ j answers, ∃ last : Option (Except InvocationError Value),
      Summary p call deeds i.result?.toList (answers ++ last.toList)
        ((List.range j).map pauseNumber) ∧ ∀ result ∈ answers, isRetried result = true := by
  cases h with
  | reading before hrounds =>
      obtain ⟨answers, hbefore, hretried⟩ := hrounds.summary
      refine ⟨k, answers, none, ?_, hretried⟩
      simpa [Invocation.result?] using hbefore
  | selecting before hrounds =>
      obtain ⟨j, answers, h⟩ :=
        hrounds.summary_append none none summary_looks nofun
      exact ⟨j, answers, none, h⟩
  | installing before fresh hrounds =>
      have hselected : Summary p call (looks p ++ [(.selected (some fresh) : Deed Handler)])
          [] [] [] := summary_looks.append (.single (.selected (some fresh)) trivial)
      obtain ⟨j, answers, h⟩ := hrounds.summary_append none none hselected nofun
      exact ⟨j, answers, none, h⟩
  | calling before resolution target hrounds hresolution =>
      obtain ⟨j, answers, h⟩ :=
        hrounds.summary_append none none hresolution.summary nofun
      exact ⟨j, answers, none, h⟩
  | clearing before resolution target attempt e hrounds hresolution hattempted hretry =>
      have htried := hresolution.summary.append hattempted.summary
      simp only [isRetried, hretry] at htried
      obtain ⟨j, answers, h⟩ :=
        hrounds.summary_append (some (.error e)) none htried nofun
      exact ⟨j, answers, some (.error e), h⟩
  | pausing before resolution target attempt e hrounds hresolution hattempted hretry =>
      have htried := (hresolution.summary.append hattempted.summary).append
        (.single (.cleared target.tag) trivial)
      simp only [isRetried, hretry] at htried
      obtain ⟨j, answers, h⟩ :=
        hrounds.summary_append (some (.error e)) none htried nofun
      exact ⟨j, answers, some (.error e), h⟩
  | finished before ending result pauses hrounds hending =>
      obtain ⟨answer, pause, hrest, hpause⟩ := hending.summary
      obtain ⟨j, answers, h⟩ := hrounds.summary_append answer pause hrest hpause
      exact ⟨j, answers, answer, h⟩

/-- What a deed with a verdict is. -/
theorem Deed.verdict?_eq_some {service : ServiceName} {deed : Deed Handler}
    {result : Except InvocationError Value} (h : deed.verdict? service = some result) :
    (deed = .selected none ∧ result = .error (.serviceUnavailable service)) ∨
    (∃ number, deed = .paused number .interrupted ∧ result = .error .interrupted) ∨
    (deed.answer? = some result ∧ isRetried result = false) := by
  unfold verdict? at h
  split at h
  · exact .inl ⟨rfl, (Option.some.inj h).symm⟩
  · exact .inr (.inl ⟨_, rfl, (Option.some.inj h).symm⟩)
  · obtain ⟨hanswer, hretried⟩ := Option.filter_eq_some_iff.1 h
    exact .inr (.inr ⟨hanswer, by simpa using hretried⟩)

/-- That no node was found, or that the invocation was interrupted, is not the result of an
attempt. -/
theorem Deed.Belongs.answer_ne {localId : NodeId} {deed : Deed Handler} {e : InvocationError}
    (h : deed.Belongs localId call) (hanswer : deed.answer? = some (.error e)) :
    (∀ service, e ≠ .serviceUnavailable service) ∧ e ≠ .interrupted := by
  unfold answer? at hanswer
  -- Without a handler, after a handler, or from the transport.
  split at hanswer
  next =>
    cases hanswer
    rcases h with ⟨node, rfl⟩ | rfl <;> exact ⟨nofun, nofun⟩
  next handler args outcome =>
    cases outcome <;> cases hanswer
    exact ⟨nofun, nofun⟩
  next target c failover outcome =>
    cases outcome with
    | ok value => cases hanswer
    | error failure =>
        obtain rfl : _ = e := Except.error.inj (Option.some.inj hanswer)
        cases failure <;> exact ⟨nofun, nofun⟩
  next => cases hanswer

/-- Where an attempt has a failure of the method from. -/
theorem Deed.Belongs.answer_failed {localId : NodeId} {deed : Deed Handler} {source : ErrorChain}
    (h : deed.Belongs localId call) (hanswer : deed.answer? = some (.error (.failed source))) :
    (∃ handler args, deed = .ran handler args (.error source)) ∨
    ∃ target c failover message, deed = .submitted target c failover (.error (.failed message)) ∧
      source = ⟨message, []⟩ := by
  unfold answer? at hanswer
  split at hanswer
  next =>
    cases hanswer
    rcases h with ⟨node, h⟩ | h <;> cases h
  next handler args outcome =>
    cases outcome <;> cases hanswer
    exact .inl ⟨handler, args, rfl⟩
  next target c failover outcome =>
    cases outcome with
    | ok value => cases hanswer
    | error failure =>
        cases failure <;> cases hanswer
        exact .inr ⟨target, c, failover, _, rfl, rfl⟩
  next => cases hanswer

/-- A verdict is the result of the invocation. -/
theorem Course.result_of_verdict (h : Course p call k deeds i) {deed : Deed Handler}
    (hdeed : deed ∈ deeds) {result : Except InvocationError Value}
    (hverdict : deed.verdict? p.name = some result) : i.result? = some result := by
  obtain ⟨_, _, _, hsummary, _⟩ := h.summary
  have hmem : result ∈ deeds.filterMap (Deed.verdict? p.name) :=
    List.mem_filterMap.2 ⟨deed, hdeed, hverdict⟩
  rw [hsummary.verdicts] at hmem
  simpa using hmem

/-- A result is the verdict of a deed. -/
theorem Course.verdict_of_result (h : Course p call k deeds i)
    {result : Except InvocationError Value} (hresult : i.result? = some result) :
    ∃ deed ∈ deeds, deed.Belongs p.selector.localId call ∧ deed.verdict? p.name = some result := by
  obtain ⟨_, _, _, hsummary, _⟩ := h.summary
  have hmem : result ∈ deeds.filterMap (Deed.verdict? p.name) := by
    rw [hsummary.verdicts, hresult]
    exact List.mem_singleton.2 rfl
  obtain ⟨deed, hdeed, hverdict⟩ := List.mem_filterMap.1 hmem
  exact ⟨deed, hdeed, hsummary.belongs deed hdeed, hverdict⟩

/-- An invocation on its course obeys the law. -/
theorem Course.lawful (h : Course p call k deeds i) : Lawful p call deeds i where
  course := ⟨k, h⟩
  -- Each part asks which deed gave the result, and compares it with the three kinds of verdicts.
  error e hresult := by
    obtain ⟨deed, _, _, hverdict⟩ := h.verdict_of_result hresult
    rcases Deed.verdict?_eq_some hverdict with ⟨_, heq⟩ | ⟨_, _, heq⟩ | ⟨_, hretried⟩
    · cases heq
      exact ⟨nofun, nofun⟩
    · cases heq
      exact ⟨nofun, nofun⟩
    · cases e with
      | serviceNotFound | topologyChanged => cases hretried
      | _ => exact ⟨nofun, nofun⟩
  unavailable := by
    refine ⟨fun hresult => ?_, fun hdeed => h.result_of_verdict hdeed rfl⟩
    obtain ⟨deed, hdeed, hbelongs, hverdict⟩ := h.verdict_of_result hresult
    rcases Deed.verdict?_eq_some hverdict with ⟨rfl, _⟩ | ⟨_, _, heq⟩ | ⟨hanswer, _⟩
    · exact hdeed
    · cases heq
    · exact absurd rfl ((hbelongs.answer_ne hanswer).1 p.name)
  settled result hresult hsettled := by
    obtain ⟨deed, hdeed, hanswer⟩ := List.mem_filterMap.1 hresult
    refine h.result_of_verdict hdeed ?_
    unfold Deed.verdict?
    split
    next => cases hanswer
    next => cases hanswer
    next => exact Option.filter_eq_some_iff.2 ⟨hanswer, by simp [hsettled]⟩
  interrupted := by
    refine ⟨fun hresult => ?_, fun ⟨number, hdeed⟩ => h.result_of_verdict hdeed rfl⟩
    obtain ⟨deed, hdeed, hbelongs, hverdict⟩ := h.verdict_of_result hresult
    rcases Deed.verdict?_eq_some hverdict with ⟨_, heq⟩ | ⟨number, rfl, _⟩ | ⟨hanswer, _⟩
    · cases heq
    · exact ⟨number, hdeed⟩
    · exact absurd rfl (hbelongs.answer_ne hanswer).2
  ended result hresult := by
    obtain ⟨deed, hdeed, _, hverdict⟩ := h.verdict_of_result hresult
    rcases Deed.verdict?_eq_some hverdict with ⟨_, rfl⟩ | ⟨_, _, rfl⟩ | ⟨hanswer, hsettled⟩
    · exact .inl rfl
    · exact .inr (.inl rfl)
    · exact .inr (.inr ⟨List.mem_filterMap.2 ⟨deed, hdeed, hanswer⟩, hsettled⟩)
  retried result hresult := by
    obtain ⟨_, answers, last, hsummary, hretried⟩ := h.summary
    rw [hsummary.answers] at hresult
    refine hretried result ?_
    cases last with
    | none => exact (List.dropLast_subset answers) (by simpa using hresult)
    | some answer => simpa using hresult
  pauses := by
    obtain ⟨j, _, _, hsummary, _⟩ := h.summary
    exact ⟨j, hsummary.pauses⟩
  submitted target c failover result hdeed := by
    obtain ⟨_, _, _, hsummary, _⟩ := h.summary
    exact hsummary.belongs _ hdeed
  status result hresult hstatus := by
    obtain ⟨deed, hdeed, hbelongs, hverdict⟩ := h.verdict_of_result hresult
    rcases Deed.verdict?_eq_some hverdict with ⟨_, rfl⟩ | ⟨_, _, rfl⟩ | ⟨hanswer, hsettled⟩
    · simp [Answer.ofInvocation, InvocationError.status] at hstatus
    · simp [Answer.ofInvocation, InvocationError.status] at hstatus
    · cases result with
      | ok value => simp [Answer.ofInvocation] at hstatus
      | error e =>
          cases e with
          | failed source =>
              refine ⟨source, rfl, ?_⟩
              rcases hbelongs.answer_failed hanswer with
                ⟨handler, args, rfl⟩ | ⟨target, c, failover, message, rfl, rfl⟩
              · exact .inl ⟨handler, args, hdeed⟩
              · exact .inr ⟨target, c, failover, message, hdeed, rfl⟩
          | serviceNotFound | topologyChanged => cases hsettled
          | _ => simp [Answer.ofInvocation, InvocationError.status] at hstatus

/-- An invocation of a call goes on, with the world's answers, until it has ended. -/
structure Proceeds (answers : Answers Handler) (p : Proxy) (call : CallDescriptor)
    (run : Nat → Invocation × List (Deed Handler)) : Prop where
  begins : run 0 = (.start, [])
  /-- One more unit of fuel takes an invocation that has not ended one step further. -/
  goes : ∀ fuel, (run fuel).1.result? = none →
    run (fuel + 1) = (answers.surroundings p call).advance (run fuel).1 (run fuel).2
  /-- An invocation that has ended stays as it is. -/
  stays : ∀ fuel result, (run fuel).1.result? = some result →
    ∀ more, run (fuel + more) = run fuel
  /-- A round takes six steps at most: an invocation that has not ended after any number of steps
  has made that many rounds. -/
  rounds : ∀ fuel, (run fuel).1.result? = none →
    ∃ k, fuel ≤ 6 * k + 5 ∧ Course p call k (run fuel).2 (run fuel).1
  /-- Every answer in the account is the one that the world gave after the account before it. -/
  told : ∀ fuel, answers.Told p.selector.localId call (run fuel).2

/-- An invocation goes on with the world's answers until it has ended. -/
theorem proceeds_invoke (answers : Answers Handler) (p : Proxy) (method : String)
    (args : List Value) :
    Proceeds answers p ⟨p.name, method, args⟩ (answers.invoke p method args) where
  begins := rfl
  goes _ h := Answers.invoke_succ h
  stays _ _ h := Answers.invoke_add_of_result h
  rounds fuel h := by
    obtain ⟨k, hcourse, hsteps⟩ := course_invoke answers p method args fuel
    refine ⟨k, ?_, hcourse⟩
    have hplace := place_le_of_result h
    have hfuel := hsteps h
    omega
  told := Answers.told_invoke answers p method args

/-- Whatever the world answers, every run of every invocation obeys the law, and an invocation goes
on until it has ended. -/
theorem invoke_lawful (answers : Answers Handler) (p : Proxy) (method : String)
    (args : List Value) :
    (∀ fuel, Lawful p ⟨p.name, method, args⟩ (answers.invoke p method args fuel).2
      (answers.invoke p method args fuel).1) ∧
    Proceeds answers p ⟨p.name, method, args⟩ (answers.invoke p method args) := by
  refine ⟨fun fuel => ?_, proceeds_invoke answers p method args⟩
  obtain ⟨k, hcourse, -⟩ := course_invoke answers p method args fuel
  exact hcourse.lawful

end Invocation

end ServiceRouting
