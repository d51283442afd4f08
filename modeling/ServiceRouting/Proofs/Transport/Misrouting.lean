import ServiceRouting.Proofs.Transport.Posting
import ServiceRouting.Proxy.Invocation
import ServiceRouting.Transport.Peers

/-!
# Calls that reach another node

What holds of a call that a node submits, on a network of nodes with whatever member tables
(`submit_routed`). Read `Routed` first. A node handles a posted call in one of four ways
(`Handled`), a call that is sent once crosses the network in one of three (`Crossing`), and a
submitted call is a number of such attempts, of which only the last can be answered (`Attempts`).
-/

namespace ServiceRouting

namespace Http

open Json (Value)

variable {Peer Handler : Type} {w : World Peer Handler} {address : SocketAddress}
  {request : InvokeRequest} {node : Peer} {sending : Sending} {deeds : Deeds Peer Handler}

/-- Nothing is done for a value. -/
theorem Account.pure_apply {α : Type} (a : α) (past : Deeds Peer Handler) :
    (pure a : Account Peer Handler α) past = (a, past) :=
  rfl

/-- What follows an effect goes on from what was done. -/
theorem Account.bind_apply {α β : Type} (x : Account Peer Handler α)
    (f : α → Account Peer Handler β) (past : Deeds Peer Handler) :
    (x >>= f) past = f (x past).1 (x past).2 :=
  rfl

/-- What a node makes of a posted call, and what is done for that. -/
inductive Handled (w : World Peer Handler) (request : InvokeRequest) (node : Peer) :
    Answer → Deeds Peer Handler → Prop where
  /-- No node can read the call. -/
  | refused {refusal : Refusal} : Endpoint.demand (posted request) = .error refusal →
      Handled w request node (.ofRefusal refusal) []
  /-- The call is meant for another node. -/
  | misrouted : w.localId node ≠ request.target →
      Handled w request node (.ofResponse (.wrongNode (w.localId node))) []
  /-- The node is meant, and has no handler. -/
  | unserved {response : InvokeResponse} : w.localId node = request.target →
      Handled w request node (.ofResponse response) []
  /-- The node is meant, and a handler runs. -/
  | served {handler : Handler} {args : List Value} {outcome : Outcome}
      {response : InvokeResponse} : w.localId node = request.target →
      Handled w request node (.ofResponse response) [.ran node handler args outcome]

/-- A call that cannot be read is refused, whichever node it was meant for. -/
theorem World.answer_of_refused (node : Peer) (past : Deeds Peer Handler) {refusal : Refusal}
    (hdemand : Endpoint.demand (posted request) = .error refusal) :
    w.answer node (posted request) past = (.ofRefusal refusal, past) := by
  rw [World.answer]
  simp only [Account.bind_apply, look]
  rw [Endpoint.answer, hdemand]
  rfl

/-- A call that is read gets the answer that it is not meant for the node. -/
theorem World.answer_of_other (past : Deeds Peer Handler) {call : CallDescriptor}
    (hdemand : Endpoint.demand (posted request) = .ok (.execute ⟨request.target, call⟩))
    (hother : w.localId node ≠ request.target) :
    w.answer node (posted request) past = (.ofResponse (.wrongNode (w.localId node)), past) := by
  rw [World.answer]
  simp only [Account.bind_apply, look, w.identified]
  rw [Endpoint.answer, hdemand]
  simp only [Account.bind_apply]
  rw [Endpoint.execute, Endpoint.findReceived, if_neg (Ne.symm hother)]
  rfl

/-- A node handles a posted call in one of four ways. -/
theorem exists_handled (w : World Peer Handler) (request : InvokeRequest) (node : Peer)
    (past : Deeds Peer Handler) :
    ∃ answer deeds, w.answer node (posted request) past = (answer, past ++ deeds) ∧
      Handled w request node answer deeds := by
  rcases demand_posted_cases request with ⟨refusal, hdemand⟩ | ⟨call, hdemand⟩
  · refine ⟨_, [], ?_, .refused hdemand⟩
    rw [List.append_nil, World.answer_of_refused node past hdemand]
  by_cases hlocal : w.localId node = request.target
  · rw [World.answer]
    simp only [Account.bind_apply, look, w.identified]
    rw [Endpoint.answer, hdemand]
    simp only [Account.bind_apply]
    rw [Endpoint.execute, Endpoint.findReceived, if_pos hlocal.symm]
    cases Execution.findReceived (w.registry past node) (w.localId node) call with
    | error e => exact ⟨_, [], by rw [List.append_nil]; rfl, .unserved hlocal⟩
    | ok handler => exact ⟨_, _, rfl, .served hlocal⟩
  · refine ⟨_, [], ?_, .misrouted hlocal⟩
    rw [List.append_nil, World.answer_of_other past hdemand hlocal]

/-- What comes of sending a call once, and what is done for that. -/
inductive Crossing (w : World Peer Handler) (address : SocketAddress) (request : InvokeRequest) :
    Sending → Deeds Peer Handler → Prop where
  /-- There is no request to an address with a scope. -/
  | unbuildable : address.isScoped = true →
      Crossing w address request (.unbuildable scopeReason) []
  /-- The request gets to no node. -/
  | missed : address.isScoped = false →
      Crossing w address request .lost [.sent address request]
  /-- The request gets to a node, which handles it. -/
  | reached {node : Peer} {answer : Answer} {work : Deeds Peer Handler} (arrival : Arrival) :
      address.isScoped = false → Handled w request node answer work →
      Crossing w address request (arrival.sending w.reasoned answer)
        ([.sent address request, .received address node (posted request)] ++ work ++
          arrival.deeds node answer)

/-- What comes of sending a call to a node that listens. -/
theorem World.send_of_listener (w : World Peer Handler) (address : SocketAddress)
    (past : Deeds Peer Handler) {work : Deeds Peer Handler} {answer : Answer}
    (hlistener : w.listener (past ++ [.sent address request]) address = some node)
    (hanswer : w.answer node (posted request)
        (past ++ [.sent address request] ++ [.received address node (posted request)]) =
      (answer,
        past ++ [.sent address request] ++ [.received address node (posted request)] ++ work)) :
    ∃ now, w.send address request past =
      ((w.arrival now node answer).sending w.reasoned answer,
        past ++ (([.sent address request, .received address node (posted request)] :
          Deeds Peer Handler) ++ work ++ (w.arrival now node answer).deeds node answer)) := by
  rw [World.send]
  simp only [Account.bind_apply, note, look, hlistener, hanswer]
  exact ⟨_, by simp only [List.append_assoc]; rfl⟩

/-- A call that is sent once crosses the network in one of three ways. -/
theorem exists_crossing (w : World Peer Handler) (address : SocketAddress)
    (request : InvokeRequest) (past : Deeds Peer Handler) :
    ∃ sending deeds, w.network.send address request past = (sending, past ++ deeds) ∧
      Crossing w address request sending deeds := by
  cases hscoped : address.isScoped with
  | true =>
      refine ⟨.unbuildable scopeReason, [], ?_, .unbuildable hscoped⟩
      simp only [World.network, Network.withoutScopes, hscoped, if_true, Account.pure_apply,
        List.append_nil]
  | false =>
      have hsend : w.network.send address request past = w.send address request past := by
        simp only [World.network, Network.withoutScopes, hscoped, Bool.false_eq_true, if_false]
      rw [hsend]
      cases hlistener : w.listener (past ++ [.sent address request]) address with
      | none =>
          rw [World.send]
          simp only [Account.bind_apply, note, look, hlistener]
          exact ⟨_, _, rfl, .missed hscoped⟩
      | some node =>
          obtain ⟨answer, work, hanswer, hhandled⟩ := exists_handled w request node
            (past ++ [.sent address request] ++ [.received address node (posted request)])
          obtain ⟨now, hsend⟩ := w.send_of_listener address past hlistener hanswer
          exact ⟨_, _, hsend, .reached _ hscoped hhandled⟩

/-- What a node does for a posted call is to run a handler, and only if it is meant. -/
theorem Handled.of_mem {answer : Answer} (h : Handled w request node answer deeds)
    {deed : Deed Peer Handler} (hdeed : deed ∈ deeds) :
    w.localId node = request.target ∧
      ∃ handler args outcome, deed = .ran node handler args outcome := by
  cases h with
  | refused | misrouted | unserved => cases hdeed
  | served hlocal => exact ⟨hlocal, _, _, _, List.mem_singleton.1 hdeed⟩

/-- A deed of a node that was reached in sending a call once. -/
inductive Reached (w : World Peer Handler) (address : SocketAddress) (request : InvokeRequest)
    (sending : Sending) (node : Peer) : Deed Peer Handler → Prop where
  | received : Reached w address request sending node (.received address node (posted request))
  | ran {handler : Handler} {args : List Value} {outcome : Outcome} :
      w.localId node = request.target →
      Reached w address request sending node (.ran node handler args outcome)
  | answered {answer : Answer} {work : Deeds Peer Handler} {whole : Bool} :
      Handled w request node answer work →
      sending = .answered (w.reasoned answer.status)
        (if whole then answer.body.map Value.text else none) →
      Reached w address request sending node (.answered node answer whole)

/-- What is done in sending a call once is to send it, or it is a deed of the node that it
reaches. -/
theorem Crossing.of_mem (h : Crossing w address request sending deeds) {deed : Deed Peer Handler}
    (hdeed : deed ∈ deeds) :
    address.isScoped = false ∧ .sent address request ∈ deeds ∧
      (deed = .sent address request ∨
        ∃ node, .received address node (posted request) ∈ deeds ∧
          Reached w address request sending node deed) := by
  cases h with
  | unbuildable => cases hdeed
  | missed hscoped => exact ⟨hscoped, List.mem_singleton.2 rfl, .inl (List.mem_singleton.1 hdeed)⟩
  | @reached node answer work arrival hscoped hhandled =>
      refine ⟨hscoped, by simp, ?_⟩
      rcases List.mem_append.1 hdeed with hdeed | hdeed
      · rcases List.mem_append.1 hdeed with hdeed | hdeed
        · rcases List.mem_cons.1 hdeed with rfl | hdeed
          · exact .inl rfl
          · obtain rfl := List.mem_singleton.1 hdeed
            exact .inr ⟨node, by simp, .received⟩
        · obtain ⟨hlocal, handler, args, outcome, rfl⟩ := hhandled.of_mem hdeed
          exact .inr ⟨node, by simp, .ran hlocal⟩
      · refine .inr ⟨node, by simp, ?_⟩
        cases arrival with
        | lost => cases hdeed
        | broken =>
            obtain rfl := List.mem_singleton.1 hdeed
            exact .answered hhandled rfl
        | whole =>
            obtain rfl := List.mem_singleton.1 hdeed
            exact .answered hhandled rfl

/-- Only a sending that is answered brings an answer. -/
theorem Crossing.isAnswered (h : Crossing w address request sending deeds) {answer : Answer}
    {whole : Bool} (hdeed : .answered node answer whole ∈ deeds) : sending.isAnswered = true := by
  obtain ⟨-, -, heq | ⟨_, -, hreached⟩⟩ := h.of_mem hdeed
  · cases heq
  · cases hreached with
    | answered _ hsending =>
        rw [hsending]
        rfl

/-- What comes of a call that is sent again while no answer comes, and what is done for that. -/
inductive Attempts (w : World Peer Handler) (address : SocketAddress) (request : InvokeRequest) :
    Sending → Deeds Peer Handler → Prop where
  | last {sending : Sending} {deeds : Deeds Peer Handler} :
      Crossing w address request sending deeds → Attempts w address request sending deeds
  | again {unanswered sending : Sending} {first others : Deeds Peer Handler} :
      Crossing w address request unanswered first → unanswered.isAnswered = false →
      Attempts w address request sending others →
      Attempts w address request sending (first ++ others)

/-- A call that is sent up to a limit is sent in such attempts. -/
theorem exists_attempts (w : World Peer Handler) (address : SocketAddress)
    (request : InvokeRequest) (sent more : Nat) (past : Deeds Peer Handler) :
    ∃ sending deeds, sendUpTo w.network address request sent more past =
        (sending, past ++ deeds) ∧
      Attempts w address request sending deeds := by
  induction more generalizing sent past with
  | zero =>
      obtain ⟨sending, deeds, hsend, hcrossing⟩ := exists_crossing w address request past
      exact ⟨sending, deeds, hsend, .last hcrossing⟩
  | succ more ih =>
      obtain ⟨sending, deeds, hsend, hcrossing⟩ := exists_crossing w address request past
      rw [sendUpTo]
      simp only [Account.bind_apply, hsend]
      cases hanswered : sending.isAnswered with
      | true => exact ⟨sending, deeds, rfl, .last hcrossing⟩
      | false =>
          obtain ⟨final, others, hothers, hattempts⟩ := ih (sent + 1) (past ++ deeds)
          refine ⟨final, deeds ++ others, ?_, .again hcrossing hanswered hattempts⟩
          rw [← List.append_assoc, ← hothers]
          rfl

/-- What is done in the attempts is to send the call, or it is a deed of a node that one of them
reaches. -/
theorem Attempts.of_mem (h : Attempts w address request sending deeds) {deed : Deed Peer Handler}
    (hdeed : deed ∈ deeds) :
    address.isScoped = false ∧ .sent address request ∈ deeds ∧
      (deed = .sent address request ∨
        ∃ once node, .received address node (posted request) ∈ deeds ∧
          Reached w address request once node deed) := by
  induction h with
  | @last once _ hcrossing =>
      obtain ⟨hscoped, hsent, heq | ⟨node, hreceived, hreached⟩⟩ := hcrossing.of_mem hdeed
      · exact ⟨hscoped, hsent, .inl heq⟩
      · exact ⟨hscoped, hsent, .inr ⟨once, node, hreceived, hreached⟩⟩
  | @again once _ first others hcrossing _ _ ih =>
      rcases List.mem_append.1 hdeed with hdeed | hdeed
      · obtain ⟨hscoped, hsent, heq | ⟨node, hreceived, hreached⟩⟩ := hcrossing.of_mem hdeed
        · exact ⟨hscoped, List.mem_append_left _ hsent, .inl heq⟩
        · exact ⟨hscoped, List.mem_append_left _ hsent,
            .inr ⟨once, node, List.mem_append_left _ hreceived, hreached⟩⟩
      · obtain ⟨hscoped, hsent, heq | ⟨once, node, hreceived, hreached⟩⟩ := ih hdeed
        · exact ⟨hscoped, List.mem_append_right _ hsent, .inl heq⟩
        · exact ⟨hscoped, List.mem_append_right _ hsent,
            .inr ⟨once, node, List.mem_append_right _ hreceived, hreached⟩⟩

/-- The last attempt decides, and if an answer came it came then. -/
theorem Attempts.exists_last (h : Attempts w address request sending deeds) :
    ∃ final, Crossing w address request sending final ∧ final ⊆ deeds ∧
      ∀ node answer whole, .answered node answer whole ∈ deeds →
        .answered node answer whole ∈ final := by
  induction h with
  | last hcrossing => exact ⟨_, hcrossing, List.Subset.refl _, fun _ _ _ hdeed => hdeed⟩
  | again hcrossing hunanswered _ ih =>
      obtain ⟨final, hfinal, hsubset, hanswered⟩ := ih
      refine ⟨final, hfinal, List.subset_append_of_subset_right _ hsubset, ?_⟩
      intro node answer whole hdeed
      rcases List.mem_append.1 hdeed with hdeed | hdeed
      · cases hunanswered.symm.trans (hcrossing.isAnswered hdeed)
      · exact hanswered node answer whole hdeed

/-- The answer of a node that was not meant is read as such, whatever identity it reports. -/
theorem readAnswer_wrongNode (meant reported : NodeId) (status : String) :
    readAnswer meant status (some (InvokeResponse.wrongNode reported).toValue.text) =
      .error (.topologyChanged meant) := by
  have hvalue : (InvokeResponse.wrongNode reported).toValue =
      .object [("node", .string reported), ("status", .string "wrong_node")] := by
    simp only [InvokeResponse.toValue, InvokeResponse.members, InvokeResponse.statusWord,
      Value.ofMembers, List.foldl_cons, List.foldl_nil, insertSorted, String.reduceLT, if_true,
      if_false, String.reduceEq]
  have hkeys : ["node", "status"].Pairwise (· < ·) := by decide
  have hportable : (InvokeResponse.wrongNode reported).toValue.IsPortable := by
    rw [hvalue]
    refine ⟨?_, ⟨keysIncrease_of_keys hkeys, trivial, trivial, trivial⟩, ?_⟩
    · simp [Value.IsIntegral, Value.MembersIntegral]
    · simp [Value.depth, Value.membersDepth, Json.depthLimit]
  exact readAnswer_text hportable meant status

/-- No node refuses a call before it looks at the target. -/
def IsReadable (request : InvokeRequest) : Prop :=
  ∀ refusal, Endpoint.demand (posted request) ≠ .error refusal

/-- A call is readable if its text carries it and is not too long. -/
theorem isReadable (h : request.toValue.IsPortable) (hshort : IsShort request) :
    IsReadable request := by
  intro refusal hrefused
  rw [demand_posted h hshort] at hrefused
  cases hrefused

/-- What is known of a submitted call, its result and all that was done for it, by the member table
of the caller. -/
structure Routed (w : World Peer Handler) (c : Cluster) (target : Node) (call : CallDescriptor)
    (result : Except DispatchError Value) (deeds : Deeds Peer Handler) : Prop where
  /-- The call is sent only if the target is alive in the table, only to the address that the table
  gives for it, and under its identity. -/
  sent : ∀ address request, .sent address request ∈ deeds →
    request = ⟨target.id, call⟩ ∧ ∃ n, c.node? target.id = some n ∧ n.address = address
  /-- A node receives only this call, at an address to which it was sent. -/
  received : ∀ address node request, .received address node request ∈ deeds →
    request = posted ⟨target.id, call⟩ ∧ .sent address ⟨target.id, call⟩ ∈ deeds
  /-- A handler runs only on a node that received the call, and only if that is the target by its
  own identity. -/
  ran : ∀ node handler args outcome, .ran node handler args outcome ∈ deeds →
    w.localId node = target.id ∧
      ∃ address, .received address node (posted ⟨target.id, call⟩) ∈ deeds
  /-- No node passes the call on. -/
  kept : ∀ node service method args, .forwarded node service method args ∉ deeds
  /-- Where no node is the target that receives the call, no handler runs anywhere. -/
  idle : (∀ address node request, .received address node request ∈ deeds →
      w.localId node ≠ target.id) →
    ∀ node handler args outcome, .ran node handler args outcome ∉ deeds
  /-- For a target that is not alive in the table nothing is done. -/
  gone : c.node? target.id = none →
    deeds = [] ∧ result = .error (.topologyChanged target.id)
  /-- Without an answer the target counts as gone, unless no request can be made to its address. -/
  unanswered : (∀ node answer whole, .answered node answer whole ∉ deeds) →
    result = .error (.topologyChanged target.id) ∨
      deeds = [] ∧ (∃ n, c.node? target.id = some n ∧ n.address.isScoped = true) ∧
        ∃ source, result = .error (.transport source)
  /-- A call is readable if its text carries it and is not too long. -/
  readable : (InvokeRequest.toValue ⟨target.id, call⟩).IsPortable → IsShort ⟨target.id, call⟩ →
    IsReadable ⟨target.id, call⟩
  /-- If another node than the target answers a call that is readable, it says that the call is not
  meant for it, whatever its identity is, and the target counts as gone. If its answer breaks off,
  that is a failure of the transport. -/
  misrouted : IsReadable ⟨target.id, call⟩ → ∀ node answer whole,
    .answered node answer whole ∈ deeds → w.localId node ≠ target.id →
      answer = .ofResponse (.wrongNode (w.localId node)) ∧
      (whole = true → result = .error (.topologyChanged target.id)) ∧
      (whole = false → ∃ source, result = .error (.transport source))
  /-- A proxy whose target counts as gone goes on, and clears the slot first. -/
  retried : ∀ (i : Invocation) (chosen : Target),
    i.afterAttempt chosen (InvocationError.ofResult (.error (.topologyChanged target.id))) =
      i.moveTo (.clearing chosen)

/-- What the answer of another node to a readable call comes to. -/
theorem Handled.result_of_other {answer : Answer} {whole : Bool}
    (h : Handled w request node answer deeds) (hreadable : IsReadable request)
    (hother : w.localId node ≠ request.target)
    (hsending : sending = .answered (w.reasoned answer.status)
      (if whole then answer.body.map Value.text else none)) :
    answer = .ofResponse (.wrongNode (w.localId node)) ∧
      (whole = true →
        sending.result request.target = .error (.topologyChanged request.target)) ∧
      (whole = false → ∃ source, sending.result request.target = .error (.transport source)) := by
  subst hsending
  cases h with
  | refused hrefused => exact absurd hrefused (hreadable _)
  | unserved hlocal => exact absurd hlocal hother
  | served hlocal => exact absurd hlocal hother
  | misrouted =>
      refine ⟨rfl, ?_, ?_⟩
      · rintro rfl
        have hbody : (Answer.ofResponse (.wrongNode (w.localId node))).body.map Value.text =
            some (InvokeResponse.wrongNode (w.localId node)).toValue.text := rfl
        rw [if_pos rfl, hbody, Sending.result]
        exact readAnswer_wrongNode request.target (w.localId node) _
      · rintro rfl
        exact ⟨_, rfl⟩

/-- To an address with a scope nothing is sent. -/
theorem Attempts.eq_nil (h : Attempts w address request sending deeds)
    (hscoped : address.isScoped = true) : deeds = [] := by
  refine List.eq_nil_iff_forall_not_mem.2 fun deed hdeed => ?_
  obtain ⟨hunscoped, -, -⟩ := h.of_mem hdeed
  cases hscoped.symm.trans hunscoped

/-- What a call comes to that is not answered. -/
theorem Attempts.result_of_unanswered {c : Cluster} {target n : Node}
    (halive : c.node? target.id = some n) (h : Attempts w n.address request sending deeds)
    (hunanswered : ∀ node answer whole, .answered node answer whole ∉ deeds) :
    sending.result target.id = .error (.topologyChanged target.id) ∨
      deeds = [] ∧ (∃ n, c.node? target.id = some n ∧ n.address.isScoped = true) ∧
        ∃ source, sending.result target.id = .error (.transport source) := by
  obtain ⟨final, hfinal, hsubset, -⟩ := h.exists_last
  cases hfinal with
  | unbuildable hscoped => exact .inr ⟨h.eq_nil hscoped, ⟨n, halive, hscoped⟩, _, rfl⟩
  | missed => exact .inl rfl
  | reached arrival =>
      cases arrival with
      | lost => exact .inl rfl
      | broken =>
          exact absurd (hsubset (List.mem_append_right _ (List.mem_singleton.2 rfl)))
            (hunanswered _ _ false)
      | whole =>
          exact absurd (hsubset (List.mem_append_right _ (List.mem_singleton.2 rfl)))
            (hunanswered _ _ true)

/-- What is known of attempts to send a call to the address of its target is known of the submitted
call. -/
theorem Attempts.routed {c : Cluster} {target n : Node} {call : CallDescriptor}
    (halive : c.node? target.id = some n)
    (h : Attempts w n.address ⟨target.id, call⟩ sending deeds) :
    Routed w c target call (sending.result target.id) deeds where
  sent := by
    intro address request hdeed
    obtain ⟨-, -, heq | ⟨_, _, -, hreached⟩⟩ := h.of_mem hdeed
    · cases heq
      exact ⟨rfl, n, halive, rfl⟩
    · cases hreached
  received := by
    intro address node request hdeed
    obtain ⟨-, hsent, heq | ⟨_, _, -, hreached⟩⟩ := h.of_mem hdeed
    · cases heq
    · cases hreached
      exact ⟨rfl, hsent⟩
  ran := by
    intro node handler args outcome hdeed
    obtain ⟨-, -, heq | ⟨_, _, hreceived, hreached⟩⟩ := h.of_mem hdeed
    · cases heq
    · cases hreached with
      | ran hlocal => exact ⟨hlocal, _, hreceived⟩
  kept := by
    intro node service method args hdeed
    obtain ⟨-, -, heq | ⟨_, _, -, hreached⟩⟩ := h.of_mem hdeed
    · cases heq
    · cases hreached
  idle := by
    intro hothers node handler args outcome hdeed
    obtain ⟨-, -, heq | ⟨_, _, hreceived, hreached⟩⟩ := h.of_mem hdeed
    · cases heq
    · cases hreached with
      | ran hlocal => exact hothers _ _ _ hreceived hlocal
  gone := fun hgone => by
    rw [halive] at hgone
    cases hgone
  unanswered := h.result_of_unanswered halive
  readable := isReadable
  misrouted := by
    intro hreadable node answer whole hdeed hother
    obtain ⟨final, hfinal, -, hanswered⟩ := h.exists_last
    obtain ⟨-, -, heq | ⟨node, -, hreached⟩⟩ := hfinal.of_mem (hanswered node answer whole hdeed)
    · cases heq
    · cases hreached with
      | answered hhandled hsending =>
          exact hhandled.result_of_other hreadable hother hsending
  retried := fun _ _ => rfl

/-- What is known of a call to a target that is not alive. -/
theorem routed_nil {c : Cluster} {target : Node} (w : World Peer Handler) (call : CallDescriptor) :
    Routed w c target call (.error (.topologyChanged target.id)) [] where
  sent _ _ hdeed := absurd hdeed List.not_mem_nil
  received _ _ _ hdeed := absurd hdeed List.not_mem_nil
  ran _ _ _ _ hdeed := absurd hdeed List.not_mem_nil
  kept _ _ _ _ := List.not_mem_nil
  idle _ _ _ _ _ := List.not_mem_nil
  gone _ := ⟨rfl, rfl⟩
  unanswered _ := .inl rfl
  readable := isReadable
  misrouted _ _ _ _ hdeed := absurd hdeed List.not_mem_nil
  retried _ _ := rfl

/-- Whatever the member tables of the nodes say and whichever nodes listen where, a call that one of
them submits is sent to no other address than the one that its table gives for the target, and run
by no node that is not the target. If another node answers a call that it can read, the target
counts as gone. -/
theorem submit_routed (w : World Peer Handler) (caller : Peer) (target : Node)
    (call : CallDescriptor) (failover : Failover) (past : Deeds Peer Handler) :
    ∃ result deeds, w.submit caller target call failover past = (result, past ++ deeds) ∧
      Routed w (w.table past caller) target call result deeds := by
  simp only [World.submit, Account.bind_apply, look, Http.submit]
  cases hnode : (w.table past caller).node? target.id with
  | none =>
      exact ⟨_, [], by rw [List.append_nil]; rfl, routed_nil w call⟩
  | some n =>
      obtain ⟨-, hid⟩ := Cluster.node?_eq_some_iff.1 hnode
      obtain ⟨sending, deeds, hpost, hattempts⟩ := exists_attempts w n.address ⟨target.id, call⟩ 0
        (attemptLimit failover - 1) past
      refine ⟨_, deeds, ?_, hattempts.routed hnode⟩
      simp only [Account.bind_apply, hid, post, hpost]
      rfl

/-- So many empty arrays, each in the next. -/
def nested : Nat → Value
  | 0 => .array []
  | n + 1 => .array [nested n]

/-- Nested arrays are nested as deep as they are many. -/
theorem depth_nested (n : Nat) : (nested n).depth = n + 1 := by
  induction n with
  | zero => rfl
  | succ n ih => simp [nested, Value.depth, Value.itemsDepth, ih]

/-- A call that is nested too deep. -/
def deepCall : CallDescriptor := ⟨"svc", "m", [nested 124]⟩

/-- A world in which every node is its identity, lists the callee as alive, and finds the node `"c"`
at its address. -/
def usurped (arrival : Arrival) : World NodeId Unit where
  localId node := node
  table _ node := (Cluster.ofNode (.ofId node)).join callee
  identified _ _ := rfl
  registry _ node := Registry.ofNode node
  listener _ _ := some "c"
  outcome _ _ _ _ := .ok .null
  invoke _ _ service _ _ := .error (.serviceUnavailable service)
  arrival _ _ _ := arrival
  draw _ := 0
  reasoned := toString

/-- In the usurped world a call comes to what the answer of the other node comes to. -/
theorem submit_usurped (arrival : Arrival) {call : CallDescriptor} {answer : Answer}
    (hanswer : ∀ past, (usurped arrival).answer "c" (posted ⟨"b", call⟩) past = (answer, past)) :
    (usurped arrival).submit "a" callee call .disabled [] =
      ((arrival.sending toString answer).result "b",
        ([.sent callee.address ⟨"b", call⟩,
          .received callee.address "c" (posted ⟨"b", call⟩)] : Deeds NodeId Unit) ++
          arrival.deeds "c" answer) := by
  have hnode : ((usurped arrival).table [] "a").node? callee.id = some callee := rfl
  have hwork : ∀ past, (usurped arrival).answer "c" (posted ⟨"b", call⟩) past =
      (answer, past ++ []) := fun past => by rw [List.append_nil, hanswer]
  obtain ⟨now, hsend⟩ := (usurped arrival).send_of_listener callee.address [] rfl (hwork _)
  simp only [World.submit, Account.bind_apply, look, Http.submit, hnode]
  show (Sending.result "b" ((usurped arrival).send callee.address ⟨"b", call⟩ []).1,
    ((usurped arrival).send callee.address ⟨"b", call⟩ []).2) = _
  rw [hsend]
  rfl

/-- Where another node listens at the address of the callee, a submitted call fails in the transport
if the answer cannot be read: a call that is nested too deep is refused without a look at its
target, and the answer to any call may break off. -/
theorem submit_misrouted_unreadable :
    (∃ source refusal, (usurped .whole).submit "a" callee deepCall .disabled [] =
      (.error (.transport source),
        [.sent callee.address ⟨"b", deepCall⟩,
          .received callee.address "c" (posted ⟨"b", deepCall⟩),
          .answered "c" (.ofRefusal refusal) true])) ∧
    ∃ source, (usurped .broken).submit "a" callee ⟨"svc", "m", []⟩ .disabled [] =
      (.error (.transport source),
        [.sent callee.address ⟨"b", ⟨"svc", "m", []⟩⟩,
          .received callee.address "c" (posted ⟨"b", ⟨"svc", "m", []⟩⟩),
          .answered "c" (.ofResponse (.wrongNode "c")) false]) := by
  constructor
  · have hdepth : Json.depthLimit ≤ (InvokeRequest.toValue ⟨"b", deepCall⟩).depth := by
      rw [InvokeRequest.toValue_eq, CallDescriptor.toValue_eq]
      simp [Value.depth, Value.membersDepth, Value.itemsDepth, deepCall, depth_nested,
        Json.depthLimit]
    obtain ⟨refusal, hdemand⟩ := exists_refusal hdepth
    have hanswer : ∀ past, (usurped .whole).answer "c" (posted ⟨"b", deepCall⟩) past =
        (.ofRefusal refusal, past) := fun past => World.answer_of_refused "c" past hdemand
    exact ⟨_, refusal, submit_usurped .whole hanswer⟩
  · have hportable : (InvokeRequest.toValue ⟨"b", ⟨"svc", "m", []⟩⟩).IsPortable :=
      InvokeRequest.isPortable trivial trivial (by decide)
    have hshort : IsShort ⟨"b", ⟨"svc", "m", []⟩⟩ := by decide +kernel
    have hdemand := demand_posted hportable hshort
    have hother : (usurped .broken).localId "c" ≠ "b" := by decide
    have hanswer : ∀ past, (usurped .broken).answer "c" (posted ⟨"b", ⟨"svc", "m", []⟩⟩) past =
        (.ofResponse (.wrongNode "c"), past) := fun past =>
      World.answer_of_other past hdemand hother
    exact ⟨_, submit_usurped .broken hanswer⟩

end Http

end ServiceRouting
