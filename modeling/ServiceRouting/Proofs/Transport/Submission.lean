import ServiceRouting.Proofs.Cluster.Views
import ServiceRouting.Transport.Traffic

/-!
# Submitting a call

What a node does on the network for a call that it submits, and what the call comes to, on a network
of which nothing is assumed. Read `Posting` and `Submission` first. A call is posted in attempts
that fail, each with a wait after it, and a last one that is answered or spends the limit. What
comes of the last attempt decides what the call comes to (`Sending.result`), and `submit_governed`
says how.
-/

namespace ServiceRouting

open Json (Value)

/-- If an error of a transport names a node, it is this one. -/
def DispatchError.NamesOnly (node : NodeId) : DispatchError → Prop
  | serviceNotFound _ other | topologyChanged other => other = node
  | methodNotFound .. | failed _ | transport _ => True

namespace InvokeResponse

/-- The only response that says that the node is gone is the one of another node. -/
theorem toResult_topologyChanged_iff (response : InvokeResponse) (node : NodeId) :
    (∃ other, response.toResult node = .error (.topologyChanged other)) ↔
      ∃ reported, response = wrongNode reported := by
  cases response <;> simp [toResult]

/-- A response is no failure of the transport. -/
theorem toResult_ne_transport (response : InvokeResponse) (node : NodeId) (source : ErrorChain) :
    response.toResult node ≠ .error (.transport source) := by
  cases response <;> simp [toResult]

/-- What a response says of a node it says of the one that was asked. -/
theorem namesOnly_of_toResult (response : InvokeResponse) (node : NodeId) {e : DispatchError}
    (h : response.toResult node = .error e) : e.NamesOnly node := by
  cases response <;> cases h <;> trivial

end InvokeResponse

namespace Http

/-- The response that the body of an answer is read as, if it can be read. -/
def decode? (body : Option String) : Option InvokeResponse :=
  body.bind fun text => (Json.readText InvokeResponse.ofDocument text).toOption

/-- The traffic of a request in these attempts: what came of each that failed, with the wait after
it, and what came of the last. -/
def trafficOf (address : SocketAddress) (request : InvokeRequest) (failures : List (Sending × Nat))
    (last : Sending) : Traffic :=
  failures.flatMap (fun failure => [.posted address request failure.1, .waited failure.2]) ++
    [.posted address request last]

/-- What holds of the attempts at a request that was sent `sent` times before: the first of them and
at most `more` others. -/
structure Attempted (sent more : Nat) (failures : List (Sending × Nat)) (last : Sending) :
    Prop where
  failed : ∀ failure ∈ failures, failure.1.isAnswered = false
  waited : ∀ k failure, failures[k]? = some failure →
    waitBase (sent + k + 1) ≤ failure.2 ∧ failure.2 ≤ waitBase (sent + k + 1) + 49
  limited : failures.length ≤ more
  exhausted : last.isAnswered = false → failures.length = more

variable {line : Line} {address : SocketAddress} {request : InvokeRequest} {sent more : Nat}
  {failures : List (Sending × Nat)} {sending last : Sending} {past done : Traffic}

/-- A wait has its jitter, and no more. -/
theorem waitTime_within (number draw : Nat) :
    waitBase number ≤ waitTime number draw ∧ waitTime number draw ≤ waitBase number + 49 := by
  have hjitter : draw % jitterLimit < 50 := Nat.mod_lt draw (by decide)
  rw [waitTime]
  omega

/-- An attempt that is answered is the last one. -/
theorem Attempted.single (h : sending.isAnswered = true) : Attempted sent more [] sending where
  failed := by simp
  waited := by simp
  limited := Nat.zero_le more
  exhausted hfailed := by simp [h] at hfailed

/-- An attempt after which none is left is the last one. -/
theorem Attempted.final (sent : Nat) (sending : Sending) : Attempted sent 0 [] sending where
  failed := by simp
  waited := by simp
  limited := Nat.le_refl 0
  exhausted _ := rfl

/-- After an attempt that fails and a wait the others follow. -/
theorem Attempted.cons (hfailed : sending.isAnswered = false) (draw : Nat)
    (h : Attempted (sent + 1) more failures last) :
    Attempted sent (more + 1) ((sending, waitTime (sent + 1) draw) :: failures) last where
  failed := List.forall_mem_cons.2 ⟨hfailed, h.failed⟩
  waited k failure hfailure := by
    cases k with
    | zero =>
        obtain rfl := Option.some.inj hfailure
        exact waitTime_within (sent + 1) draw
    | succ k =>
        have hrest := h.waited k failure hfailure
        rwa [show sent + 1 + k + 1 = sent + (k + 1) + 1 by omega] at hrest
  limited := Nat.succ_le_succ h.limited
  exhausted hlast := congrArg Nat.succ (h.exhausted hlast)

/-- Sending a request up to a limit is one attempt, and a wait with further ones if it is not
answered. -/
theorem sendUpTo_succ (hsending : line.sending past address request = sending)
    (hdone : past ++ [.posted address request sending] = done) (sent more : Nat) :
    sendUpTo line.network address request sent (more + 1) past =
      if sending.isAnswered then (sending, done)
      else sendUpTo line.network address request (sent + 1) more
        (done ++ [.waited (waitTime (sent + 1) (line.draw done))]) := by
  subst hsending hdone
  rw [sendUpTo]
  show (if (line.sending past address request).isAnswered then pure _ else _ :
    StateM Traffic Sending) (past ++ [.posted address request _]) = _
  split <;> rfl

/-- A request that is answered is not sent again. -/
theorem sendUpTo_of_answered (hsending : line.sending past address request = sending)
    (h : sending.isAnswered = true) (sent more : Nat) :
    sendUpTo line.network address request sent more past =
      (sending, past ++ trafficOf address request [] sending) := by
  cases more with
  | zero =>
      subst hsending
      rfl
  | succ more =>
      rw [sendUpTo_succ hsending rfl, if_pos h]
      rfl

/-- A request that fails is sent again after a wait, if it may be. -/
theorem sendUpTo_of_failed (hsending : line.sending past address request = sending)
    (h : sending.isAnswered = false) (sent more : Nat) :
    ∃ draw, sendUpTo line.network address request sent (more + 1) past =
      sendUpTo line.network address request (sent + 1) more
        (past ++ [.posted address request sending, .waited (waitTime (sent + 1) draw)]) := by
  refine ⟨line.draw (past ++ [.posted address request sending]), ?_⟩
  rw [sendUpTo_succ hsending rfl, if_neg (by simp [h]), List.append_assoc]
  rfl

/-- What is done to send a request is made of such attempts. -/
theorem exists_attempted (line : Line) (address : SocketAddress) (request : InvokeRequest)
    (sent more : Nat) (past : Traffic) :
    ∃ failures last, sendUpTo line.network address request sent more past =
        (last, past ++ trafficOf address request failures last) ∧
      Attempted sent more failures last := by
  induction more generalizing sent past with
  | zero => exact ⟨[], line.sending past address request, rfl, .final sent _⟩
  | succ more ih =>
      cases hanswered : (line.sending past address request).isAnswered with
      | true => exact ⟨[], _, sendUpTo_of_answered rfl hanswered sent (more + 1), .single hanswered⟩
      | false =>
          obtain ⟨draw, hagain⟩ := sendUpTo_of_failed rfl hanswered sent more
          obtain ⟨failures, last, hrest, hattempted⟩ := ih (sent + 1)
            (past ++ [.posted address request _, .waited (waitTime (sent + 1) draw)])
          refine ⟨_, last, ?_, hattempted.cons hanswered draw⟩
          rw [hagain, hrest, List.append_assoc]
          rfl

/-- What came of the requests of these attempts. -/
theorem sendings_trafficOf :
    sendings (trafficOf address request failures last) = failures.map Prod.fst ++ [last] := by
  induction failures with
  | nil => rfl
  | cons failure rest ih => exact congrArg (failure.1 :: ·) ih

/-- As many requests were sent as there are attempts. -/
theorem length_sendings_trafficOf :
    (sendings (trafficOf address request failures last)).length = failures.length + 1 := by
  rw [sendings_trafficOf, List.length_append, List.length_map, List.length_singleton]

/-- All attempts failed exactly if the last one did. -/
theorem Attempted.forall_failed_iff (h : Attempted sent more failures last) :
    (∀ sending ∈ sendings (trafficOf address request failures last), sending.isAnswered = false) ↔
      last.isAnswered = false := by
  rw [sendings_trafficOf, List.forall_mem_append, List.forall_mem_map, List.forall_mem_singleton]
  exact and_iff_right h.failed

/-- Only the last attempt can be answered. -/
theorem Attempted.find?_answered (h : Attempted sent more failures last) :
    (sendings (trafficOf address request failures last)).find? Sending.isAnswered =
      if last.isAnswered then some last else none := by
  have hnone : (failures.map Prod.fst).find? Sending.isAnswered = none := by
    rw [List.find?_eq_none, List.forall_mem_map]
    intro failure hfailure
    simp [h.failed failure hfailure]
  rw [sendings_trafficOf, List.find?_append, hnone, Option.none_or, List.find?_singleton]

/-- What holds of posting a request to an address up to a limit, of what came of it in the end and
of what was done. -/
structure Posting (address : SocketAddress) (request : InvokeRequest) (limit : Nat)
    (last : Sending) (done : Traffic) : Prop where
  /-- Nothing but the request is sent, and to no other address. After an attempt that fails, and
  only then, there is a wait before the next one, first of 150 milliseconds and each time twice as
  long, up to 1200 and with up to 49 more. -/
  course : ∃ failures, done = trafficOf address request failures last ∧
    (∀ failure ∈ failures, failure.1.isAnswered = false) ∧
    ∀ k failure, failures[k]? = some failure →
      Nat.min (150 * Nat.pow 2 k) 1200 ≤ failure.2 ∧
        failure.2 ≤ Nat.min (150 * Nat.pow 2 k) 1200 + 49
  /-- The request is sent as often as the limit says at most, but at least once. -/
  limited : (sendings done).length ≤ Nat.max limit 1
  /-- A request that is never answered is sent as often as the limit says, but at least once. -/
  exhausted : last.isAnswered = false → (sendings done).length = Nat.max limit 1

/-- The attempts that a limit allows make up a posting. -/
theorem Attempted.posting {limit : Nat} (h : Attempted 0 (limit - 1) failures last) :
    Posting address request limit last (trafficOf address request failures last) where
  course := by
    refine ⟨failures, rfl, h.failed, fun k failure hfailure => ?_⟩
    have hwaited := h.waited k failure hfailure
    rwa [Nat.zero_add] at hwaited
  limited := by
    have hlimited := h.limited
    rw [length_sendings_trafficOf]
    show failures.length + 1 ≤ max limit 1
    omega
  exhausted hlast := by
    have hexhausted := h.exhausted hlast
    rw [length_sendings_trafficOf]
    show failures.length + 1 = max limit 1
    omega

/-- What is done to post a request is made of such attempts. -/
theorem exists_post (line : Line) (address : SocketAddress) (request : InvokeRequest)
    (limit : Nat) :
    ∃ failures last, post line.network address request limit [] =
        (last, trafficOf address request failures last) ∧
      Attempted 0 (limit - 1) failures last :=
  exists_attempted line address request 0 (limit - 1) []

variable {response : InvokeResponse} {body : Option String}

/-- A body that is read as a response stands for the result of that. -/
theorem readAnswer_of_decode? (h : decode? body = some response) (node : NodeId)
    (status : String) : readAnswer node status body = response.toResult node := by
  obtain ⟨text, rfl, htext⟩ := Option.bind_eq_some_iff.1 h
  rw [readAnswer, Option.map_some]
  cases hread : Json.readText InvokeResponse.ofDocument text with
  | error fault => simp [hread, Except.toOption] at htext
  | ok read =>
      rw [hread] at htext
      obtain rfl := Option.some.inj htext
      rfl

/-- A body that cannot be read is a failure of the transport. -/
theorem readAnswer_of_not_decode? (h : decode? body = none) (node : NodeId) (status : String) :
    ∃ source, readAnswer node status body = .error (.transport source) := by
  cases body with
  | none => exact ⟨_, rfl⟩
  | some text =>
      rw [readAnswer, Option.map_some]
      cases hread : Json.readText InvokeResponse.ofDocument text with
      | error fault => exact ⟨_, rfl⟩
      | ok read => simp [decode?, hread, Except.toOption] at h

/-- What holds of the body of some answer holds of that of the answer that came. -/
theorem exists_answered_iff {status : String} {Holds : Option String → Prop} :
    (∃ status' body', Sending.answered status body = .answered status' body' ∧ Holds body') ↔
      Holds body := by
  constructor
  · rintro ⟨status', body', heq, hholds⟩
    obtain ⟨rfl, rfl⟩ := Sending.answered.inj heq
    exact hholds
  · exact fun hholds => ⟨status, body, rfl, hholds⟩

/-- A node counts as gone if no answer came, or that of another node. -/
theorem result_topologyChanged_iff (last : Sending) (node : NodeId) :
    (∃ other, last.result node = .error (.topologyChanged other)) ↔
      last = .lost ∨ ∃ status body, last = .answered status body ∧
        ∃ reported, decode? body = some (.wrongNode reported) := by
  cases last with
  | lost => simp [Sending.result]
  | unbuildable => simp [Sending.result]
  | answered status body =>
      rw [exists_answered_iff]
      simp only [Sending.result, reduceCtorEq, false_or]
      cases hbody : decode? body with
      | none =>
          obtain ⟨source, hsource⟩ := readAnswer_of_not_decode? hbody node status
          simp [hsource]
      | some response =>
          rw [readAnswer_of_decode? hbody, response.toResult_topologyChanged_iff]
          simp

/-- The transport fails if no request can be made, or the answer cannot be read. -/
theorem result_transport_iff (last : Sending) (node : NodeId) :
    (∃ source, last.result node = .error (.transport source)) ↔
      (∃ reason, last = .unbuildable reason) ∨ ∃ status body, last = .answered status body ∧
        decode? body = none := by
  cases last with
  | lost => simp [Sending.result]
  | unbuildable => simp [Sending.result]
  | answered status body =>
      rw [exists_answered_iff]
      simp only [Sending.result, reduceCtorEq]
      cases hbody : decode? body with
      | none => simp [readAnswer_of_not_decode? hbody]
      | some response =>
          rw [readAnswer_of_decode? hbody]
          simp [response.toResult_ne_transport]

/-- The node that is named is the one that was asked. -/
theorem namesOnly_of_result (last : Sending) (node : NodeId) {e : DispatchError}
    (h : last.result node = .error e) : e.NamesOnly node := by
  cases last with
  | lost => cases h; rfl
  | unbuildable => cases h; trivial
  | answered status body =>
      cases hbody : decode? body with
      | none =>
          obtain ⟨source, hsource⟩ := readAnswer_of_not_decode? hbody node status
          cases hsource.symm.trans h
          trivial
      | some response =>
          exact response.namesOnly_of_toResult node ((readAnswer_of_decode? hbody node status) ▸ h)

/-- The last attempt is the last request. -/
theorem getLast?_sendings :
    (sendings (trafficOf address request failures last)).getLast? = some last := by
  rw [sendings_trafficOf, List.getLast?_concat]

/-- What holds of a call that a node submits, of what it comes to and of what was done for it, by
the member table of the node. -/
structure Submission (c : Cluster) (target : Node) (call : CallDescriptor) (failover : Failover)
    (result : Except DispatchError Value) (done : Traffic) : Prop where
  /-- For a target that is not alive in the table nothing is done. -/
  gone : c.node? target.id = none → done = []
  /-- For a target that is alive the call is posted to the address that the table has for it. -/
  posted : ∀ n, c.node? target.id = some n → ∃ last,
    Posting n.address ⟨target.id, call⟩ (attemptLimit failover) last done
  /-- The first answer decides, if it can be read. -/
  answered : ∀ status body response,
    (sendings done).find? Sending.isAnswered = some (.answered status body) →
    decode? body = some response → result = response.toResult target.id
  /-- The target counts as gone if it is not alive in the table, if no attempt was answered and the
  last one was lost, or if another node answered. -/
  changed : (∃ node, result = .error (.topologyChanged node)) ↔
    c.node? target.id = none ∨
    ((∀ sending ∈ sendings done, sending.isAnswered = false) ∧
      (sendings done).getLast? = some .lost) ∨
    ∃ status body, (sendings done).find? Sending.isAnswered = some (.answered status body) ∧
      ∃ reported, decode? body = some (.wrongNode reported)
  /-- The transport fails if no attempt was answered and for the last one no request could be made,
  or if the first answer cannot be read. -/
  failed : (∃ source, result = .error (.transport source)) ↔
    ((∀ sending ∈ sendings done, sending.isAnswered = false) ∧
      ∃ reason, (sendings done).getLast? = some (.unbuildable reason)) ∨
    ∃ status body, (sendings done).find? Sending.isAnswered = some (.answered status body) ∧
      decode? body = none
  /-- An error that names a node names the target. -/
  named : ∀ e, result = .error e → e.NamesOnly target.id

variable {c : Cluster} {target n : Node} {call : CallDescriptor} {failover : Failover}

/-- A call to a target that is not alive comes to nothing. -/
theorem submission_of_gone (h : c.node? target.id = none) :
    Submission c target call failover (.error (.topologyChanged target.id)) [] where
  gone _ := rfl
  posted n hn := by rw [h] at hn; cases hn
  answered _ _ _ hfirst := by cases hfirst
  changed := iff_of_true ⟨target.id, rfl⟩ (.inl h)
  failed := by simp [sendings]
  named e he := by cases he; rfl

/-- A call to a target that is alive comes to what came of the last attempt. -/
theorem Attempted.submission (halive : c.node? target.id = some n)
    (h : Attempted 0 (attemptLimit failover - 1) failures last) :
    Submission c target call failover (last.result target.id)
      (trafficOf n.address ⟨target.id, call⟩ failures last) where
  gone hgone := by rw [halive] at hgone; cases hgone
  posted other hother := by
    obtain rfl := Option.some.inj (halive.symm.trans hother)
    exact ⟨last, h.posting⟩
  answered status body response hfirst hbody := by
    rw [h.find?_answered] at hfirst
    split at hfirst
    · obtain rfl := Option.some.inj hfirst
      exact readAnswer_of_decode? hbody target.id status
    · cases hfirst
  changed := by
    rw [result_topologyChanged_iff, h.forall_failed_iff, h.find?_answered, getLast?_sendings]
    cases last <;> simp [halive, Sending.isAnswered]
  failed := by
    rw [result_transport_iff, h.forall_failed_iff, h.find?_answered, getLast?_sendings]
    cases last <;> simp [Sending.isAnswered]
  named _ he := namesOnly_of_result last target.id he

/-- A call to a target that is alive is posted, and comes to what came of that. -/
theorem submit_of_alive (line : Line) (halive : c.node? target.id = some n)
    (call : CallDescriptor) (failover : Failover)
    (hpost : post line.network n.address ⟨target.id, call⟩ (attemptLimit failover) past =
      (last, done)) :
    submit line.network c target call failover past = (last.result target.id, done) := by
  obtain ⟨-, hid⟩ := Cluster.node?_eq_some_iff.1 halive
  rw [submit, halive]
  show ((post line.network n.address ⟨n.id, call⟩ (attemptLimit failover) past).1.result n.id,
    (post line.network n.address ⟨n.id, call⟩ (attemptLimit failover) past).2) = _
  rw [hid, hpost]

/-- A request is posted up to any limit, and a call is submitted with the limit of its mode, as
these rules say, whatever becomes of the requests. -/
theorem submit_governed (line : Line) (c : Cluster) (target : Node) (call : CallDescriptor)
    (failover : Failover) (address : SocketAddress) (request : InvokeRequest) (limit : Nat) :
    Submission c target call failover (submit line.network c target call failover []).1
        (submit line.network c target call failover []).2 ∧
      Posting address request limit (post line.network address request limit []).1
        (post line.network address request limit []).2 := by
  constructor
  · cases halive : c.node? target.id with
    | none =>
        rw [submit, halive]
        exact submission_of_gone halive
    | some n =>
        obtain ⟨failures, last, hpost, hattempted⟩ :=
          exists_post line n.address ⟨target.id, call⟩ (attemptLimit failover)
        rw [submit_of_alive line halive call failover hpost]
        exact hattempted.submission halive
  · obtain ⟨failures, last, hpost, hattempted⟩ := exists_post line address request limit
    rw [hpost]
    exact hattempted.posting

end Http

end ServiceRouting
