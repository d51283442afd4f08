import Mathlib.Data.List.Find
import ServiceRouting.Endpoint.Answer
import ServiceRouting.Proofs.Cluster.Views
import ServiceRouting.Proofs.Service.Registration
import ServiceRouting.Proxy.Attempt
import ServiceRouting.Transport.InProcess

/-!
# Location transparency

A call that its own node runs and a call that another node receives find their handler, run it and
report its failure apart from each other. `transparent` says that the caller cannot tell them apart:
where both nodes run the same methods, the values agree, and errors agree up to how a chain of
causes is kept, which its full text does not show.

Methods are kept in no particular order, so the same methods may be searched in another order on the
other node. This matters to nobody who makes a call that a single method serves.
-/

namespace ServiceRouting

open Json (Value)

universe u

namespace Service

variable {Handler : Type u} {s s' : Service Handler} {call : Signature}

/-- A call that one method serves: it is registered under the very signature of the call, or no
other method serves the call as well. -/
def IsUnambiguous (s : Service Handler) (call : Signature) : Prop :=
  call ∈ s.signatures ∨
    ∀ a ∈ s.signatures, ∀ b ∈ s.signatures, a.serves call = true → b.serves call = true → a = b

/-- An unambiguous call finds one handler, in whatever order the methods are kept. -/
theorem lookup_of_perm (hkeys : s.signatures.Nodup) (hsame : s.methods.Perm s'.methods)
    (hcall : s.IsUnambiguous call) : s.lookup call = s'.lookup call := by
  have hexact : s.methods.find? (·.1 = call) = s'.methods.find? (·.1 = call) := by
    refine List.find?_eq_find?_of_perm hsame fun a ha b hb => ?_
    have hacall : a.1 = call := of_decide_eq_true ha.2
    have hbcall : b.1 = call := of_decide_eq_true hb.2
    exact eq_of_signature_eq hkeys ha.1 hb.1 (hacall.trans hbcall.symm)
  unfold lookup
  rw [← hexact]
  cases hfound : s.methods.find? (·.1 = call) with
  | some method => rfl
  | none =>
      -- Without an exact signature the call is served by one method at most.
      have habsent : call ∉ s.signatures := by
        rintro hmem
        obtain ⟨method, hmethod, rfl⟩ := List.mem_map.1 hmem
        simpa using List.find?_eq_none.1 hfound method hmethod
      have hone := hcall.resolve_left habsent
      have hserving : s.methods.find? (·.1.serves call) = s'.methods.find? (·.1.serves call) := by
        refine List.find?_eq_find?_of_perm hsame fun a ha b hb => ?_
        exact eq_of_signature_eq hkeys ha.1 hb.1
          (hone _ (List.mem_map_of_mem ha.1) _ (List.mem_map_of_mem hb.1) ha.2 hb.2)
      rw [hserving]

end Service

/-- A single error is its own full text. -/
theorem ErrorChain.fullText_single (message : String) :
    ErrorChain.fullText ⟨message, []⟩ = message := rfl

/-- Results that a caller cannot tell apart: the same value, the same missing method, or failures of
the method with the same full text. -/
inductive Corresponding : Except InvocationError Value → Except InvocationError Value → Prop where
  | value (v : Value) : Corresponding (.ok v) (.ok v)
  | methodNotFound (service : ServiceName) (method : Signature) :
      Corresponding (.error (.methodNotFound service method))
        (.error (.methodNotFound service method))
  | failed (source source' : ErrorChain) :
      source.fullText = source'.fullText →
      Corresponding (.error (.failed source)) (.error (.failed source'))

namespace Corresponding

variable {result result' : Except InvocationError Value}

/-- Corresponding results are reported by one answer, status and text. -/
theorem answer_eq (h : Corresponding result result') :
    Answer.ofInvocation result = Answer.ofInvocation result' := by
  cases h with
  | value v => rfl
  | methodNotFound service method => rfl
  | failed source source' htext =>
      show Answer.mk 500 (some (ServiceInvokeResponse.toValue ⟨none, some source.fullText⟩)) =
        Answer.mk 500 (some (ServiceInvokeResponse.toValue ⟨none, some source'.fullText⟩))
      rw [htext]

/-- Errors that correspond have the same status and are not tried again. -/
theorem error_eq {e e' : InvocationError} (h : Corresponding (.error e) (.error e')) :
    e.isRetryable = false ∧ e'.isRetryable = false ∧ e.status = e'.status := by
  cases h with
  | methodNotFound service method => exact ⟨rfl, rfl, rfl⟩
  | failed source source' htext => exact ⟨rfl, rfl, rfl⟩

end Corresponding

variable {Handler : Type}

namespace Execution

variable {run : Handler → List Value → Outcome} {r r' : Registry Handler} {s s' : Service Handler}
  {call : CallDescriptor}

/-- What a handler makes of a call corresponds to what a node reports of it that received it. -/
theorem corresponding_result (outcome : Outcome) :
    Corresponding (localResult outcome) (InvocationError.ofResult (receivedResult outcome)) := by
  cases outcome with
  | ok value => exact .value value
  | error source => exact .failed source _ (ErrorChain.fullText_single _).symm

/-- Nodes that find one handler for a call, or none, give corresponding results. -/
theorem corresponding_execute (hdeployed : r.handle? call.service = some s)
    (hdeployed' : r'.handle? call.service = some s')
    (hlookup : s.lookup call.signature = s'.lookup call.signature) (node node' : NodeId) :
    Corresponding (executeLocal run r node call)
      (InvocationError.ofResult (execute run r' node' call)) := by
  have hfind : findLocal r node call =
      match s.lookup call.signature with
      | none => .error (.methodNotFound call.service call.signature)
      | some handler => .ok handler := by
    rw [findLocal, hdeployed]
    rfl
  have hfind' : findReceived r' node' call =
      match s.lookup call.signature with
      | none => .error (.methodNotFound call.service call.signature)
      | some handler => .ok handler := by
    rw [findReceived, hdeployed', hlookup]
    rfl
  rw [executeLocal, execute, hfind, hfind']
  cases s.lookup call.signature with
  | none => exact .methodNotFound call.service call.signature
  | some handler => exact corresponding_result (run handler call.args)

end Execution

namespace CallSite

/-- What a node makes attempts with where nothing else happens: handlers are functions of their
arguments, its own registry is `r`, and the others are reached within the process. -/
def still (m : Type → Type) [Monad m] (run : Handler → List Value → Outcome) (r : Registry Handler)
    (t : InProcess) (registries : List (Registry Handler)) : CallSite m Handler where
  find id call := pure (Execution.findLocal r id call)
  run handler args := pure (run handler args)
  submit target call _ :=
    InProcess.submit (pure (t, registries)) (fun handler args => pure (run handler args)) target
      call

variable {m : Type → Type} [Monad m] [LawfulMonad m] {run : Handler → List Value → Outcome}
  {r r' : Registry Handler} {t : InProcess} {registries : List (Registry Handler)}
  {localId : NodeId} {n : Node} {call : CallDescriptor}

/-- An attempt on the local node runs the call there. -/
theorem attempt_here (h : n.id = localId) :
    (still m run r t registries).attempt localId call n =
      pure (Execution.executeLocal run r n.id call) := by
  rw [attempt, Attempt.of, if_pos h]
  simp only [still, pure_bind, Execution.executeLocal]
  cases Execution.findLocal r n.id call with
  | error e => rfl
  | ok handler => rfl

/-- An attempt on another node runs the call on the registry that is attached there. -/
theorem attempt_there (h : n.id ≠ localId)
    (hattached : (t.attached.get? n.id).bind (registries[·]?) = some r') :
    (still m run r t registries).attempt localId call n =
      pure (InvocationError.ofResult (Execution.execute run r' n.id call)) := by
  rw [attempt, Attempt.of, if_neg h]
  simp only [still, InProcess.submit, pure_bind, InProcess.find, hattached, Execution.execute]
  cases Execution.findReceived r' n.id call with
  | error e => simp only [Execution.serve, pure_bind]
  | ok handler => simp only [Execution.serve, pure_bind]

/-- An attempt of an unambiguous call on the local node and one on another node that runs the same
methods give corresponding results: the caller sees the same value, the same missing method or the
same text, tries neither again, and reports both alike. -/
theorem transparent (run : Handler → List Value → Outcome) (r r' : Registry Handler)
    (t : InProcess) (registries : List (Registry Handler)) (localId : NodeId) (here there : Node)
    (call : CallDescriptor) (s s' : Service Handler) (hhere : here.id = localId)
    (hthere : there.id ≠ localId) (hdeployed : r.handle? call.service = some s)
    (hattached : (t.attached.get? there.id).bind (registries[·]?) = some r')
    (hdeployed' : r'.handle? call.service = some s') (hkeys : s.signatures.Nodup)
    (hsame : s.methods.Perm s'.methods) (hcall : s.IsUnambiguous call.signature) :
    ∃ result result',
      (still m run r t registries).attempt localId call here = pure result ∧
      (still m run r t registries).attempt localId call there = pure result' ∧
      Corresponding result result' ∧
      Answer.ofInvocation result = Answer.ofInvocation result' ∧
      ∀ e e', result = .error e → result' = .error e' →
        e.isRetryable = e'.isRetryable ∧ e.status = e'.status := by
  have hlookup := Service.lookup_of_perm hkeys hsame hcall
  have hcorresponding : Corresponding (Execution.executeLocal run r here.id call)
      (InvocationError.ofResult (Execution.execute run r' there.id call)) :=
    Execution.corresponding_execute hdeployed hdeployed' hlookup here.id there.id
  refine ⟨_, _, attempt_here hhere, attempt_there hthere hattached, hcorresponding,
    hcorresponding.answer_eq, ?_⟩
  intro e e' he he'
  rw [he, he'] at hcorresponding
  obtain ⟨hretryable, hretryable', hstatus⟩ := hcorresponding.error_eq
  exact ⟨hretryable.trans hretryable'.symm, hstatus⟩

/-- Methods of a service: one that fails for any argument, one that succeeds. -/
def stockMethods : List (Signature × Bool) := [(⟨"take", [.any]⟩, false), (⟨"count", []⟩, true)]

/-- What the stock methods make of their arguments. -/
def runStock : Bool → List Value → Outcome
  | true, _ => .ok .null
  | false, _ => .error ⟨"nothing taken", ["shelf is empty"]⟩

/-- A service with the stock methods. -/
def stock (methods : List (Signature × Bool)) : Service Bool :=
  (Service.ofName "stock").registerAll methods

/-- A failure with a cause is the same failure on another node, where its full text is its
message. -/
theorem transparent_of_cause :
    let call : CallDescriptor := ⟨"stock", "take", [.bool true]⟩
    let r : Registry Bool := (Registry.ofNode "a").deploy (stock stockMethods)
    let r' : Registry Bool := (Registry.ofNode "b").deploy (stock stockMethods.reverse)
    let site := still Id runStock r (InProcess.empty.attach "b" 0) [r']
    (stock stockMethods).signatures.Nodup ∧
    (stock stockMethods).methods.Perm (stock stockMethods.reverse).methods ∧
    (stock stockMethods).IsUnambiguous call.signature ∧
    Corresponding (site.attempt "a" call (.ofId "a"))
      (site.attempt "a" call (.ofId "b")) ∧
    site.attempt "a" call (.ofId "a") =
      .error (.failed ⟨"nothing taken", ["shelf is empty"]⟩) ∧
    site.attempt "a" call (.ofId "b") =
      .error (.failed ⟨"nothing taken: shelf is empty", []⟩) := by
  intro call r r' site
  have hkeys : (stock stockMethods).signatures.Nodup :=
    Service.nodup_signatures_registerAll (s := .ofName "stock") List.nodup_nil stockMethods
  have hsame : (stock stockMethods).methods.Perm (stock stockMethods.reverse).methods :=
    List.Perm.swap _ _ _
  have hcall : (stock stockMethods).IsUnambiguous call.signature := .inr (by decide)
  refine ⟨hkeys, hsame, hcall, ?_, rfl, rfl⟩
  obtain ⟨result, result', hresult, hresult', hcorresponding, _⟩ :=
    transparent (m := Id) runStock r r' (InProcess.empty.attach "b" 0) [r'] "a"
      (.ofId "a") (.ofId "b") call (stock stockMethods) (stock stockMethods.reverse)
      rfl (by decide) rfl rfl rfl hkeys hsame hcall
  cases hresult
  cases hresult'
  exact hcorresponding

end CallSite

end ServiceRouting
