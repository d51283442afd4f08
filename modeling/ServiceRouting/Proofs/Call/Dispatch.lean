import ServiceRouting.Endpoint.Answer
import ServiceRouting.Proofs.Cluster.Views
import ServiceRouting.Proofs.Invocation.Once
import ServiceRouting.Proofs.Service.Registration
import ServiceRouting.Service.Builtin

/-!
# Handlers and their arguments

A handler trusts the arguments that it is run with: one that was registered for two numbers takes
two numbers from its list. `dispatch_guarded` says that it may. Wherever a call is run, on the node
of its caller or on one that receives it, a handler runs only after a look at a registry that
offers it for the arguments of the call; read `RunsOffered` first. So the built-in methods always
give a value.
-/

namespace ServiceRouting

open Json (Value)

universe u

/-- A registry offers a handler for a call: the service runs on its node, and keeps the handler
under a signature with the name of the method, whose parameters take the arguments. -/
def Registry.Offers {Handler : Type u} (r : Registry Handler) (call : CallDescriptor)
    (handler : Handler) : Prop :=
  ∃ service signature, r.handle? call.service = some service ∧
    (signature, handler) ∈ service.methods ∧ signature.name = call.method ∧
    signature.Takes call.args

section Lookups

variable {Handler : Type u} {r : Registry Handler} {node : NodeId} {call : CallDescriptor}
  {handler : Handler}

/-- A handler that a service finds for a call is offered for it. -/
theorem Registry.offers_of_lookup {service : Service Handler}
    (hservice : r.handle? call.service = some service)
    (h : service.lookup call.signature = some handler) : r.Offers call handler := by
  obtain ⟨signature, hmem, hmatches⟩ := Service.exists_of_lookup h
  obtain ⟨hname, htakes⟩ := hmatches.takes
  exact ⟨service, signature, hservice, hmem, hname, htakes⟩

/-- A call made on the node itself finds a handler that is offered. -/
theorem Execution.offers_of_findLocal (h : findLocal r node call = .ok handler) :
    r.Offers call handler := by
  unfold findLocal at h
  split at h
  next => cases h
  next service hservice =>
    split at h
    next => cases h
    next found hfound =>
      cases h
      exact Registry.offers_of_lookup hservice hfound

/-- A received call finds a handler that is offered. -/
theorem Execution.offers_of_findReceived (h : findReceived r node call = .ok handler) :
    r.Offers call handler := by
  unfold findReceived at h
  split at h
  next => cases h
  next service hservice =>
    split at h
    next => cases h
    next found hfound =>
      cases h
      exact Registry.offers_of_lookup hservice hfound

/-- A call received over HTTP finds a handler that is offered. -/
theorem Endpoint.offers_of_findReceived {request : InvokeRequest}
    (h : findReceived node r request = .ok handler) : r.Offers request.call handler := by
  unfold findReceived at h
  split at h
  next =>
    split at h
    next found hfound =>
      cases h
      exact Execution.offers_of_findReceived hfound
    next => cases h
  next => cases h

/-- A call handed over within the process finds a handler that is offered by a registry attached
there. -/
theorem InProcess.offers_of_find {t : InProcess} {registries : List (Registry Handler)}
    {target : Node} (h : t.find registries target call = .ok handler) :
    ∃ r, (t.attached.get? target.id).bind (registries[·]?) = some r ∧ r.Offers call handler := by
  unfold find at h
  split at h
  next => cases h
  next r hr => exact ⟨r, hr, Execution.offers_of_findReceived h⟩

end Lookups

namespace Invocation

variable {Handler : Type}

/-- In an account every handler runs with the arguments of the call, after a look at a registry that
offers it; `consulted` says which registries are looked at after which account. -/
def RunsOffered (call : CallDescriptor)
    (consulted : List (Deed Handler) → Registry Handler → Prop) (deeds : List (Deed Handler)) :
    Prop :=
  ∀ past handler args outcome, past ++ [.ran handler args outcome] <+: deeds →
    args = call.args ∧ ∃ before r, before <+: past ∧ consulted before r ∧ r.Offers call handler

/-- The registries that an invocation looks at whose transport is the one within the process: that
of its proxy, and those attached under the nodes. -/
def Answers.Consults (answers : Answers Handler)
    (world : List (Deed Handler) → InProcess × List (Registry Handler))
    (past : List (Deed Handler)) (r : Registry Handler) : Prop :=
  answers.registry past = r ∨
    ∃ id, ((world past).1.attached.get? id).bind ((world past).2[·]?) = some r

variable {answers : Answers Handler} {p : Proxy} {call : CallDescriptor}
  {consulted : List (Deed Handler) → Registry Handler → Prop} {deeds : List (Deed Handler)}

namespace RunsOffered

/-- No handler runs in the empty account. -/
theorem nil (call : CallDescriptor) (consulted : List (Deed Handler) → Registry Handler → Prop) :
    RunsOffered call consulted [] := fun _ _ _ _ h =>
  absurd (List.prefix_nil.1 h) (List.append_ne_nil_of_right_ne_nil _ (List.cons_ne_nil _ _))

/-- One more deed keeps handlers offered, if the handler that it runs, if any, is offered. -/
theorem concat {deed : Deed Handler} (h : RunsOffered call consulted deeds)
    (hdeed : ∀ handler args outcome, deed = .ran handler args outcome → args = call.args ∧
      ∃ before r, before <+: deeds ∧ consulted before r ∧ r.Offers call handler) :
    RunsOffered call consulted (deeds ++ [deed]) := by
  intro past handler args outcome hprefix
  rcases List.prefix_concat_iff.1 hprefix with heq | hearlier
  · obtain ⟨rfl, hlast⟩ := List.append_inj' heq rfl
    exact hdeed handler args outcome (List.head_eq_of_cons_eq hlast).symm
  · exact h past handler args outcome hearlier

/-- A handler may run after a look at a registry that offers it. -/
theorem ran {before : List (Deed Handler)} {r : Registry Handler} {handler : Handler}
    (h : RunsOffered call consulted deeds) (hbefore : before <+: deeds)
    (hconsulted : consulted before r) (hoffers : r.Offers call handler) (outcome : Outcome) :
    RunsOffered call consulted (deeds ++ [.ran handler call.args outcome]) := by
  refine h.concat fun other args result heq => ?_
  cases heq
  exact ⟨rfl, before, r, hbefore, hconsulted, hoffers⟩

variable (submit : Node → CallDescriptor → Failover → Account Handler (Except DispatchError Value))

/-- An attempt runs a handler on the local node after a look at the registry there, or leaves the
call to the transport. -/
theorem attempt (hlocal : ∀ past, consulted past (answers.registry past))
    (hsubmit : ∀ target failover past, RunsOffered call consulted past →
      RunsOffered call consulted (submit target call failover past).2)
    (localId : NodeId) (n : Node) (h : RunsOffered call consulted deeds) :
    RunsOffered call consulted
      (({ answers.site with submit } : CallSite _ Handler).attempt localId call n deeds).2 := by
  by_cases hid : n.id = localId
  · cases hfound : Execution.findLocal (answers.registry deeds) n.id call with
    | error e =>
        rw [Answers.attempt_of_missing _ hid hfound]
        exact h.concat nofun
    | ok handler =>
        rw [Answers.attempt_of_found _ hid hfound]
        have hlooked : RunsOffered call consulted (deeds ++ [.found (.ok handler)]) :=
          h.concat nofun
        exact hlooked.ran (List.prefix_append _ _) (hlocal deeds)
          (Execution.offers_of_findLocal hfound) _
  · rw [Answers.attempt_of_other _ hid]
    exact hsubmit n .disabled deeds h

/-- Over its whole course an invocation runs handlers as its attempts do. -/
theorem run (hlocal : ∀ past, consulted past (answers.registry past))
    (hsubmit : ∀ target failover past, RunsOffered call consulted past →
      RunsOffered call consulted (submit target call failover past).2) (fuel : Nat) :
    RunsOffered call consulted ((answers.environment p
      (({ answers.site with submit } : CallSite _ Handler).attempt p.selector.localId call)).run
        fuel .start []).2 := by
  refine Answers.run_preserves (motive := fun past _ => RunsOffered call consulted past)
    (fun past i hlast h => ?_) fuel (.nil call consulted)
  obtain ⟨stage, pauses⟩ := i
  cases stage with
  | reading =>
      cases hsticky : p.isSticky with
      | false => rwa [Answers.advance_reading _ _ _ _ _ hsticky]
      | true =>
          rw [Answers.advance_reading_sticky _ _ _ _ _ hsticky]
          exact h.concat nofun
  | selecting =>
      rw [Answers.advance_selecting]
      exact h.concat nofun
  | installing fresh =>
      rw [Answers.advance_installing]
      exact h.concat nofun
  | calling target =>
      rw [Answers.advance_calling]
      exact h.attempt submit hlocal hsubmit p.selector.localId target.node
  | clearing failed =>
      rw [Answers.advance_clearing]
      exact h.concat nofun
  | pausing =>
      rw [Answers.advance_pausing]
      exact h.concat nofun
  | finished result => cases hlast

end RunsOffered

/-- Whatever becomes of the calls that an invocation hands to the transport, on its own node it runs
what the registry there offers. -/
theorem runsOffered_invoke (answers : Answers Handler) (p : Proxy) (method : String)
    (args : List Value) (fuel : Nat) :
    RunsOffered ⟨p.name, method, args⟩ (fun past r => answers.registry past = r)
      (answers.invoke p method args fuel).2 :=
  .run answers.site.submit (fun _ => rfl) (fun _ _ _ h => h.concat nofun) fuel

/-- With the transport within the process the other nodes, too, run what their registries offer. -/
theorem runsOffered_invokeWithin (answers : Answers Handler)
    (world : List (Deed Handler) → InProcess × List (Registry Handler)) (p : Proxy)
    (method : String) (args : List Value) (fuel : Nat) :
    RunsOffered ⟨p.name, method, args⟩ (answers.Consults world)
      (answers.invokeWithin world p method args fuel).2 := by
  refine .run _ (fun _ => .inl rfl) (fun target failover past h => ?_) fuel
  cases hfound : (world past).1.find (world past).2 target ⟨p.name, method, args⟩ with
  | error e => rwa [Answers.submit_of_missing hfound]
  | ok handler =>
      obtain ⟨r, hr, hoffers⟩ := InProcess.offers_of_find hfound
      rw [Answers.submit_of_found hfound]
      exact h.ran (List.prefix_refl past) (.inr ⟨target.id, hr⟩) hoffers _

/-- A node that receives a call runs what its registry offers. -/
theorem runsOffered_execute (answers : Answers Handler) (localId : NodeId) (r : Registry Handler)
    (request : InvokeRequest) :
    RunsOffered request.call (fun _ consulted => r = consulted)
      (Endpoint.execute answers.site.run localId r request []).2 := by
  have hnone :=
    RunsOffered.nil request.call fun (_ : List (Deed Handler)) consulted => r = consulted
  cases hfound : Endpoint.findReceived localId r request with
  | error response => simpa only [Endpoint.execute, hfound, pure_apply] using hnone
  | ok handler =>
      simp only [Endpoint.execute, hfound, Answers.site, ask, bind_apply, pure_apply]
      exact hnone.ran (List.prefix_refl []) rfl (Endpoint.offers_of_findReceived hfound) _

end Invocation

/-- A number parameter takes nothing but numbers. -/
theorem ArgKind.exists_number {arg : Value} (h : number = any ∨ number = .of arg) :
    ∃ n, arg = .number n := by
  rcases h with h | h
  · cases h
  · cases arg with
    | number n => exact ⟨n, rfl⟩
    | null | bool | string | array | object => cases h

namespace Builtin

variable {Handler : Type}

/-- The methods of a service find built-in ones for calls only if these give a value: each call
finds one of `others`, or a built-in method that succeeds with its arguments. -/
def SucceedIn (wrap : Builtin → Handler) (others : List (Signature × Handler))
    (s : Service Handler) : Prop :=
  ∀ method args handler, s.lookup (.ofCall method args) = some handler →
    handler ∈ others.map (·.2) ∨
      ∃ builtin value, handler = wrap builtin ∧ builtin.run args = .ok value

variable {name : ServiceName} {methods : List (Signature × Builtin)}

/-- Every method of a built-in service gives a value for the arguments that its signature takes. -/
theorem exists_run (h : methods? name = some methods) {signature : Signature} {builtin : Builtin}
    (hmem : (signature, builtin) ∈ methods) {args : List Value} (htakes : signature.Takes args) :
    ∃ value, builtin.run args = .ok value := by
  unfold methods? at h
  split at h <;> cases h <;> cases List.mem_singleton.1 hmem
  · exact ⟨_, rfl⟩
  · -- The signature takes two arguments, which are numbers.
    obtain ⟨first, rest, hfirst, hrest, rfl⟩ := List.forall₂_cons_left_iff.1 htakes
    obtain ⟨second, none, hsecond, hnone, rfl⟩ := List.forall₂_cons_left_iff.1 hrest
    obtain ⟨a, rfl⟩ := ArgKind.exists_number hfirst
    obtain ⟨b, rfl⟩ := ArgKind.exists_number hsecond
    exact ⟨_, rfl⟩

/-- Built-in methods succeed in their service, whatever is registered there besides, also under
their own signatures. -/
theorem succeedIn {wrap : Builtin → Handler} {service s : Service Handler}
    {others : List (Signature × Handler)} (hservice : service? wrap name = some service)
    (h : s.methods.Perm (service.registerAll others).methods) : SucceedIn wrap others s := by
  obtain ⟨methods, hmethods, rfl⟩ := Option.map_eq_some_iff.1 hservice
  rw [← Service.registerAll_append] at h
  intro method args handler hfound
  obtain ⟨signature, hmem, hmatches⟩ := Service.exists_of_lookup hfound
  obtain ⟨later, ⟨before, hbefore⟩, -⟩ := ((Service.dispatches h).keeps _ _).1 hmem
  -- The handler was registered: with the service or later.
  have hregistered : (signature, handler) ∈
      (methods.map fun m => (m.1, wrap m.2)) ++ others := by
    rw [hbefore]
    exact List.mem_append_right _ List.mem_cons_self
  rcases List.mem_append.1 hregistered with hbuiltin | hother
  · obtain ⟨⟨_, builtin⟩, hmethod, heq⟩ := List.mem_map.1 hbuiltin
    cases heq
    obtain ⟨value, hrun⟩ := exists_run hmethods hmethod hmatches.takes.2
    exact .inr ⟨builtin, value, rfl, hrun⟩
  · exact .inl (List.mem_map_of_mem hother)

end Builtin

namespace Invocation

variable {Handler : Type}

/-- A service dispatches calls exactly as its methods were registered, in whatever order they are
kept. So handlers run only with arguments that their signatures take, on the node of the caller and
on every node that receives a call; and built-in methods never fail. -/
theorem dispatch_guarded (name : ServiceName) (registrations : List (Signature × Handler))
    (s : Service Handler)
    (h : s.methods.Perm ((Service.ofName name).registerAll registrations).methods)
    (answers : Answers Handler) (world : List (Deed Handler) → InProcess × List (Registry Handler))
    (p : Proxy) (method : String) (args : List Value) (fuel : Nat) (localId : NodeId)
    (r : Registry Handler) (request : InvokeRequest) (wrap : Builtin → Handler) :
    s.Dispatches registrations ∧
    RunsOffered ⟨p.name, method, args⟩ (fun past r => answers.registry past = r)
      (answers.invoke p method args fuel).2 ∧
    RunsOffered ⟨p.name, method, args⟩ (answers.Consults world)
      (answers.invokeWithin world p method args fuel).2 ∧
    RunsOffered request.call (fun _ consulted => r = consulted)
      (Endpoint.execute answers.site.run localId r request []).2 ∧
    ∀ builtin service others, Builtin.service? wrap builtin = some service →
      s.methods.Perm (service.registerAll others).methods → Builtin.SucceedIn wrap others s :=
  ⟨Service.dispatches h, runsOffered_invoke answers p method args fuel,
    runsOffered_invokeWithin answers world p method args fuel,
    runsOffered_execute answers localId r request,
    fun _ _ _ hservice hmethods => Builtin.succeedIn hservice hmethods⟩

/-- Registrations of one service: the last handler replaces the first, and the one between matches
some of the same calls. -/
def echoing : List (Signature × Builtin) :=
  [(⟨"echo", [.any]⟩, .add), (⟨"echo", [.string]⟩, .add), (⟨"echo", [.any]⟩, .echo)]

/-- The service with these methods, kept in another order than they were registered. -/
def echoService : Service Builtin :=
  ⟨"echo", [(⟨"echo", [.string]⟩, .add), (⟨"echo", [.any]⟩, .echo)]⟩

/-- The registry of the only node, which runs the service. -/
def echoRegistry : Registry Builtin := (Registry.ofNode "a").deploy echoService

/-- A world that keeps to this node. -/
def atHome : Answers Builtin where
  held _ := none
  select _ := some ⟨0, .ofId "a"⟩
  install _ fresh := fresh
  registry _ := echoRegistry
  outcome _ builtin args := builtin.run args
  submit _ target _ _ := .error (.topologyChanged target.id)
  pause _ _ := .interrupted

/-- A proxy of the service there. -/
def echoProxy : Proxy := .make (.ofNode (.ofId "a")) "echo" (.all []) 0 {} ⟨0, []⟩

/-- A call that two of the registrations match finds the handler of the second, and an invocation
runs it with the argument. -/
theorem dispatch_guarded_of_echoing :
    echoService.methods.Perm ((Service.ofName "echo").registerAll echoing).methods ∧
    echoService.Dispatches echoing ∧
    echoService.lookup (.ofCall "echo" [.null]) = some .echo ∧
    (atHome.invoke echoProxy "echo" [.null] 3).2 =
      [.selected (some ⟨0, .ofId "a"⟩), .found (.ok .echo), .ran .echo [.null] (.ok .null)] ∧
    echoRegistry.Offers ⟨"echo", "echo", [.null]⟩ .echo := by
  have hmethods : echoService.methods.Perm
      ((Service.ofName "echo").registerAll echoing).methods := List.Perm.swap _ _ _
  obtain ⟨hdispatches, hruns, -⟩ := dispatch_guarded "echo" echoing echoService hmethods atHome
    (fun _ => (.empty, [])) echoProxy "echo" [.null] 3 "a" echoRegistry
    ⟨"a", ⟨"echo", "echo", [.null]⟩⟩ id
  refine ⟨hmethods, hdispatches, rfl, rfl, ?_⟩
  obtain ⟨-, _, r, -, rfl, hoffers⟩ :=
    hruns [.selected (some ⟨0, .ofId "a"⟩), .found (.ok .echo)] .echo [.null] (.ok .null)
      (List.prefix_refl _)
  exact hoffers

end Invocation

end ServiceRouting
