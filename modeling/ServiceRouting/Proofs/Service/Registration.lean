import Mathlib.Data.List.Dedup
import Mathlib.Data.List.Forall2
import Mathlib.Data.List.Nodup
import ServiceRouting.Proofs.Histories
import ServiceRouting.Service.Instance

/-!
# Registrations and what lookups find

What a service makes of a call after any registrations, some of which replace others and some of
which match the same calls. Read `Service.Dispatches` first. Methods are kept in no particular
order, so it is stated of a service that has the methods of the registrations in any order.
-/

namespace ServiceRouting

open Json (Value)

universe u

namespace Signature

/-- A registered signature matches that of a call: one name, as many kinds, and at every place one
kind, unless the registered one is any. -/
structure Matches (registered call : Signature) : Prop where
  name : registered.name = call.name
  kinds : List.Forall₂ (fun parameter actual => parameter = .any ∨ parameter = actual)
    registered.kinds call.kinds

/-- The parameters of a signature take these arguments: they are as many, and of their kinds. -/
def Takes (signature : Signature) (args : List Value) : Prop :=
  List.Forall₂ (fun parameter arg => parameter = .any ∨ parameter = .of arg) signature.kinds args

variable {registered call signature : Signature}

/-- Parameters accept one by one the arguments whose kinds agree with theirs. -/
theorem acceptAll_iff (parameters actuals : List ArgKind) : acceptAll parameters actuals = true ↔
    List.Forall₂ (fun parameter actual => parameter = .any ∨ parameter = actual) parameters
      actuals := by
  induction parameters generalizing actuals with
  | nil =>
      cases actuals with
      | nil => simp [acceptAll]
      | cons actual rest => simp [acceptAll]
  | cons parameter parameters ih =>
      cases actuals with
      | nil => simp [acceptAll]
      | cons actual rest => simp [acceptAll, ArgKind.accepts, ih]

/-- The signatures that serve a call are those that match its own. -/
theorem serves_iff : registered.serves call = true ↔ registered.Matches call := by
  rw [serves, Bool.and_eq_true, decide_eq_true_eq, acceptAll_iff]
  exact ⟨fun h => ⟨h.1, h.2⟩, fun h => ⟨h.name, h.kinds⟩⟩

/-- A signature matches itself. -/
theorem Matches.refl (signature : Signature) : signature.Matches signature :=
  ⟨rfl, List.forall₂_same.2 fun _ _ => .inr rfl⟩

/-- A signature that matches that of a call takes its arguments. -/
theorem Matches.takes {name : String} {args : List Value}
    (h : signature.Matches (.ofCall name args)) : signature.name = name ∧ signature.Takes args :=
  ⟨h.name, List.forall₂_map_right_iff.1 h.kinds⟩

end Signature

namespace Service

variable {Handler : Type u}

/-- The handler that registrations leave under a signature, the last one registered under it. -/
def LastUnder (registrations : List (Signature × Handler)) (signature : Signature)
    (handler : Handler) : Prop :=
  ∃ later, KeptSince (fun method => method.1 ≠ signature) registrations (signature, handler) later

/-- A service dispatches calls as registrations say. -/
structure Dispatches (s : Service Handler) (registrations : List (Signature × Handler)) : Prop where
  /-- A service keeps under every signature the handler registered last under it. -/
  keeps : ∀ signature handler, (signature, handler) ∈ s.methods ↔
    LastUnder registrations signature handler
  /-- A call finds a handler exactly if a registered signature matches it. -/
  finds : ∀ call, (∃ handler, s.lookup call = some handler) ↔
    ∃ method ∈ registrations, method.1.Matches call
  /-- A call that is itself registered finds the handler registered last under it. -/
  exact : ∀ call handler, call ∈ registrations.map (·.1) → s.lookup call = some handler →
    LastUnder registrations call handler
  /-- A call that is not itself registered finds the handler registered last under some signature
  that matches it. -/
  matching : ∀ call handler, call ∉ registrations.map (·.1) → s.lookup call = some handler →
    ∃ signature, signature.Matches call ∧ LastUnder registrations signature handler
  /-- Every signature counts once. -/
  count : s.methodCount = (registrations.map (·.1)).dedup.length

variable {s : Service Handler} {registrations : List (Signature × Handler)}
  {method : Signature × Handler} {call signature : Signature} {handler : Handler}

/-- Methods are registered in two parts as they are in one. -/
theorem registerAll_append (s : Service Handler) (first second : List (Signature × Handler)) :
    s.registerAll (first ++ second) = (s.registerAll first).registerAll second :=
  List.foldl_append ..

/-- Registering a method adds its signature, unless it is registered already. -/
theorem signatures_register (s : Service Handler) (signature : Signature) (handler : Handler) :
    (s.register signature handler).signatures =
      if signature ∈ s.signatures then s.signatures else s.signatures ++ [signature] := by
  obtain ⟨name, methods⟩ := s
  show (registerIn signature handler methods).map (·.1) =
    if signature ∈ methods.map (·.1) then methods.map (·.1) else methods.map (·.1) ++ [signature]
  induction methods with
  | nil => rfl
  | cons method rest ih =>
      obtain ⟨first, kept⟩ := method
      rw [registerIn]
      by_cases hfirst : first = signature
      · rw [if_pos hfirst, List.map_cons, List.map_cons, if_pos (by simp [hfirst]), hfirst]
      · have hmem : signature ∈ first :: rest.map (·.1) ↔ signature ∈ rest.map (·.1) := by
          simp [Ne.symm hfirst]
        rw [if_neg hfirst, List.map_cons, List.map_cons, ih, if_congr hmem rfl rfl]
        split <;> rfl

/-- Signatures stay apart when a method is registered. -/
theorem nodup_signatures_register (h : s.signatures.Nodup) (signature : Signature)
    (handler : Handler) : (s.register signature handler).signatures.Nodup := by
  rw [signatures_register]
  split
  next => exact h
  next hnew =>
    exact List.nodup_append.2 ⟨h, List.nodup_singleton signature, fun a ha b hb heq =>
      hnew (List.mem_singleton.1 hb ▸ heq ▸ ha)⟩

/-- The signatures of a service are apart, since all methods come from registrations. -/
theorem nodup_signatures_registerAll (h : s.signatures.Nodup)
    (methods : List (Signature × Handler)) : (s.registerAll methods).signatures.Nodup := by
  induction methods generalizing s with
  | nil => exact h
  | cons method rest ih => exact ih (nodup_signatures_register h method.1 method.2)

/-- Methods with one signature are one method. -/
theorem eq_of_signature_eq (h : s.signatures.Nodup) {a b : Signature × Handler}
    (ha : a ∈ s.methods) (hb : b ∈ s.methods) (heq : a.1 = b.1) : a = b :=
  List.inj_on_of_nodup_map h ha hb heq

/-- Registering a method replaces the one under its signature and leaves the others. -/
theorem mem_registerIn {methods : List (Signature × Handler)} (h : (methods.map (·.1)).Nodup) :
    method ∈ registerIn signature handler methods ↔
      method = (signature, handler) ∨ method ∈ methods ∧ method.1 ≠ signature := by
  induction methods with
  | nil => simp [registerIn]
  | cons first rest ih =>
      obtain ⟨hfirst, hrest⟩ := List.nodup_cons.1 h
      rw [registerIn]
      split
      next heq =>
        -- The signature stands here, so it stands nowhere behind.
        have hapart : ∀ m ∈ rest, m.1 ≠ signature := fun m hm hsame =>
          hfirst (List.mem_map.2 ⟨m, hm, hsame.trans heq.symm⟩)
        have hkept : method ∈ first :: rest ∧ method.1 ≠ signature ↔ method ∈ rest := by
          constructor
          · rintro ⟨hmem, hne⟩
            refine (List.mem_cons.1 hmem).resolve_left fun hm => hne ?_
            rw [hm, heq]
          · exact fun hmem => ⟨List.mem_cons_of_mem _ hmem, hapart method hmem⟩
        rw [List.mem_cons, hkept]
      next hne =>
        have hkept : method ∈ first :: rest ∧ method.1 ≠ signature ↔
            method = first ∨ method ∈ rest ∧ method.1 ≠ signature := by
          rw [List.mem_cons]
          constructor
          · rintro ⟨hm | hm, hother⟩
            · exact .inl hm
            · exact .inr ⟨hm, hother⟩
          · rintro (rfl | ⟨hm, hother⟩)
            · exact ⟨.inl rfl, hne⟩
            · exact ⟨.inr hm, hother⟩
        rw [List.mem_cons, ih hrest, hkept]
        exact or_left_comm

/-- After one more registration a handler is the last one under its signature if it was just
registered there, or if it was the last one before and another signature got a handler. -/
theorem lastUnder_concat : LastUnder (registrations ++ [method]) signature handler ↔
    method = (signature, handler) ∨
      LastUnder registrations signature handler ∧ method.1 ≠ signature := by
  constructor
  · rintro ⟨later, hlater⟩
    obtain ⟨rfl, -⟩ | ⟨earlier, -, hearlier, hne⟩ := keptSince_concat.1 hlater
    · exact .inl rfl
    · exact .inr ⟨⟨earlier, hearlier⟩, hne⟩
  · rintro (rfl | ⟨⟨earlier, hearlier⟩, hne⟩)
    · exact ⟨[], keptSince_concat.2 (.inl ⟨rfl, rfl⟩)⟩
    · exact ⟨earlier ++ [method], keptSince_concat.2 (.inr ⟨earlier, rfl, hearlier, hne⟩)⟩

/-- A service keeps the handlers registered last under their signatures. -/
theorem mem_methods_iff (name : ServiceName) (registrations : List (Signature × Handler)) :
    method ∈ ((ofName name).registerAll registrations).methods ↔
      LastUnder registrations method.1 method.2 := by
  induction registrations using List.reverseRecOn with
  | nil =>
      exact iff_of_false List.not_mem_nil fun ⟨_, hlater⟩ => not_keptSince_nil hlater
  | append_singleton registrations last ih =>
      have hnodup : ((ofName name).registerAll registrations).signatures.Nodup :=
        nodup_signatures_registerAll (s := ofName name) List.nodup_nil registrations
      rw [registerAll_append, lastUnder_concat]
      exact (mem_registerIn hnodup).trans (or_congr eq_comm (and_congr ih ne_comm))

/-- A service has the signatures that were registered. -/
theorem mem_signatures_registerAll (s : Service Handler)
    (registrations : List (Signature × Handler)) :
    signature ∈ (s.registerAll registrations).signatures ↔
      signature ∈ s.signatures ∨ signature ∈ registrations.map (·.1) := by
  induction registrations generalizing s with
  | nil => simp [registerAll]
  | cons first rest ih =>
      show signature ∈ ((s.register first.1 first.2).registerAll rest).signatures ↔ _
      rw [ih, signatures_register, List.map_cons, List.mem_cons]
      split
      next hknown => grind
      next => simp [or_assoc]

/-- A lookup of a registered signature finds the handler kept there. -/
theorem lookup_of_mem (hnodup : s.signatures.Nodup) (h : (call, handler) ∈ s.methods) :
    s.lookup call = some handler := by
  have hfound : s.methods.find? (·.1 = call) = some (call, handler) := by
    cases hfind : s.methods.find? (·.1 = call) with
    | none => simpa using List.find?_eq_none.1 hfind _ h
    | some found =>
        have hsame : found.1 = call := by simpa using List.find?_some hfind
        rw [eq_of_signature_eq hnodup (List.mem_of_find?_eq_some hfind) h hsame]
  rw [lookup, hfound]

/-- A lookup finds a handler kept under a signature that matches the call. -/
theorem exists_of_lookup (h : s.lookup call = some handler) :
    ∃ signature, (signature, handler) ∈ s.methods ∧ signature.Matches call := by
  unfold lookup at h
  cases hexact : s.methods.find? (·.1 = call) with
  | some found =>
      rw [hexact] at h
      obtain rfl := Option.some.inj h
      have hsame : found.1 = call := by simpa using List.find?_some hexact
      exact ⟨found.1, List.mem_of_find?_eq_some hexact, hsame ▸ .refl call⟩
  | none =>
      rw [hexact] at h
      obtain ⟨found, hfound, rfl⟩ := Option.map_eq_some_iff.1 h
      exact ⟨found.1, List.mem_of_find?_eq_some hfound,
        Signature.serves_iff.1 (by simpa using List.find?_some hfound)⟩

/-- A call that a kept signature matches finds a handler. -/
theorem exists_lookup (hmem : method ∈ s.methods) (hmatches : method.1.Matches call) :
    ∃ handler, s.lookup call = some handler := by
  unfold lookup
  cases s.methods.find? (·.1 = call) with
  | some found => exact ⟨found.2, rfl⟩
  | none =>
      cases hserving : s.methods.find? (·.1.serves call) with
      | some found => exact ⟨found.2, rfl⟩
      | none =>
          exact absurd (Signature.serves_iff.2 hmatches) (List.find?_eq_none.1 hserving _ hmem)

/-- What lookups find, over all registrations and all orders of the methods. -/
theorem dispatches {name : ServiceName}
    (h : s.methods.Perm ((ofName name).registerAll registrations).methods) :
    s.Dispatches registrations := by
  have hsignatures : s.signatures.Perm ((ofName name).registerAll registrations).signatures :=
    h.map _
  have hnodup : s.signatures.Nodup := hsignatures.nodup_iff.2
    (nodup_signatures_registerAll (s := ofName name) List.nodup_nil registrations)
  have hkeeps : ∀ signature handler, (signature, handler) ∈ s.methods ↔
      LastUnder registrations signature handler := fun signature handler =>
    h.mem_iff.trans (mem_methods_iff name registrations)
  have hmem : ∀ signature, signature ∈ s.signatures ↔ signature ∈ registrations.map (·.1) := by
    intro signature
    rw [hsignatures.mem_iff, mem_signatures_registerAll]
    exact or_iff_right List.not_mem_nil
  refine ⟨hkeeps, fun call => ⟨?_, ?_⟩, fun call handler hcall hfound => ?_,
    fun call handler _ hfound => ?_, ?_⟩
  · rintro ⟨handler, hfound⟩
    obtain ⟨signature, hmethod, hmatches⟩ := exists_of_lookup hfound
    obtain ⟨registered, hregistered, rfl⟩ :=
      List.mem_map.1 ((hmem signature).1 (List.mem_map_of_mem hmethod))
    exact ⟨registered, hregistered, hmatches⟩
  · rintro ⟨registered, hregistered, hmatches⟩
    obtain ⟨kept, hkept, hsame⟩ :=
      List.mem_map.1 ((hmem registered.1).2 (List.mem_map_of_mem hregistered))
    exact exists_lookup hkept (hsame ▸ hmatches)
  · obtain ⟨kept, hkept, rfl⟩ := List.mem_map.1 ((hmem call).2 hcall)
    obtain rfl := Option.some.inj ((lookup_of_mem hnodup hkept).symm.trans hfound)
    exact (hkeeps _ _).1 hkept
  · obtain ⟨signature, hmethod, hmatches⟩ := exists_of_lookup hfound
    exact ⟨signature, hmatches, (hkeeps _ _).1 hmethod⟩
  · have hsame : s.signatures.Perm (registrations.map (·.1)).dedup :=
      (List.perm_ext_iff_of_nodup hnodup (List.nodup_dedup _)).2 fun signature =>
        (hmem signature).trans List.mem_dedup.symm
    rw [methodCount, ← hsame.length_eq, signatures, List.length_map]

end Service

end ServiceRouting
