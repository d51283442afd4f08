import ServiceRouting.Proofs.Json.Acceptance
import ServiceRouting.Proofs.Transport.Misrouting
import ServiceRouting.Proofs.Wire.PublicAnswers

/-!
# Forwarding what a client sent

A node reads the arguments that a client sends, and posts them to another node if the service runs
there. In the posted call they lie two levels deeper, the text of the call is longer, and their
numbers have been written once more. Arguments in the last two levels above the limit are accepted
from a client and refused by the other node (`deep_not_forwarded`), and so are arguments whose text
fits just so (`long_not_forwarded`); all others arrive, and only a binary64 number may arrive as
another one or make the call unreadable (`demand_forwarded`).
-/

namespace ServiceRouting

open Json (Number Value)

/-- A number that was read is read back, unless it is a binary64 number. -/
theorem Json.Number.Fits.again_eq {n : Number} (h : n.Fits) (hfloat : ∀ bits, n ≠ .float bits) :
    n.again = .ok n := by
  cases n with
  | integer value => exact Number.again_eq_ok_iff.2 (h value rfl).retold
  | float bits => exact absurd rfl (hfloat bits)

/-- What holds of all numbers that are read back holds of numbers that were read if it holds of the
binary64 numbers among them. -/
theorem Json.Number.forall_of_floats {ns : List Number} {p : Number → Prop}
    (hfits : ∀ n ∈ ns, n.Fits) (hback : ∀ n, n.again = .ok n → p n) :
    (∀ n ∈ ns, p n) ↔ ∀ bits, .float bits ∈ ns → p (.float bits) := by
  constructor
  · exact fun h bits hbits => h (.float bits) hbits
  · intro h n hn
    cases n with
    | integer value => exact hback _ ((hfits _ hn).again_eq nofun)
    | float bits => exact h bits hn

namespace Endpoint

/-- What is read from the body of a request is read at the front of its text. -/
theorem readFront_of_readBody {α : Type} {read : Document → Reading α} {request : Request} {a : α}
    (h : readBody read request = .ok a) : Json.readFront read request.body = .ok a := by
  unfold readBody readJson at h
  split at h
  next =>
    split at h
    next => cases h
    next =>
      cases hread : Json.readFront read request.body with
      | ok b =>
          rw [hread] at h
          exact congrArg _ (Except.ok.inj h)
      | error fault =>
          rw [hread] at h
          cases h
  next => cases h

/-- The arguments of an invocation that a client asks for are read from the body. -/
theorem readBody_of_demand {request : Request} {service : ServiceName} {method : String}
    {args : List Value} (h : demand request = .ok (.invoke service method args)) :
    readBody (Document.list Document.value) request = .ok args := by
  unfold demand at h
  split at h
  next => cases h
  next route _ =>
    split at h
    next =>
      cases route with
      | execute =>
          obtain ⟨_, -, h⟩ := exists_of_map_eq_ok h
          cases h
      | topology name =>
          obtain ⟨_, -, h⟩ := exists_of_bind_eq_ok h
          cases h
      | invoke name method =>
          obtain ⟨_, -, h⟩ := exists_of_bind_eq_ok h
          obtain ⟨_, -, h⟩ := exists_of_bind_eq_ok h
          obtain ⟨_, hbody, h⟩ := exists_of_bind_eq_ok h
          cases h
          exact hbody
    next => cases h

end Endpoint

namespace Http

/-- What another node makes of a call whose arguments a client sent. -/
structure Forwarded (request : InvokeRequest) : Prop where
  /-- The client's arguments are nested less deep than the limit. -/
  accepted : Value.itemsDepth request.call.args + 1 < Json.depthLimit
  /-- The call arrives, its numbers read once more, exactly if its text is not too long and the
  numbers are read two levels deeper too. -/
  asked : ∀ asked, Endpoint.demand (posted request) = .ok asked ↔
    IsShort request ∧ Value.itemsDepth request.call.args + 3 < Json.depthLimit ∧
      ∃ args, Value.itemsAgain request.call.args = .ok args ∧
        asked = .execute ⟨request.target, ⟨request.call.service, request.call.method, args⟩⟩
  /-- The same call arrives exactly if the binary64 numbers are read back as well. -/
  same : Endpoint.demand (posted request) = .ok (.execute request) ↔
    IsShort request ∧ Value.itemsDepth request.call.args + 3 < Json.depthLimit ∧
      ∀ bits, .float bits ∈ Value.itemsNumbers request.call.args →
        (Number.float bits).again = .ok (.float bits)
  /-- The call is refused exactly if its text is too long now, its arguments lie too deep now, or a
  binary64 number is not read. -/
  refused : ∀ refusal, Endpoint.demand (posted request) = .error refusal ↔
    refusal = .tooLong ∧ ¬ IsShort request ∨
    refusal = .badSyntax ∧ IsShort request ∧
      (Json.depthLimit ≤ Value.itemsDepth request.call.args + 3 ∨
        ∃ bits, .float bits ∈ Value.itemsNumbers request.call.args ∧
          ∀ m, (Number.float bits).again ≠ .ok m)

/-- A posted call asks for something exactly if it is short and a request is read from its text. -/
theorem demand_posted_iff (request : InvokeRequest) (asked : Endpoint.Demand) :
    Endpoint.demand (posted request) = .ok asked ↔
      IsShort request ∧ ∃ received, request.again = .ok received ∧ asked = .execute received := by
  constructor
  · intro h
    by_cases hshort : IsShort request
    · cases hagain : request.again with
      | error fault =>
          rw [demand_posted_refused hshort hagain] at h
          cases h
      | ok received =>
          rw [demand_posted_again hshort hagain] at h
          exact ⟨hshort, received, rfl, (Except.ok.inj h).symm⟩
    · rw [demand_posted_long hshort] at h
      cases h
  · rintro ⟨hshort, received, hagain, rfl⟩
    exact demand_posted_again hshort hagain

/-- A posted call is refused exactly if it is not short or no request is read from its text. -/
theorem demand_posted_error_iff (request : InvokeRequest) (refusal : Refusal) :
    Endpoint.demand (posted request) = .error refusal ↔
      refusal = .tooLong ∧ ¬ IsShort request ∨
      refusal = .badSyntax ∧ IsShort request ∧ ¬ ∃ received, request.again = .ok received := by
  by_cases hshort : IsShort request
  · cases hagain : request.again with
    | error fault =>
        rw [demand_posted_refused hshort hagain]
        simp [hshort, eq_comm]
    | ok received =>
        rw [demand_posted_again hshort hagain]
        simp [hshort]
  · rw [demand_posted_long hshort]
    simp [hshort, eq_comm]

/-- Whatever a client may ask for, another node that it is forwarded to reads the same call, except
that binary64 numbers may come out as others, that arguments in the last two levels above the limit
lie too deep, and that the text of the call may be too long. -/
theorem demand_forwarded {asking : Request} {service : ServiceName} {method : String}
    {args : List Value} (hdemand : Endpoint.demand asking = .ok (.invoke service method args))
    (target : NodeId) : Forwarded ⟨target, ⟨service, method, args⟩⟩ := by
  have hread : (Value.array args).IsRead Json.depthLimit :=
    Json.isRead_of_readFront (Endpoint.readFront_of_readBody (Endpoint.readBody_of_demand hdemand))
  have hback : Value.itemsAgain args = .ok args ↔
      ∀ bits, .float bits ∈ Value.itemsNumbers args →
        (Number.float bits).again = .ok (.float bits) := by
    rw [Value.itemsAgain_eq_self_iff args hread.ordered]
    exact Number.forall_of_floats hread.fits fun _ => id
  have hsome : (∃ again, Value.itemsAgain args = .ok again) ↔
      ∀ bits, .float bits ∈ Value.itemsNumbers args → ∃ m, (Number.float bits).again = .ok m := by
    rw [Value.exists_itemsAgain_iff]
    exact Number.forall_of_floats hread.fits fun n h => ⟨n, h⟩
  refine ⟨hread.shallow, fun asked => ?_, ?_, fun refusal => ?_⟩
  · rw [demand_posted_iff]
    refine and_congr_right fun _ => ?_
    constructor
    · rintro ⟨received, hagain, rfl⟩
      obtain ⟨hdepth, again, hargs, rfl⟩ := InvokeRequest.again_eq_ok_iff.1 hagain
      exact ⟨hdepth, again, hargs, rfl⟩
    · rintro ⟨hdepth, again, hargs, rfl⟩
      exact ⟨_, InvokeRequest.again_eq_ok_iff.2 ⟨hdepth, again, hargs, rfl⟩, rfl⟩
  · rw [demand_posted_iff, ← hback]
    refine and_congr_right fun _ => ?_
    constructor
    · rintro ⟨received, hagain, ⟨⟩⟩
      obtain ⟨hdepth, again, hargs, heq⟩ := InvokeRequest.again_eq_ok_iff.1 hagain
      cases heq
      exact ⟨hdepth, hargs⟩
    · rintro ⟨hdepth, hargs⟩
      exact ⟨_, InvokeRequest.again_eq_ok_iff.2 ⟨hdepth, args, hargs, rfl⟩, rfl⟩
  · rw [demand_posted_error_iff, InvokeRequest.exists_again_iff, hsome]
    simp only [not_and_or, not_forall, not_exists, exists_prop, Nat.not_lt]

/-- Nested arrays hold no number. -/
theorem numbers_nested (n : Nat) : (nested n).numbers = [] := by
  induction n with
  | zero => rfl
  | succ n ih => simp [nested, Value.numbers, Value.itemsNumbers, ih]

/-- Nested arrays hold no binary64 number and no object. -/
theorem integral_ordered_nested (n : Nat) : (nested n).IsIntegral ∧ (nested n).Ordered := by
  induction n with
  | zero => exact ⟨trivial, trivial⟩
  | succ n ih => exact ⟨⟨ih.1, trivial⟩, ih.2, trivial⟩

/-- Nested arrays are carried by their text below the limit. -/
theorem isPortable_nested {n : Nat} (h : n + 2 < Json.depthLimit) :
    (Value.array [nested n]).IsPortable := by
  obtain ⟨hintegral, hordered⟩ := integral_ordered_nested n
  refine ⟨⟨hintegral, trivial⟩, ⟨hordered, trivial⟩, ?_⟩
  simpa [Value.depth, Value.itemsDepth, depth_nested] using h

/-- The deepest nested arrays that are forwarded to the node `"b"`. -/
theorem demand_forwarded_of_echoing :
    Endpoint.demand (Endpoint.echoing (nested 123)) = .ok (.invoke "echo" "echo" [nested 123]) ∧
    Forwarded ⟨"b", ⟨"echo", "echo", [nested 123]⟩⟩ ∧
    Endpoint.demand (posted ⟨"b", ⟨"echo", "echo", [nested 123]⟩⟩) =
      .ok (.execute ⟨"b", ⟨"echo", "echo", [nested 123]⟩⟩) := by
  have hdemand := Endpoint.demand_echoing (isPortable_nested (n := 123) (by decide))
    (by decide +kernel)
  have hshort : IsShort ⟨"b", ⟨"echo", "echo", [nested 123]⟩⟩ := by decide +kernel
  have hforwarded := demand_forwarded hdemand "b"
  refine ⟨hdemand, hforwarded, hforwarded.same.2 ⟨hshort, ?_, fun bits hbits => ?_⟩⟩
  · simp [Value.itemsDepth, depth_nested, Json.depthLimit]
  · simp [Value.itemsNumbers, numbers_nested] at hbits

/-- An array that is asked for is echoed. -/
theorem echoed_array {items : List Value}
    (hdemand : Endpoint.demand (Endpoint.echoing (.array items)) =
      .ok (.invoke "echo" "echo" [.array items])) :
    Endpoint.echoed (.array items) = Answer.ofInvocation (.ok (.array items)) := by
  rw [Endpoint.echoed, Endpoint.answer, hdemand]
  rfl

/-- A node that runs the service answers a client whose arrays are nested one level deeper, but
refuses the same call when it is forwarded. -/
theorem deep_not_forwarded :
    Endpoint.demand (Endpoint.echoing (nested 124)) = .ok (.invoke "echo" "echo" [nested 124]) ∧
    Endpoint.echoed (nested 124) = Answer.ofInvocation (.ok (nested 124)) ∧
    Endpoint.demand (posted ⟨"a", ⟨"echo", "echo", [nested 124]⟩⟩) = .error .badSyntax ∧
    ¬ ∀ (asking : Request) (service : ServiceName) (method : String) (args : List Value)
      (target : NodeId), Endpoint.demand asking = .ok (.invoke service method args) →
        Endpoint.demand (posted ⟨target, ⟨service, method, args⟩⟩) =
          .ok (.execute ⟨target, ⟨service, method, args⟩⟩) := by
  have hdemand := Endpoint.demand_echoing (isPortable_nested (n := 124) (by decide))
    (by decide +kernel)
  have hechoed : Endpoint.echoed (nested 124) = Answer.ofInvocation (.ok (nested 124)) :=
    echoed_array hdemand
  have hdeep : Json.depthLimit ≤ Value.itemsDepth [nested 124] + 3 := by
    simp [Value.itemsDepth, depth_nested, Json.depthLimit]
  have hshort : IsShort ⟨"a", ⟨"echo", "echo", [nested 124]⟩⟩ := by decide +kernel
  have hrefused : Endpoint.demand (posted ⟨"a", ⟨"echo", "echo", [nested 124]⟩⟩) =
      .error .badSyntax := demand_posted_refused hshort (InvokeRequest.again_eq_error hdeep)
  refine ⟨hdemand, hechoed, hrefused, fun hall => ?_⟩
  rw [hall _ _ _ _ "a" hdemand] at hrefused
  cases hrefused

/-- A text of so many letters. -/
def letters (n : Nat) : String := String.ofList (List.replicate n 'a')

/-- Each letter takes one byte. -/
theorem size_letters (n : Nat) : (letters n).utf8ByteSize = n := by
  induction n with
  | zero => rfl
  | succ n ih =>
      have hlast : letters (n + 1) = letters n ++ "a" := by
        rw [letters, List.replicate_succ', String.ofList_append]
        rfl
      rw [hlast, String.utf8ByteSize_append, ih]
      rfl

/-- Letters are written as they are, between quotes. -/
theorem quotedText_letters (n : Nat) :
    Json.quotedText (letters n) = "\"" ++ letters n ++ "\"" := by
  have hplain : (List.replicate n 'a').flatMap Json.escapedChar = List.replicate n 'a' := by
    induction n with
    | zero => rfl
    | succ n ih =>
        have hfirst : Json.escapedChar 'a' = ['a'] := rfl
        rw [List.replicate_succ, List.flatMap_cons, ih, hfirst]
        rfl
  rw [Json.quotedText, letters, String.toList_ofList, hplain]
  simp [String.ofList_cons, String.ofList_append, String.append_assoc]

/-- A client sends letters between quotes and brackets. -/
theorem size_echoing_letters (n : Nat) :
    (Endpoint.echoing (.string (letters n))).body.utf8ByteSize = n + 4 := by
  have hmarks : ("\"" : String).utf8ByteSize = 1 ∧ ("[" : String).utf8ByteSize = 1 ∧
      ("]" : String).utf8ByteSize = 1 := by decide +kernel
  simp only [Endpoint.echoing, Value.text, Json.itemsText, quotedText_letters,
    String.utf8ByteSize_append, size_letters, hmarks]
  omega

/-- The posted call has the names of the service and the method beside them. -/
theorem not_isShort_letters {n : Nat} (h : Endpoint.bodyLimit ≤ n + 28) :
    ¬ IsShort ⟨"a", ⟨"echo", "echo", [.string (letters n)]⟩⟩ := by
  have hwords : (Json.quotedText "echo").utf8ByteSize = 6 ∧
      (Json.quotedText "method").utf8ByteSize = 8 ∧
      (Json.quotedText "service").utf8ByteSize = 9 := by decide +kernel
  rw [IsShort, InvokeRequest.toValue_eq, CallDescriptor.toValue_eq]
  simp only [Value.text, Json.membersText, Json.itemsText, quotedText_letters,
    String.utf8ByteSize_append, size_letters, hwords]
  omega

/-- A client may send a text that just fits, and the call with the same text does not. -/
theorem long_not_forwarded :
    Endpoint.demand (Endpoint.echoing (.string (letters 2097140))) =
      .ok (.invoke "echo" "echo" [.string (letters 2097140)]) ∧
    Endpoint.demand (posted ⟨"a", ⟨"echo", "echo", [.string (letters 2097140)]⟩⟩) =
      .error .tooLong := by
  have hportable : (Value.array [.string (letters 2097140)]).IsPortable :=
    ⟨⟨trivial, trivial⟩, ⟨trivial, trivial⟩, (by decide : 1 < 128)⟩
  have hshort : (Endpoint.echoing (.string (letters 2097140))).body.utf8ByteSize ≤
      Endpoint.bodyLimit := by
    rw [size_echoing_letters, Endpoint.bodyLimit]
    omega
  have hlong : Endpoint.bodyLimit ≤ 2097140 + 28 := by
    rw [Endpoint.bodyLimit]
    omega
  exact ⟨Endpoint.demand_echoing hportable hshort, demand_posted_long (not_isShort_letters hlong)⟩

end Http

end ServiceRouting
