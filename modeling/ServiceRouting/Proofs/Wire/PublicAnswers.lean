import ServiceRouting.Endpoint.Answer
import ServiceRouting.Proofs.Json.Records
import ServiceRouting.Proofs.Json.RoundTrip
import ServiceRouting.Service.Builtin

/-!
# Public answers as they are seen

The answer to an invocation holds a value and an error, of which either may be missing, and `null`
is written for what is missing. So a client that reads the answer takes a value `null` for none
(`ServiceInvokeResponse.seen`). Every other answer is read back, and whatever came of an invocation
can be told from the error that the answer holds or does not hold (`answer_seen`). Only a method
that returns `null` looks as if it had returned nothing (`null_unseen`).
-/

namespace ServiceRouting

open Json (Value)
open Document (FieldsAccept MembersTell Reads Shape)

namespace ServiceInvokeResponse

/-- What is seen of a value that may be missing. -/
def seenValue : Value → Option Value
  | .null => none
  | value => some value

/-- An answer as it is seen: a value `null` looks as if it were missing. -/
def seen (r : ServiceInvokeResponse) : ServiceInvokeResponse :=
  ⟨seenValue (.ofOption id r.value), r.error⟩

/-- What is seen of two values is the same only if they are. -/
theorem seenValue_inj {v w : Value} : seenValue v = seenValue w ↔ v = w := by
  constructor
  · intro h
    cases v <;> cases w <;> cases h <;> rfl
  · rintro rfl
    rfl

/-- An answer is seen as it is unless its value is `null`. -/
theorem seen_eq_self_iff (r : ServiceInvokeResponse) : r.seen = r ↔ r.value ≠ some .null := by
  obtain ⟨value, error⟩ := r
  cases value with
  | none => exact iff_of_true rfl nofun
  | some v =>
      cases v with
      | null => exact iff_of_false nofun fun h => h rfl
      | bool | number | string | array | object => exact iff_of_true rfl nofun

/-- The shape of public answers. -/
def shape : Shape := .record [("value", .plain), ("error", .plain)]

/-- The members of an answer by key. -/
theorem toValue_eq (r : ServiceInvokeResponse) :
    r.toValue =
      .object [("error", .ofOption .string r.error), ("value", .ofOption id r.value)] := by
  simp only [toValue, Value.ofMembers, List.foldl_cons, List.foldl_nil, insertSorted,
    String.reduceLT, if_true]

/-- The document of an answer tells it. -/
theorem tells_toValue (r : ServiceInvokeResponse) :
    (Document.ofValue r.toValue).Tells shape r.toValue := by
  rw [toValue_eq]
  exact (MembersTell.cons rfl (Document.tells_ofValue _)
    (.cons rfl (Document.tells_ofValue _) .nil)).tells

/-- Two answers have one JSON form exactly if they are seen alike. -/
theorem toValue_eq_iff (r s : ServiceInvokeResponse) : r.toValue = s.toValue ↔ r.seen = s.seen := by
  have herror : Value.ofOption Value.string r.error = .ofOption .string s.error ↔
      r.error = s.error := by
    cases r.error <;> cases s.error <;> simp [Value.ofOption]
  rw [toValue_eq, toValue_eq]
  simp only [Value.object.injEq, List.cons.injEq, Prod.mk.injEq, true_and, and_true, herror, seen,
    mk.injEq, seenValue_inj]
  exact and_comm

/-- The value of an answer, if there is one, is ordered. -/
def IsOrdered (r : ServiceInvokeResponse) : Prop := ∀ v, r.value = some v → v.Ordered

/-- The value of an answer is read as it is seen. -/
theorem reads_seenValue {v : Value} (h : v.Ordered) :
    Reads .plain (Document.optional Document.value) v (seenValue v) := by
  cases v with
  | null => exact Document.reads_optional_null
  | bool | number | string | array | object =>
      exact Document.reads_optional (Document.reads_value h) nofun

/-- Whatever tells an answer is read as it is seen. -/
theorem reads {r : ServiceInvokeResponse} (h : r.IsOrdered) :
    Reads shape ofDocument r.toValue r.seen := by
  have hvalue : Reads .plain (Document.optional Document.value) (.ofOption id r.value)
      r.seen.value := by
    refine reads_seenValue ?_
    cases hvalue : r.value with
    | none => exact trivial
    | some v => exact h v hvalue
  have herror : Reads .plain (Document.optional Document.text) (.ofOption .string r.error)
      r.error := by
    cases r.error with
    | none => exact Document.reads_optional_null
    | some e => exact Document.reads_optional (Document.reads_text e) nofun
  have hkeys : ["error", "value"].Pairwise (· < ·) := by decide
  have hfields : FieldsAccept fields [("value", .plain), ("error", .plain)]
      [("error", .ofOption .string r.error), ("value", .ofOption id r.value)] :=
    .cons rfl rfl herror (.cons rfl rfl hvalue .nil)
  rw [toValue_eq]
  refine Document.reads_record (keysIncrease_of_keys hkeys) rfl hfields fun found hfinds => ?_
  have hvalue : found.optional "value" Document.value = .ok r.seen.value :=
    hfinds.optional (by simp) rfl hvalue
  have herror : found.optional "error" Document.text = .ok r.error :=
    hfinds.optional (by simp) rfl herror
  simp only [bind, Except.bind, hvalue, herror]
  rfl

/-- How an answer is seen. -/
structure Legible (r : ServiceInvokeResponse) : Prop where
  /-- The JSON form of the answer is read as the answer is seen. -/
  tree : ofDocument (.ofValue r.toValue) = .ok r.seen
  /-- Any document that tells the same, with the fields in any order and with others, is read as the
  answer is seen. -/
  told : Reads shape ofDocument r.toValue r.seen
  /-- The text of the answer is read as the answer is seen, if that carries the JSON form. -/
  text : r.toValue.IsPortable → Json.readText ofDocument r.toValue.text = .ok r.seen
  /-- An answer is seen as itself, unless its value is `null`. -/
  exact : r.seen = r ↔ r.value ≠ some .null
  /-- Answers that are seen alike, and no others, share a JSON form. -/
  shared : ∀ s : ServiceInvokeResponse, s.toValue = r.toValue ↔ s.seen = r.seen

/-- Every answer that a node can give is seen in this way. -/
theorem legible {r : ServiceInvokeResponse} (h : r.IsOrdered) : r.Legible where
  tree := reads h _ r.tells_toValue
  told := reads h
  text hportable := Json.readText_text hportable (reads h _ r.tells_toValue)
  exact := r.seen_eq_self_iff
  shared s := s.toValue_eq_iff r

end ServiceInvokeResponse

namespace Endpoint

open ServiceInvokeResponse (seenValue)

variable {m : Type → Type} [Monad m] {Handler : Type}

/-- A client sees what came of an invocation, and whether it succeeded, except that it sees a value
`null` as none. Every other answer that could be given it reads as it is. -/
theorem answer_seen [LawfulMonad m] (run : Handler → List Value → m Outcome) (localId : NodeId)
    (r : Registry Handler)
    (invoke : ServiceName → String → List Value → m (Except InvocationError Value))
    {request : Request} {service : ServiceName} {method : String} {args : List Value}
    (hdemand : demand request = .ok (.invoke service method args)) :
    answer run localId r invoke request = Answer.ofInvocation <$> invoke service method args ∧
    (∀ v : Value, v.Ordered → ∃ response : ServiceInvokeResponse,
      Answer.ofInvocation (.ok v) = ⟨200, some response.toValue⟩ ∧ response.Legible ∧
      response.seen = ⟨seenValue v, none⟩ ∧ (seenValue v = some v ↔ v ≠ .null)) ∧
    (∀ e, ∃ response : ServiceInvokeResponse,
      Answer.ofInvocation (.error e) = ⟨e.status, some response.toValue⟩ ∧ response.Legible ∧
      response.seen = ⟨none, some e.fullText⟩) ∧
    ∀ response : ServiceInvokeResponse, response.IsOrdered → response.Legible := by
  refine ⟨?_, fun v hv => ?_, fun e => ?_, fun _ h => ServiceInvokeResponse.legible h⟩
  · rw [answer, hdemand, map_eq_pure_bind]
  · have hordered : ServiceInvokeResponse.IsOrdered ⟨some v, none⟩ := by
      rintro _ ⟨⟩
      exact hv
    refine ⟨⟨some v, none⟩, rfl, ServiceInvokeResponse.legible hordered, rfl, ?_⟩
    cases v with
    | null => exact iff_of_false nofun fun h => h rfl
    | bool | number | string | array | object => exact iff_of_true rfl nofun
  · exact ⟨⟨none, some e.fullText⟩, rfl, ServiceInvokeResponse.legible nofun, rfl⟩

/-- A node that runs the service `echo`. -/
def echoNode : Registry Builtin :=
  (Builtin.service? id "echo").elim (.ofNode "a") (Registry.ofNode "a").deploy

/-- What a client sends to have a value echoed. -/
def echoing (v : Value) : Request where
  method := "POST"
  path := "/service/echo/echo"
  contentType := some "application/json"
  body := (Value.array [v]).text

/-- What a client gets who has a value echoed. -/
def echoed (v : Value) : Answer :=
  answer (m := Id) Builtin.run "a" echoNode
    (fun service method args =>
      Execution.executeLocal Builtin.run echoNode "a" ⟨service, method, args⟩)
    (echoing v)

/-- The echo of a value is demanded, if the text of the request carries it and is not too long. -/
theorem demand_echoing {v : Value} (h : (Value.array [v]).IsPortable)
    (hshort : (echoing v).body.utf8ByteSize ≤ bodyLimit) :
    demand (echoing v) = .ok (.invoke "echo" "echo" [v]) := by
  have hname : readName "echo" = .ok "echo" := by
    have hdecoded : decodePart "echo" = some "echo" := by decide +kernel
    rw [readName, hdecoded]
  have hbody : readBody (Document.list Document.value) (echoing v) = .ok [v] := by
    have htype : (echoing v).contentType.any isJson = true := rfl
    have hordered : ∀ arg ∈ [v], arg.Ordered := Value.allOrdered_iff.1 h.ordered
    have hread : Json.readFront (Document.list Document.value) (echoing v).body = .ok [v] :=
      Json.readFront_text h (Document.reads_values hordered _ (Document.tells_ofValue _))
    rw [readBody, if_pos htype, readJson_of_le hshort, hread]
    rfl
  have hpath : (echoing v).path = "/service/echo/echo" := rfl
  have hroute : (parts? "/service/echo/echo").bind Route.ofParts? =
      some (.invoke "echo" "echo") := rfl
  have hmethod : (Route.invoke "echo" "echo").methods.contains (echoing v).method = true := rfl
  rw [demand, hpath, hroute]
  simp only [hmethod, if_true, Route.demand, hname, hbody, bind, Except.bind]
  rfl

/-- The echo of a number is seen. -/
theorem answer_seen_of_echo :
    demand (echoing (.ofNat 7)) = .ok (.invoke "echo" "echo" [.ofNat 7]) ∧
    Value.Ordered (.ofNat 7) ∧
    echoed (.ofNat 7) = Answer.ofInvocation (.ok (.ofNat 7)) ∧
    ∃ response : ServiceInvokeResponse,
      Answer.ofInvocation (.ok (.ofNat 7)) = ⟨200, some response.toValue⟩ ∧ response.Legible ∧
      response.seen = ⟨some (.ofNat 7), none⟩ := by
  have hportable : (Value.array [.ofNat 7]).IsPortable := by
    refine ⟨?_, ⟨trivial, trivial⟩, by decide⟩
    simp [Value.ofNat, Value.ofInt, Value.IsIntegral, Value.AllIntegral, Json.Number.IsInteger]
  have hdemand := demand_echoing hportable (by decide +kernel)
  obtain ⟨hanswer, hvalue, -, -⟩ := answer_seen (m := Id) Builtin.run "a" echoNode
    (fun service method args =>
      Execution.executeLocal Builtin.run echoNode "a" ⟨service, method, args⟩) hdemand
  obtain ⟨response, hresponse, hlegible, hseen, -⟩ := hvalue (.ofNat 7) trivial
  exact ⟨hdemand, trivial, hanswer, response, hresponse, hlegible, hseen⟩

/-- The echo of `null` is seen as no value: the body is that of an answer without a value. -/
theorem null_unseen :
    demand (echoing .null) = .ok (.invoke "echo" "echo" [.null]) ∧
    echoed .null = Answer.ofInvocation (.ok .null) ∧
    Answer.ofInvocation (.ok .null) =
      ⟨200, some (ServiceInvokeResponse.toValue ⟨some .null, none⟩)⟩ ∧
    ServiceInvokeResponse.toValue ⟨some .null, none⟩ =
      ServiceInvokeResponse.toValue ⟨none, none⟩ ∧
    ServiceInvokeResponse.ofDocument
      (.ofValue (ServiceInvokeResponse.toValue ⟨some .null, none⟩)) = .ok ⟨none, none⟩ ∧
    ¬ ∀ response : ServiceInvokeResponse, response.IsOrdered →
      ServiceInvokeResponse.ofDocument (.ofValue response.toValue) = .ok response := by
  have hportable : (Value.array [.null]).IsPortable :=
    ⟨⟨trivial, trivial⟩, ⟨trivial, trivial⟩, by decide⟩
  have hdemand := demand_echoing hportable (by decide +kernel)
  have hread : ServiceInvokeResponse.ofDocument
      (.ofValue (ServiceInvokeResponse.toValue ⟨some .null, none⟩)) = .ok ⟨none, none⟩ := rfl
  have hechoed : echoed .null = Answer.ofInvocation (.ok .null) := by
    rw [echoed, answer, hdemand]
    rfl
  refine ⟨hdemand, hechoed, rfl, rfl, hread, fun hall => ?_⟩
  have hback := hall ⟨some .null, none⟩ (by rintro _ ⟨⟩; exact trivial)
  rw [hread] at hback
  cases hback

end Endpoint

end ServiceRouting
