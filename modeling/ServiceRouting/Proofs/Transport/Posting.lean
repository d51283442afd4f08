import ServiceRouting.Proofs.Json.Rereading
import ServiceRouting.Proofs.Transport.Delivery

/-!
# What a posted call asks of a node

A posted call asks for the call that is read from its text, which is the same call with its
arguments read once more (`InvokeRequest.again`), or it is refused: its text is too long, it is
nested too deep, or an argument cannot be read again. Whatever its arguments are, it is not taken
for a call that is meant for another node (`demand_posted_cases`).
-/

namespace ServiceRouting

open Json (Value)

/-- A call is read from its members as its arguments are. -/
theorem CallDescriptor.ofDocument_mapping (args : Document) (method service : String) :
    ofDocument (.mapping [("args", args), ("method", .string method),
      ("service", .string service)] .closed) =
        (⟨service, method, ·⟩) <$> Document.list Document.value args := by
  cases h : Document.list Document.value args with
  | error fault =>
      simp [ofDocument, Document.record, Document.checkEntries, fields, Document.Field.of, h,
        discard, Functor.discard, Functor.mapConst, Functor.map, Except.map, bind, Except.bind]
  | ok values =>
      simp [ofDocument, Document.record, Document.checkEntries, fields, Document.Field.of, h,
        discard, Functor.discard, Functor.mapConst, Functor.map, Except.map, bind, Except.bind,
        Document.text, Ending.check, Document.Record.required, Table.find?, pure, Except.pure]

namespace InvokeRequest

/-- The text of a request carries it if the arguments of the call can be carried two depths below.
-/
theorem isPortable {request : InvokeRequest} (hintegral : Value.AllIntegral request.call.args)
    (hordered : Value.AllOrdered request.call.args)
    (hdepth : Value.itemsDepth request.call.args + 3 < Json.depthLimit) :
    request.toValue.IsPortable := by
  have hkeys : ["call", "target"].Pairwise (· < ·) := by decide
  have hcallKeys : ["args", "method", "service"].Pairwise (· < ·) := by decide
  rw [toValue_eq, CallDescriptor.toValue_eq]
  refine ⟨⟨⟨hintegral, trivial, trivial, trivial⟩, trivial, trivial⟩, ?_, ?_⟩
  · exact ⟨keysIncrease_of_keys hkeys,
      ⟨keysIncrease_of_keys hcallKeys, hordered, trivial, trivial, trivial⟩, trivial, trivial⟩
  · simp only [Value.depth, Value.membersDepth]
    omega

/-- A request is read from its members as its call is. -/
theorem ofDocument_mapping (call : Document) (target : String) :
    ofDocument (.mapping [("call", call), ("target", .string target)] .closed) =
      (⟨target, ·⟩) <$> CallDescriptor.ofDocument call := by
  cases h : CallDescriptor.ofDocument call with
  | error fault =>
      simp [ofDocument, Document.record, Document.checkEntries, fields, Document.Field.of, h,
        discard, Functor.discard, Functor.mapConst, Functor.map, Except.map, bind, Except.bind]
  | ok descriptor =>
      simp [ofDocument, Document.record, Document.checkEntries, fields, Document.Field.of, h,
        discard, Functor.discard, Functor.mapConst, Functor.map, Except.map, bind, Except.bind,
        Document.text, Ending.check, Document.Record.required, Table.find?, pure, Except.pure]

/-- The request that is read from the text of a request: its arguments are read once more, two
levels below the array that they were. -/
def again (request : InvokeRequest) : Reading InvokeRequest :=
  (⟨request.target, ⟨request.call.service, request.call.method, ·⟩⟩) <$>
    if Value.itemsDepth request.call.args + 3 < Json.depthLimit then
      Value.itemsAgain request.call.args
    else .error .malformed

/-- What is read from the text of a request is this request. -/
theorem ofDocument_retold (request : InvokeRequest) :
    ofDocument (request.toValue.retold Json.depthLimit) = request.again := by
  have hretold : request.toValue.retold Json.depthLimit =
      .mapping [("call", .mapping [("args", (Value.array request.call.args).retold 126),
        ("method", .string request.call.method), ("service", .string request.call.service)]
        .closed), ("target", .string request.target)] .closed := by
    rw [toValue_eq, CallDescriptor.toValue_eq]
    rfl
  have hdepth : Value.itemsDepth request.call.args + 3 < Json.depthLimit ↔
      Value.itemsDepth request.call.args + 1 < 126 := by
    rw [Json.depthLimit]
    omega
  rw [hretold, ofDocument_mapping, CallDescriptor.ofDocument_mapping, Value.list_value_retold,
    ← comp_map, again, if_congr hdepth rfl rfl]
  rfl

variable {request received : InvokeRequest}

/-- From the text of a request the request is read once more. -/
theorem readFront_toValue :
    Json.readFront ofDocument request.toValue.text = request.again := by
  show ofDocument (Json.scan request.toValue.text.toList).found = _
  rw [Json.scan_retold, ofDocument_retold]

/-- A request is read from its text exactly if its arguments are read once more, where they lie. -/
theorem again_eq_ok_iff : request.again = .ok received ↔
    Value.itemsDepth request.call.args + 3 < Json.depthLimit ∧
      ∃ args, Value.itemsAgain request.call.args = .ok args ∧
        received = ⟨request.target, ⟨request.call.service, request.call.method, args⟩⟩ := by
  rw [again]
  split
  next hdepth =>
    constructor
    · intro h
      obtain ⟨args, hargs, rfl⟩ := exists_of_map_eq_ok h
      exact ⟨hdepth, args, hargs, rfl⟩
    · rintro ⟨-, args, hargs, rfl⟩
      rw [hargs]
      rfl
  next hdepth => exact iff_of_false nofun fun h => hdepth h.1

/-- Some request is read exactly if some arguments are. -/
theorem exists_again_iff : (∃ received, request.again = .ok received) ↔
    Value.itemsDepth request.call.args + 3 < Json.depthLimit ∧
      ∃ args, Value.itemsAgain request.call.args = .ok args := by
  constructor
  · rintro ⟨received, h⟩
    obtain ⟨hdepth, args, hargs, -⟩ := again_eq_ok_iff.1 h
    exact ⟨hdepth, args, hargs⟩
  · rintro ⟨hdepth, args, hargs⟩
    exact ⟨_, again_eq_ok_iff.2 ⟨hdepth, args, hargs, rfl⟩⟩

/-- A request whose arguments lie too deep is malformed. -/
theorem again_eq_error (h : Json.depthLimit ≤ Value.itemsDepth request.call.args + 3) :
    request.again = .error .malformed := by
  rw [again, if_neg (Nat.not_lt.2 h)]
  rfl

/-- A request that is not read from its text is malformed. -/
theorem malformed_of_again {fault : Fault} (h : request.again = .error fault) :
    fault = .malformed := by
  rw [again] at h
  split at h
  next =>
    cases hargs : Value.itemsAgain request.call.args with
    | error other =>
        rw [hargs] at h
        cases h
        exact Value.malformed_of_itemsAgain hargs
    | ok args =>
        rw [hargs] at h
        cases h
  next =>
    cases h
    rfl

end InvokeRequest

namespace Http

variable {request : InvokeRequest}

/-- A posted call that is short asks for the request that is read from its text. -/
theorem demand_posted_again {received : InvokeRequest} (hshort : IsShort request)
    (hagain : request.again = .ok received) :
    Endpoint.demand (posted request) = .ok (.execute received) := by
  rw [demand_posted_eq, Endpoint.readJson_of_le hshort, InvokeRequest.readFront_toValue, hagain]
  rfl

/-- A posted call that is short is refused if no request is read from its text. -/
theorem demand_posted_refused {fault : Fault} (hshort : IsShort request)
    (hagain : request.again = .error fault) :
    Endpoint.demand (posted request) = .error .badSyntax := by
  obtain rfl := InvokeRequest.malformed_of_again hagain
  rw [demand_posted_eq, Endpoint.readJson_of_le hshort, InvokeRequest.readFront_toValue, hagain]
  rfl

/-- A posted call is refused, or it asks for a call that is meant for the same node. -/
theorem demand_posted_cases (request : InvokeRequest) :
    (∃ refusal, Endpoint.demand (posted request) = .error refusal) ∨
      ∃ call, Endpoint.demand (posted request) = .ok (.execute ⟨request.target, call⟩) := by
  by_cases hshort : IsShort request
  · cases hagain : request.again with
    | error fault => exact .inl ⟨_, demand_posted_refused hshort hagain⟩
    | ok received =>
        obtain ⟨-, args, -, rfl⟩ := InvokeRequest.again_eq_ok_iff.1 hagain
        exact .inr ⟨_, demand_posted_again hshort hagain⟩
  · exact .inl ⟨_, demand_posted_long hshort⟩

/-- A posted call that is nested too deep is refused. -/
theorem exists_refusal (h : Json.depthLimit ≤ request.toValue.depth) :
    ∃ refusal, Endpoint.demand (posted request) = .error refusal := by
  by_cases hshort : IsShort request
  · refine ⟨_, demand_posted_refused hshort (InvokeRequest.again_eq_error ?_)⟩
    rw [InvokeRequest.toValue_eq, CallDescriptor.toValue_eq] at h
    simp only [Value.depth, Value.membersDepth] at h
    omega
  · exact ⟨_, demand_posted_long hshort⟩

end Http

end ServiceRouting
