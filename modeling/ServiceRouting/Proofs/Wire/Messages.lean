import ServiceRouting.Proofs.Json.Records
import ServiceRouting.Wire.Response

/-!
# Calls and their answers read back

Whatever tells the JSON form of a request is read as that request (`InvokeRequest.reads`), and
likewise for an answer (`InvokeResponse.reads`). So the fields of these records, and of those in
them, may come in any order and with unknown ones between them. An answer is looked at as a whole
before its status is known; what it holds is read from what is left then.
-/

namespace ServiceRouting

open Json (Value)
open Document (FieldsAccept MembersTell Reads Shape)

/-- The name of a kind is read as the kind. -/
theorem ArgKind.reads (kind : ArgKind) : Reads .plain ofDocument kind.toValue kind := by
  intro d h
  cases h
  have hname : (Document.string kind.text).name = .ok kind.text := rfl
  rw [ofDocument, hname]
  simp only [bind, Except.bind, ofText?_text]
  rfl

namespace Signature

/-- The shape of signatures. -/
def shape : Shape := .record [("name", .plain), ("arg_kinds", .plain)]

/-- The members of a signature by key. -/
theorem toValue_eq (s : Signature) :
    s.toValue =
      .object [("arg_kinds", .array (s.kinds.map ArgKind.toValue)), ("name", .string s.name)] := by
  simp only [toValue, Value.ofMembers, Value.ofList, List.foldl_cons, List.foldl_nil, insertSorted,
    String.reduceLT, if_true]

/-- The document of a signature tells it. -/
theorem tells_toValue (s : Signature) : (Document.ofValue s.toValue).Tells shape s.toValue := by
  rw [toValue_eq]
  exact (MembersTell.cons rfl (Document.tells_ofValue _) (.cons rfl (.string _) .nil)).tells

/-- A signature is read back. -/
theorem reads (s : Signature) : Reads shape ofDocument s.toValue s := by
  have hkinds : Reads .plain (Document.list ArgKind.ofDocument)
      (.array (s.kinds.map ArgKind.toValue)) s.kinds :=
    Document.reads_list fun kind _ => kind.reads
  have hname := Document.reads_text s.name
  have hkeys : ["arg_kinds", "name"].Pairwise (· < ·) := by decide
  have hfields : FieldsAccept fields [("name", .plain), ("arg_kinds", .plain)]
      [("arg_kinds", .array (s.kinds.map ArgKind.toValue)), ("name", .string s.name)] :=
    .cons rfl rfl hkinds (.cons rfl rfl hname .nil)
  rw [toValue_eq]
  refine Document.reads_record (keysIncrease_of_keys hkeys) rfl hfields fun r hfinds => ?_
  have hname : r.required "name" Document.text = .ok s.name := hfinds.required (by simp) rfl hname
  have hkinds : r.required "arg_kinds" (Document.list ArgKind.ofDocument) = .ok s.kinds :=
    hfinds.required (by simp) rfl hkinds
  simp only [bind, Except.bind, hname, hkinds]
  rfl

end Signature

namespace CallDescriptor

/-- The shape of calls. -/
def shape : Shape := .record [("service", .plain), ("method", .plain), ("args", .plain)]

/-- The members of a call by key. -/
theorem toValue_eq (c : CallDescriptor) :
    c.toValue =
      .object [("args", .array c.args), ("method", .string c.method),
        ("service", .string c.service)] := by
  simp only [toValue, Value.ofMembers, List.foldl_cons, List.foldl_nil, insertSorted,
    String.reduceLT, if_true]

/-- The document of a call tells it. -/
theorem tells_toValue (c : CallDescriptor) :
    (Document.ofValue c.toValue).Tells shape c.toValue := by
  rw [toValue_eq]
  exact (MembersTell.cons rfl (Document.tells_ofValue _)
    (.cons rfl (.string _) (.cons rfl (.string _) .nil))).tells

/-- A call is read back, if its arguments are ordered. -/
theorem reads {c : CallDescriptor} (hargs : ∀ arg ∈ c.args, arg.Ordered) :
    Reads shape ofDocument c.toValue c := by
  have hargs := Document.reads_values hargs
  have hmethod := Document.reads_text c.method
  have hservice := Document.reads_text c.service
  have hkeys : ["args", "method", "service"].Pairwise (· < ·) := by decide
  have hfields : FieldsAccept fields [("service", .plain), ("method", .plain), ("args", .plain)]
      [("args", .array c.args), ("method", .string c.method), ("service", .string c.service)] :=
    .cons rfl rfl hargs (.cons rfl rfl hmethod (.cons rfl rfl hservice .nil))
  rw [toValue_eq]
  refine Document.reads_record (keysIncrease_of_keys hkeys) rfl hfields fun r hfinds => ?_
  have hservice : r.required "service" Document.text = .ok c.service :=
    hfinds.required (by simp) rfl hservice
  have hmethod : r.required "method" Document.text = .ok c.method :=
    hfinds.required (by simp) rfl hmethod
  have hargs : r.required "args" (Document.list Document.value) = .ok c.args :=
    hfinds.required (by simp) rfl hargs
  simp only [bind, Except.bind, hservice, hmethod, hargs]
  rfl

end CallDescriptor

namespace InvokeRequest

/-- The shape of requests. -/
def shape : Shape := .record [("target", .plain), ("call", CallDescriptor.shape)]

/-- The members of a request by key. -/
theorem toValue_eq (r : InvokeRequest) :
    r.toValue = .object [("call", r.call.toValue), ("target", .string r.target)] := by
  simp only [toValue, Value.ofMembers, List.foldl_cons, List.foldl_nil, insertSorted,
    String.reduceLT, if_true]

/-- The document of a request tells it. -/
theorem tells_toValue (r : InvokeRequest) :
    (Document.ofValue r.toValue).Tells shape r.toValue := by
  rw [toValue_eq]
  exact (MembersTell.cons rfl r.call.tells_toValue (.cons rfl (.string _) .nil)).tells

/-- The arguments in an ordered request are ordered. -/
theorem ordered_args {request : InvokeRequest} (h : request.toValue.Ordered) :
    ∀ arg ∈ request.call.args, arg.Ordered := by
  rw [toValue_eq] at h
  have hcall : request.call.toValue.Ordered := h.2.1
  rw [CallDescriptor.toValue_eq] at hcall
  have hargs : (Value.array request.call.args).Ordered := hcall.2.1
  exact Value.allOrdered_iff.1 hargs

/-- A request is read back, if the arguments of its call are ordered. -/
theorem reads {request : InvokeRequest} (hargs : ∀ arg ∈ request.call.args, arg.Ordered) :
    Reads shape ofDocument request.toValue request := by
  have hcall := CallDescriptor.reads hargs
  have htarget := Document.reads_text request.target
  have hkeys : ["call", "target"].Pairwise (· < ·) := by decide
  have hfields : FieldsAccept fields [("target", .plain), ("call", CallDescriptor.shape)]
      [("call", request.call.toValue), ("target", .string request.target)] :=
    .cons rfl rfl hcall (.cons rfl rfl htarget .nil)
  rw [toValue_eq]
  refine Document.reads_record (keysIncrease_of_keys hkeys) rfl hfields fun r hfinds => ?_
  have htarget : r.required "target" Document.text = .ok request.target :=
    hfinds.required (by simp) rfl htarget
  have hcall : r.required "call" CallDescriptor.ofDocument = .ok request.call :=
    hfinds.required (by simp) rfl hcall
  simp only [bind, Except.bind, htarget, hcall]
  rfl

end InvokeRequest

namespace InvokeResponse

/-- The shapes of what an answer holds beside its status. -/
def contentShapes : InvokeResponse → List (String × Shape)
  | ok _ => [("value", .plain)]
  | serviceNotFound _ => [("service", .plain)]
  | methodNotFound .. => [("service", .plain), ("method", Signature.shape)]
  | wrongNode _ => [("node", .plain)]
  | failed _ => [("message", .plain)]

/-- The shape of answers with the status of this one. -/
def shape (r : InvokeResponse) : Shape := .record (("status", .plain) :: r.contentShapes)

/-- The status is known in the shape of every answer. -/
theorem field?_status (r : InvokeResponse) : r.shape.field? "status" = some .plain :=
  rfl

/-- What is known beside the status is what the answer holds. -/
theorem field?_of_ne (r : InvokeResponse) {key : String} (h : key ≠ "status") :
    r.shape.field? key = (Shape.record r.contentShapes).field? key :=
  if_neg h

/-- The document of an answer tells it. -/
theorem tells_toValue (r : InvokeResponse) :
    (Document.ofValue r.toValue).Tells r.shape r.toValue := by
  cases r <;>
    simp only [toValue, members, Value.ofMembers, List.foldl_cons, List.foldl_nil, insertSorted,
      String.reduceLT, String.reduceEq, if_true, if_false]
  case ok value =>
    exact (MembersTell.cons rfl (.string _) (.cons rfl (Document.tells_ofValue value) .nil)).tells
  case methodNotFound service method =>
    exact (MembersTell.cons rfl method.tells_toValue
      (.cons rfl (.string _) (.cons rfl (.string _) .nil))).tells
  case serviceNotFound | wrongNode | failed =>
    exact (MembersTell.cons rfl (.string _) (.cons rfl (.string _) .nil)).tells

/-- An answer with one field is read from it. -/
theorem reads_ofField {α : Type} {name : String} {inner : Shape} {read : Document → Reading α}
    {v : Value} {a : α} (make : α → InvokeResponse) (h : Reads inner read v a) :
    Reads (.record [(name, inner)]) (ofField name read make) (.object [(name, v)]) (make a) := by
  have hfind : [Document.Field.of name read].find? (·.name = name) = some (.of name read) :=
    List.find?_cons_of_pos (decide_eq_true rfl)
  have hinner : Table.find? name [(name, inner)] = some inner := if_pos rfl
  refine Document.reads_record (List.pairwise_singleton _ _) rfl (.cons hfind hinner h .nil)
    fun r hfinds => ?_
  have hvalue : r.required name read = .ok a := hfinds.required (by simp) hinner h
  rw [hvalue]
  rfl

/-- The value that an answer carries, if it carries any, is ordered. -/
def IsOrdered : InvokeResponse → Prop
  | ok value => value.Ordered
  | _ => True

/-- An answer whose JSON form is ordered carries no other value. -/
theorem isOrdered_of_toValue {response : InvokeResponse} (h : response.toValue.Ordered) :
    response.IsOrdered := by
  cases response with
  | ok value =>
      have hmembers : (ok value).toValue =
          .object [("status", .string "ok"), ("value", value)] := by
        simp only [toValue, members, statusWord, Value.ofMembers, List.foldl_cons, List.foldl_nil,
          insertSorted, String.reduceLT, String.reduceEq, if_false]
      rw [hmembers] at h
      exact h.2.2.1
  | serviceNotFound | methodNotFound | wrongNode | failed => exact trivial

/-- What stands beside the status is read as the answer. -/
theorem reads_ofContent {response : InvokeResponse} (h : response.IsOrdered) :
    Reads (.record response.contentShapes) (ofContent response.statusWord)
      (.ofMembers response.members) response := by
  cases response with
  | ok value => exact reads_ofField ok (Document.reads_value h)
  | serviceNotFound service => exact reads_ofField serviceNotFound (Document.reads_text service)
  | wrongNode node => exact reads_ofField wrongNode (Document.reads_text node)
  | failed message => exact reads_ofField failed (Document.reads_text message)
  | methodNotFound service method =>
      have hservice := Document.reads_text service
      have hmethod := method.reads
      have hmembers : Value.ofMembers (methodNotFound service method).members =
          .object [("method", method.toValue), ("service", .string service)] := by
        simp only [members, Value.ofMembers, List.foldl_cons, List.foldl_nil, insertSorted,
          String.reduceLT, if_true]
      have hkeys : ["method", "service"].Pairwise (· < ·) := by decide
      have hfields : FieldsAccept [.of "service" Document.text, .of "method" Signature.ofDocument]
          [("service", .plain), ("method", Signature.shape)]
          [("method", method.toValue), ("service", .string service)] :=
        .cons rfl rfl hmethod (.cons rfl rfl hservice .nil)
      rw [hmembers]
      refine Document.reads_record (keysIncrease_of_keys hkeys) rfl hfields fun r hfinds => ?_
      have hservice : r.required "service" Document.text = .ok service :=
        hfinds.required (by simp) rfl hservice
      have hmethod : r.required "method" Signature.ofDocument = .ok method :=
        hfinds.required (by simp) rfl hmethod
      simp only [bind, Except.bind, hservice, hmethod]
      rfl

/-- The members of an answer by key: the status, and beside it what the answer holds. -/
theorem exists_toValue_eq (response : InvokeResponse) :
    ∃ all, response.toValue = .object all ∧
      all.filter (fun member => member.1 = "status") =
        [("status", .string response.statusWord)] ∧
      Value.ofMembers response.members =
        .object (all.filter fun member => !decide (member.1 = "status")) := by
  cases response <;>
    simp only [toValue, members, Value.ofMembers, List.foldl_cons, List.foldl_nil, insertSorted,
      String.reduceLT, String.reduceEq, if_true, if_false] <;>
    exact ⟨_, rfl, rfl, rfl⟩

/-- What tells an answer has one status, which says what to read, and beside it what tells what the
answer holds. -/
theorem exists_content {response : InvokeResponse} {d : Document}
    (h : d.Tells response.shape response.toValue) :
    ∃ entries ending word, d.buffered = .ok (.mapping entries ending) ∧
      entries.filter isStatus = [("status", word)] ∧ word.text = .ok response.statusWord ∧
      (Document.mapping (entries.filter (!isStatus ·)) ending).Tells
        (.record response.contentShapes) (.ofMembers response.members) := by
  obtain ⟨all, hall, hstatus, hcontent⟩ := exists_toValue_eq response
  obtain ⟨b, hbuffered, hb⟩ := Document.exists_buffered h
  rw [hall] at hb
  cases hb with
  | @mapping _ entries told others _ unknown ending htold hothers hunknown hperm hending =>
      have hword := htold.filter fun key => key = "status"
      rw [hstatus] at hword
      obtain ⟨inner, word, hinner, hword, htells⟩ := hword.exists_single
      cases hinner.symm.trans response.field?_status
      have hne : ∀ member ∈ unknown, member.1 ≠ "status" := by
        intro member hmember heq
        have hnone := hunknown member hmember
        rw [heq, response.field?_status] at hnone
        cases hnone
      have hothersNe : ∀ entry ∈ others, entry.1 ≠ "status" :=
        hothers.forall_key (p := (· ≠ "status")) hne
      refine ⟨entries, ending, word, hbuffered, ?_, Document.reads_text _ _ htells, ?_⟩
      · have hnone : others.filter isStatus = [] :=
          List.filter_eq_nil_iff.2 fun entry hentry => by
            simpa [isStatus] using hothersNe entry hentry
        have hsingle : (told ++ others).filter isStatus = [("status", word)] := by
          rw [List.filter_append, hnone, List.append_nil]
          exact hword
        exact List.perm_singleton.1 (hsingle ▸ hperm.filter isStatus)
      · have hall : others.filter (!isStatus ·) = others :=
          List.filter_eq_self.2 fun entry hentry => by
            simpa [isStatus] using hothersNe entry hentry
        have hrest := hperm.filter (!isStatus ·)
        rw [List.filter_append, hall] at hrest
        rw [hcontent]
        refine .mapping ?_ hothers ?_ hrest hending
        · refine (htold.filter fun key => !decide (key = "status")).of_field?_eq ?_
          intro member hmember
          have hmemberNe : member.1 ≠ "status" := by simpa using (List.mem_filter.1 hmember).2
          exact (response.field?_of_ne hmemberNe).symm
        · intro member hmember
          rw [← response.field?_of_ne (hne member hmember)]
          exact hunknown member hmember

/-- An answer is read back, if the value in it is ordered. -/
theorem reads {response : InvokeResponse} (h : response.IsOrdered) :
    Reads response.shape ofDocument response.toValue response := by
  intro d hd
  obtain ⟨entries, ending, word, hbuffered, hstatus, hword, hrest⟩ := exists_content hd
  have hread := reads_ofContent h _ hrest
  rw [ofDocument, hbuffered]
  simp only [bind, Except.bind, hstatus, hword]
  exact hread

end InvokeResponse

end ServiceRouting
