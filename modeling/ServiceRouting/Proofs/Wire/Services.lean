import ServiceRouting.Proofs.Json.Records
import ServiceRouting.Wire.Service

/-!
# Services read back

Whatever tells the JSON form of a deployed service, or of the public answer about one, is read as it
(`ServiceDescriptor.reads`, `TopologyResponse.reads`), if the numbers in it fit into the 64 bits
that they are counted with.
-/

namespace ServiceRouting

open Json (Value)
open Document (FieldsAccept MembersTell Reads Shape)

namespace Topology

/-- Instances are counted with 64 bits. -/
def IsCounted (t : Topology) : Prop := ∀ entry ∈ t.entries, entry.2 < 18446744073709551616

/-- A topology is read back. -/
theorem reads {t : Topology} (h : t.IsCounted) : Reads .plain ofDocument t.toValue t :=
  Document.reads_table fun entry hentry => Document.reads_natBelow (h entry hentry)

end Topology

namespace ServiceDescriptor

/-- The shape of services. -/
def shape : Shape := .record [("name", .plain), ("topology", .plain)]

/-- The members of a service by key. -/
theorem toValue_eq (s : ServiceDescriptor) :
    s.toValue = .object [("name", .string s.name), ("topology", s.topology.toValue)] := by
  simp only [toValue, Value.ofMembers, List.foldl_cons, List.foldl_nil, insertSorted,
    String.reduceLT, String.reduceEq, if_false]

/-- The document of a service tells it. -/
theorem tells_toValue (s : ServiceDescriptor) :
    (Document.ofValue s.toValue).Tells shape s.toValue := by
  rw [toValue_eq]
  exact (MembersTell.cons rfl (.string _) (.cons rfl (Document.tells_ofValue _) .nil)).tells

/-- A service is read back. -/
theorem reads {s : ServiceDescriptor} (h : s.topology.IsCounted) :
    Reads shape ofDocument s.toValue s := by
  have hname := Document.reads_text s.name
  have htopology := Topology.reads h
  have hkeys : ["name", "topology"].Pairwise (· < ·) := by decide
  have hfields : FieldsAccept fields [("name", .plain), ("topology", .plain)]
      [("name", .string s.name), ("topology", s.topology.toValue)] :=
    .cons rfl rfl hname (.cons rfl rfl htopology .nil)
  rw [toValue_eq]
  refine Document.reads_record (keysIncrease_of_keys hkeys) rfl hfields fun r hfinds => ?_
  have hname : r.required "name" Document.text = .ok s.name := hfinds.required (by simp) rfl hname
  have htopology : r.required "topology" Topology.ofDocument = .ok s.topology :=
    hfinds.required (by simp) rfl htopology
  simp only [bind, Except.bind, hname, htopology]
  rfl

end ServiceDescriptor

namespace TopologyResponse

/-- The shape of answers about a service. -/
def shape : Shape :=
  .record [("service", .plain), ("topology", .plain), ("total_instances", .plain)]

/-- The members of an answer by key. -/
theorem toValue_eq (r : TopologyResponse) :
    r.toValue =
      .object [("service", .string r.service), ("topology", r.topology.toValue),
        ("total_instances", .ofNat r.total)] := by
  simp only [toValue, Value.ofMembers, List.foldl_cons, List.foldl_nil, insertSorted,
    String.reduceLT, String.reduceEq, if_false]

/-- The document of an answer tells it. -/
theorem tells_toValue (r : TopologyResponse) :
    (Document.ofValue r.toValue).Tells shape r.toValue := by
  rw [toValue_eq]
  exact (MembersTell.cons rfl (.string _) (.cons rfl (Document.tells_ofValue _)
    (.cons rfl (.number _) .nil))).tells

/-- An answer is read back. -/
theorem reads {r : TopologyResponse} (h : r.topology.IsCounted)
    (htotal : r.total < 18446744073709551616) : Reads shape ofDocument r.toValue r := by
  have hservice := Document.reads_text r.service
  have htopology := Topology.reads h
  have htotal := Document.reads_natBelow htotal
  have hkeys : ["service", "topology", "total_instances"].Pairwise (· < ·) := by decide
  have hfields : FieldsAccept fields
      [("service", .plain), ("topology", .plain), ("total_instances", .plain)]
      [("service", .string r.service), ("topology", r.topology.toValue),
        ("total_instances", .ofNat r.total)] :=
    .cons rfl rfl hservice (.cons rfl rfl htopology (.cons rfl rfl htotal .nil))
  rw [toValue_eq]
  refine Document.reads_record (keysIncrease_of_keys hkeys) rfl hfields fun found hfinds => ?_
  have hservice : found.required "service" Document.text = .ok r.service :=
    hfinds.required (by simp) rfl hservice
  have htopology : found.required "topology" Topology.ofDocument = .ok r.topology :=
    hfinds.required (by simp) rfl htopology
  have htotal : found.required "total_instances" Document.count = .ok r.total :=
    hfinds.required (by simp) rfl htotal
  simp only [bind, Except.bind, hservice, htopology, htotal]
  rfl

end TopologyResponse

end ServiceRouting
