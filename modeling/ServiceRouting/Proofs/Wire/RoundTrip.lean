import ServiceRouting.Proofs.Wire.Messages
import ServiceRouting.Proofs.Wire.Services

/-!
# Messages between nodes are read back

What one node writes another reads as it was, and it does so whatever the order of the fields of
any record in the message and whatever unknown fields stand beside them (`ReadsBack`). This holds
for requests and their answers, for the calls and signatures in them, for services and for what is
told of their topologies (`messages_readBack`). Two messages that differ have two JSON forms then.
-/

namespace ServiceRouting

open Json (Value)
open Document (Reads Shape)

/-- Values are read back from the JSON form that `encode` gives them, if they are legal: if their
parts are such as a node holds. -/
structure ReadsBack {α : Type} (encode : α → Value) (shape : α → Shape)
    (read : Document → Reading α) (Legal : α → Prop) : Prop where
  /-- The document of its JSON form tells a value. -/
  tells : ∀ a, (Document.ofValue (encode a)).Tells (shape a) (encode a)
  /-- The document of the JSON form is read as the value. -/
  tree : ∀ a, Legal a → read (.ofValue (encode a)) = .ok a
  /-- Any document that tells the value, with the fields of each of its records in any order and any
  unknown ones among them, is read as the value. -/
  told : ∀ a, Legal a → Reads (shape a) read (encode a) a
  /-- Fields in another order are read as the same value. -/
  reordered : ∀ a, Legal a → ∀ entries others ending,
    (Document.mapping entries ending).Tells (shape a) (encode a) → others.Perm entries →
    read (.mapping others ending) = .ok a
  /-- With an unknown field, whatever its value, the same is read. -/
  widened : ∀ a, Legal a → ∀ entries ending name (w : Value),
    (Document.mapping entries ending).Tells (shape a) (encode a) →
    (shape a).field? name = none →
    read (.mapping ((name, .ofValue w) :: entries) ending) = .ok a
  /-- No document tells two values. -/
  apart : ∀ a b, Legal a → Legal b → ∀ d : Document,
    d.Tells (shape a) (encode a) → d.Tells (shape b) (encode b) → a = b
  /-- Two values have two JSON forms. -/
  injective : ∀ a b, Legal a → Legal b → encode a = encode b → a = b

/-- Values are read back if each is told by the document of its JSON form and read from whatever
tells it. -/
theorem ReadsBack.of_reads {α : Type} {encode : α → Value} {shape : α → Shape}
    {read : Document → Reading α} {Legal : α → Prop}
    (htells : ∀ a, (Document.ofValue (encode a)).Tells (shape a) (encode a))
    (hreads : ∀ a, Legal a → Reads (shape a) read (encode a) a) :
    ReadsBack encode shape read Legal where
  tells := htells
  tree a ha := hreads a ha _ (htells a)
  told := hreads
  reordered a ha _ _ _ h hperm := hreads a ha _ (h.of_perm hperm)
  widened a ha _ _ _ w h hname := hreads a ha _ (h.cons_unknown hname (Document.tells_ofValue w))
  apart a b ha hb d hda hdb := by
    have hread := hreads a ha d hda
    rw [hreads b hb d hdb] at hread
    exact (Except.ok.inj hread).symm
  injective a b ha hb heq := by
    have hread := hreads a ha _ (htells a)
    rw [heq, hreads b hb _ (htells b)] at hread
    exact (Except.ok.inj hread).symm

/-- All that nodes send one another is read back. The values in it are maps where they are objects,
and instances are counted with 64 bits. -/
theorem messages_readBack :
    ReadsBack InvokeRequest.toValue (fun _ => InvokeRequest.shape) InvokeRequest.ofDocument
      (fun r => ∀ arg ∈ r.call.args, arg.Ordered) ∧
    ReadsBack InvokeResponse.toValue InvokeResponse.shape InvokeResponse.ofDocument
      InvokeResponse.IsOrdered ∧
    ReadsBack CallDescriptor.toValue (fun _ => CallDescriptor.shape) CallDescriptor.ofDocument
      (fun c => ∀ arg ∈ c.args, arg.Ordered) ∧
    ReadsBack Signature.toValue (fun _ => Signature.shape) Signature.ofDocument (fun _ => True) ∧
    ReadsBack ServiceDescriptor.toValue (fun _ => ServiceDescriptor.shape)
      ServiceDescriptor.ofDocument (fun s => s.topology.IsCounted) ∧
    ReadsBack TopologyResponse.toValue (fun _ => TopologyResponse.shape)
      TopologyResponse.ofDocument
      (fun r => r.topology.IsCounted ∧ r.total < 18446744073709551616) := by
  refine ⟨?_, ?_, ?_, ?_, ?_, ?_⟩
  · exact .of_reads InvokeRequest.tells_toValue fun _ h => InvokeRequest.reads h
  · exact .of_reads InvokeResponse.tells_toValue fun _ h => InvokeResponse.reads h
  · exact .of_reads CallDescriptor.tells_toValue fun _ h => CallDescriptor.reads h
  · exact .of_reads Signature.tells_toValue fun s _ => s.reads
  · exact .of_reads ServiceDescriptor.tells_toValue fun _ h => ServiceDescriptor.reads h
  · exact .of_reads TopologyResponse.tells_toValue fun _ ⟨h, htotal⟩ =>
      TopologyResponse.reads h htotal

/-- The status may come last, behind a payload that has a status of its own and an unknown field. -/
example :
    InvokeResponse.ofDocument (.mapping
      [("value", .mapping [("status", .string "failed"), ("value", .null)] .closed),
       ("node", .bool true), ("status", .string "ok")] .closed) =
    .ok (.ok (.object [("status", .string "failed"), ("value", .null)])) := by
  rfl

end ServiceRouting
