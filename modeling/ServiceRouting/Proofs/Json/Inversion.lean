import ServiceRouting.Document

/-!
# What a reading that succeeds tells

A reading is a chain of readings, each of which has to succeed (`exists_of_bind_eq_ok`). So a list
of values is read only from a document that has a value (`value_of_list`), and a field with a
default is read or is not there (`of_withDefault`).
-/

namespace ServiceRouting

open Json (Value)

/-- Of a reading that goes on with another both succeed. -/
theorem exists_of_bind_eq_ok {ε α β : Type} {x : Except ε α} {f : α → Except ε β} {b : β}
    (h : x >>= f = .ok b) : ∃ a, x = .ok a ∧ f a = .ok b := by
  cases x with
  | error fault => cases h
  | ok a => exact ⟨a, rfl, h⟩

/-- What is made of a reading that succeeds is made of what is read. -/
theorem exists_of_map_eq_ok {ε α β : Type} {x : Except ε α} {f : α → β} {b : β}
    (h : f <$> x = .ok b) : ∃ a, x = .ok a ∧ f a = b := by
  cases x with
  | error fault => cases h
  | ok a => exact ⟨a, rfl, Except.ok.inj h⟩

/-- Of a reading that goes on with another one fails if both do not succeed. -/
theorem error_or_of_bind_eq_error {α β : Type} {x : Reading α} {f : α → Reading β} {fault : Fault}
    (h : x >>= f = .error fault) : x = .error fault ∨ ∃ a, x = .ok a ∧ f a = .error fault := by
  cases x with
  | error other =>
      cases h
      exact .inl rfl
  | ok a => exact .inr ⟨a, rfl, h⟩

namespace Document

/-- The values of documents are read one by one. -/
theorem values_eq_mapM (items : List Document) : values items = items.mapM value := by
  induction items with
  | nil => rfl
  | cons d items ih => rw [values, ih, List.mapM_cons]

/-- What is read as a list of values has a value. -/
theorem value_of_list {d : Document} {vs : List Value} (h : list value d = .ok vs) :
    d.value = .ok (.array vs) := by
  cases d with
  | sequence items ending =>
      rw [list] at h
      obtain ⟨ws, hws, h⟩ := exists_of_bind_eq_ok h
      obtain ⟨⟨⟩, hending, h⟩ := exists_of_bind_eq_ok h
      cases h
      rw [value, values_eq_mapM, hws]
      show ending.check >>= _ = _
      rw [hending]
      rfl
  | null | bool | number | string | mapping | unreadable | broken => cases h

/-- A field with a default is read, or it has the default. -/
theorem of_withDefault {α : Type} {r : Record} {name : String} {default a : α}
    {read : Document → Reading α} (h : r.withDefault name default read = .ok a) :
    a = default ∨ ∃ d, read d = .ok a := by
  unfold Record.withDefault at h
  split at h
  next d _ => exact .inr ⟨d, h⟩
  next => exact .inl (Except.ok.inj h).symm

/-- What is read and is not none is read as it is. -/
theorem of_optional {α : Type} {d : Document} {read : Document → Reading α} {a : α}
    (h : d.optional read = .ok (some a)) : read d = .ok a := by
  unfold optional at h
  split at h
  next => cases h
  next =>
    cases hread : read d with
    | error fault =>
        rw [hread] at h
        cases h
    | ok b =>
        rw [hread] at h
        cases h
        rfl

end Document

end ServiceRouting
