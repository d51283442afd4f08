import Mathlib.Data.List.Induction

/-!
# Histories

A history is a list of events, the latest at its end. What stands after a history was often made by
one of its events and kept by all events since then; `keptSince_concat` says what becomes of that
when one more event occurs.
-/

namespace ServiceRouting

universe u

variable {α : Type u} {Keeps : α → Prop} {history since : List α} {event last : α}

/-- An event occurred, and all events since then keep what it made. -/
structure KeptSince (Keeps : α → Prop) (history : List α) (event : α) (since : List α) : Prop where
  occurred : ∃ before, history = before ++ event :: since
  kept : ∀ other ∈ since, Keeps other

/-- Nothing was kept since an event of the empty history. -/
theorem not_keptSince_nil : ¬ KeptSince Keeps [] event since := by
  rintro ⟨⟨before, hbefore⟩, -⟩
  exact List.append_ne_nil_of_right_ne_nil before (List.cons_ne_nil _ _) hbefore.symm

/-- One event later, what an event made is kept if it occurred just now, or if it was kept before
and the last event keeps it. -/
theorem keptSince_concat : KeptSince Keeps (history ++ [last]) event since ↔
    (last = event ∧ since = []) ∨
      ∃ earlier, since = earlier ++ [last] ∧ KeptSince Keeps history event earlier ∧
        Keeps last := by
  constructor
  · rintro ⟨⟨before, hbefore⟩, hkept⟩
    obtain rfl | ⟨earlier, final, rfl⟩ := List.eq_nil_or_concat since
    · have hlast : [last] = [event] := (List.append_inj' hbefore rfl).2
      exact .inl ⟨List.head_eq_of_cons_eq hlast, rfl⟩
    · rw [List.concat_eq_append] at hbefore hkept ⊢
      rw [← List.cons_append, ← List.append_assoc] at hbefore
      obtain ⟨hhistory, hlast⟩ := List.append_inj' hbefore rfl
      obtain rfl : last = final := List.head_eq_of_cons_eq hlast
      exact .inr ⟨earlier, rfl,
        ⟨⟨before, hhistory⟩, fun other h => hkept other (List.mem_append_left _ h)⟩,
        hkept last (List.mem_append_right _ List.mem_cons_self)⟩
  · rintro (⟨rfl, rfl⟩ | ⟨earlier, rfl, ⟨⟨before, rfl⟩, hkept⟩, hkeeps⟩)
    · exact ⟨⟨history, rfl⟩, fun _ h => absurd h List.not_mem_nil⟩
    · refine ⟨⟨before, List.append_assoc before (event :: earlier) [last]⟩, fun other h => ?_⟩
      rcases List.mem_append.1 h with h | h
      · exact hkept other h
      · exact List.mem_singleton.1 h ▸ hkeeps

end ServiceRouting
