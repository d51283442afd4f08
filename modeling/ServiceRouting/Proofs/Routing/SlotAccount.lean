import ServiceRouting.Routing.StickySlot

/-!
# The account of the sticky slot

A slot is looked at, installed to and cleared, in any order and with any targets: an installation
may come back after it was cleared, and different ones may have equal nodes. `Accounted` says what
the answers of the slot come to. Its main part is an account of each installation: it filled the
slot as often as it was cleared, and once more if the slot holds it. One use keeps the account
(`balance_use`), so every history does.
-/

namespace ServiceRouting

namespace StickySlot

/-- What a slot is used for. -/
inductive Use where
  | get
  | install (fresh : Target)
  | clear (failed : Target)

/-- What the slot answers. -/
inductive Answer where
  | got (held : Option Target)
  | installed (winner : Target)
  | cleared (done : Bool)
deriving DecidableEq

/-- The slot after a use, and its answer. -/
def use (slot : StickySlot) : Use → StickySlot × Answer
  | .get => (slot, .got slot.held)
  | .install fresh => ((slot.install fresh).1, .installed (slot.install fresh).2)
  | .clear failed => ((slot.clearIf failed.tag).1, .cleared (slot.clearIf failed.tag).2)

/-- The slot after these uses. -/
def after (slot : StickySlot) (uses : List Use) : StickySlot :=
  uses.foldl (fun slot u => (slot.use u).1) slot

/-- A use of the slot as it was then. -/
structure Occasion where
  before : StickySlot
  use : Use

namespace Occasion

/-- The slot as it is then. -/
def after (o : Occasion) : StickySlot := (o.before.use o.use).1

/-- The answer of the slot. -/
def answer (o : Occasion) : Answer := (o.before.use o.use).2

/-- The installation with this tag fills the slot, which held nothing. -/
def fills (o : Occasion) (tag : Tag) : Bool :=
  match o.use with
  | .install fresh => fresh.tag = tag && o.before.held.isNone
  | .get | .clear _ => false

/-- The installation with this tag is cleared, as the slot answers. -/
def clears (o : Occasion) (tag : Tag) : Bool :=
  match o.use with
  | .clear failed => failed.tag = tag && o.answer = .cleared true
  | .get | .install _ => false

end Occasion

/-- The occasions of these uses, one after the other. -/
def occasions (slot : StickySlot) : List Use → List Occasion
  | [] => []
  | u :: rest => ⟨slot, u⟩ :: occasions (slot.use u).1 rest

/-- How often an installation filled the slot. -/
def fillings (tag : Tag) (uses : List Use) : Nat := (occasions empty uses).countP (·.fills tag)

/-- How often an installation was cleared from the slot. -/
def clearings (tag : Tag) (uses : List Use) : Nat := (occasions empty uses).countP (·.clears tag)

/-- What the answers of a slot that held nothing come to. -/
structure Accounted (uses : List Use) : Prop where
  /-- At every moment an installation has filled the slot as often as it was cleared, and once more
  if the slot holds it. -/
  balance : ∀ earlier, earlier <+: uses → ∀ tag,
    fillings tag earlier = clearings tag earlier + if (empty.after earlier).holds tag then 1 else 0
  /-- An installation is answered with what the slot holds right after it. -/
  installed : ∀ o ∈ occasions empty uses, ∀ fresh, o.use = .install fresh →
    ∃ winner, o.answer = .installed winner ∧ o.after.held = some winner
  /-- An installation fills a slot that holds nothing. -/
  filled : ∀ o ∈ occasions empty uses, ∀ fresh, o.use = .install fresh →
    o.before.held = none → o.after.held = some fresh
  /-- An installation leaves a slot that holds something as it is. -/
  occupied : ∀ o ∈ occasions empty uses, ∀ fresh, o.use = .install fresh →
    o.before.held ≠ none → o.after = o.before
  /-- A clearing is done if the slot holds this very installation. -/
  cleared : ∀ o ∈ occasions empty uses, ∀ failed, o.use = .clear failed →
    o.answer = .cleared (o.before.holds failed.tag)
  /-- The slot holds nothing after a clearing that is done. -/
  emptied : ∀ o ∈ occasions empty uses, ∀ failed, o.use = .clear failed →
    o.answer = .cleared true → o.after = empty
  /-- A clearing that is not done leaves the slot as it is. -/
  refused : ∀ o ∈ occasions empty uses, ∀ failed, o.use = .clear failed →
    o.answer = .cleared false → o.after = o.before
  /-- Who looks at the slot sees what it holds, and leaves it as it is. -/
  got : ∀ o ∈ occasions empty uses, o.use = .get →
    o.answer = .got o.before.held ∧ o.after = o.before

/-- One use keeps the account of every installation: what fills the slot now and what it held before
is what is cleared from it and what it holds afterwards. -/
theorem balance_use (slot : StickySlot) (u : Use) (tag : Tag) :
    (if (Occasion.mk slot u).fills tag then 1 else 0) + (if slot.holds tag then 1 else 0) =
      (if (Occasion.mk slot u).clears tag then 1 else 0) +
        if (slot.use u).1.holds tag then 1 else 0 := by
  cases u with
  | get => rfl
  | install fresh =>
      show (if fresh.tag = tag && slot.held.isNone then 1 else 0) +
          (if slot.holds tag then 1 else 0) = 0 + if (slot.install fresh).1.holds tag then 1 else 0
      cases hheld : slot.held with
      | none =>
          rw [install_of_held_none hheld, holds_of_held_none hheld, holds_of_held rfl]
          simp
      | some winner =>
          rw [install_of_held hheld]
          simp
  | clear failed =>
      show 0 + (if slot.holds tag then 1 else 0) =
          (if failed.tag = tag &&
              decide (Answer.cleared (slot.clearIf failed.tag).2 = .cleared true)
            then 1 else 0) + if (slot.clearIf failed.tag).1.holds tag then 1 else 0
      cases hholds : slot.holds failed.tag with
      -- The slot holds no other installation, so none is lost with this one.
      | true =>
          obtain ⟨target, hheld, htag⟩ := exists_held_of_holds hholds
          rw [clearIf_of_holds hholds, holds_of_held hheld, htag, holds_empty]
          simp
      | false =>
          rw [clearIf_of_not_holds hholds]
          simp

/-- A history keeps the account of every installation, whatever the slot held at first. -/
theorem balance_occasions (slot : StickySlot) (uses : List Use) (tag : Tag) :
    (occasions slot uses).countP (·.fills tag) + (if slot.holds tag then 1 else 0) =
      (occasions slot uses).countP (·.clears tag) +
        if (slot.after uses).holds tag then 1 else 0 := by
  induction uses generalizing slot with
  | nil => rfl
  | cons u rest ih =>
      have huse := balance_use slot u tag
      have hrest := ih (slot.use u).1
      rw [occasions, List.countP_cons, List.countP_cons, after, List.foldl_cons, ← after]
      omega

/-- The answers of a slot that held nothing come to an account of every installation, whatever the
slot was used for. -/
theorem slot_accounted (uses : List Use) : Accounted uses where
  balance earlier _ tag := balance_occasions empty earlier tag
  installed := by
    rintro ⟨slot, _⟩ _ fresh rfl
    exact ⟨_, rfl, slot.held_install fresh⟩
  filled := by
    rintro ⟨slot, _⟩ _ fresh rfl hheld
    exact congrArg (·.1.held) (install_of_held_none hheld fresh)
  occupied := by
    rintro ⟨slot, _⟩ _ fresh rfl hheld
    obtain ⟨winner, hwinner⟩ := Option.ne_none_iff_exists'.1 hheld
    exact congrArg Prod.fst (install_of_held hwinner fresh)
  cleared := by
    rintro ⟨slot, _⟩ _ failed rfl
    exact congrArg Answer.cleared (slot.snd_clearIf failed.tag)
  emptied := by
    rintro ⟨slot, _⟩ _ failed rfl hdone
    have hholds := (slot.snd_clearIf failed.tag).symm.trans (Answer.cleared.inj hdone)
    exact congrArg Prod.fst (clearIf_of_holds hholds)
  refused := by
    rintro ⟨slot, _⟩ _ failed rfl hrefused
    have hholds := (slot.snd_clearIf failed.tag).symm.trans (Answer.cleared.inj hrefused)
    exact congrArg Prod.fst (clearIf_of_not_holds hholds)
  got := by
    rintro ⟨slot, _⟩ _ rfl
    exact ⟨rfl, rfl⟩

/-- A late clearing is refused although the newer installation is one of the same node. -/
example (n : Node) :
    (occasions empty [.install ⟨0, n⟩, .clear ⟨0, n⟩, .install ⟨1, n⟩, .clear ⟨0, n⟩]).map
      (·.answer) = [.installed ⟨0, n⟩, .cleared true, .installed ⟨1, n⟩, .cleared false] := rfl

end StickySlot

end ServiceRouting
