import ServiceRouting.Cluster.Node

/-!
# The sticky slot

The slot in which the callers of a proxy share the node that their calls go to. What is installed
is a node with a tag of its own, so that two installations of one node are told apart. The slot
changes in two ways only: an installation fills it while it is empty, and a clearing empties it
while it holds the very installation that failed.
-/

namespace ServiceRouting

/-- The identity of an installation. -/
abbrev Tag := Nat

/-- A node picked by one resolution. -/
structure Target where
  tag : Tag
  node : Node
deriving DecidableEq

/-- The slot of a proxy. -/
structure StickySlot where
  held : Option Target
deriving DecidableEq

namespace StickySlot

/-- The slot that holds nothing. -/
def empty : StickySlot := ⟨none⟩

/-- Installs a target if the slot is empty, and gives the target that it holds afterwards. -/
def install (slot : StickySlot) (fresh : Target) : StickySlot × Target :=
  match slot.held with
  | none => (⟨some fresh⟩, fresh)
  | some winner => (slot, winner)

/-- Whether the slot holds the installation with this tag. -/
def holds (slot : StickySlot) (tag : Tag) : Bool := slot.held.any (·.tag = tag)

/-- Empties the slot if it holds the installation with this tag, and tells whether it did. -/
def clearIf (slot : StickySlot) (tag : Tag) : StickySlot × Bool :=
  if slot.holds tag then (empty, true) else (slot, false)

/-- After an installation the slot holds the target that it gives. -/
theorem held_install (slot : StickySlot) (fresh : Target) :
    (slot.install fresh).1.held = some (slot.install fresh).2 := by
  unfold install
  split
  · rfl
  · assumption

/-- A slot that holds nothing takes the target. -/
theorem install_of_held_none {slot : StickySlot} (h : slot.held = none) (fresh : Target) :
    slot.install fresh = (⟨some fresh⟩, fresh) := by
  rw [install, h]

/-- A slot that holds a target keeps it. -/
theorem install_of_held {slot : StickySlot} {winner : Target} (h : slot.held = some winner)
    (fresh : Target) : slot.install fresh = (slot, winner) := by
  rw [install, h]

/-- The slot holds the installation of its target and no other one. -/
theorem holds_of_held {slot : StickySlot} {target : Target} (h : slot.held = some target)
    (tag : Tag) : slot.holds tag = decide (target.tag = tag) := by
  rw [holds, h, Option.any_some]

/-- A slot that holds nothing holds no installation. -/
theorem holds_of_held_none {slot : StickySlot} (h : slot.held = none) (tag : Tag) :
    slot.holds tag = false := by
  rw [holds, h, Option.any_none]

/-- The empty slot holds no installation. -/
theorem holds_empty (tag : Tag) : empty.holds tag = false := rfl

/-- An installation that the slot holds is that of its target. -/
theorem exists_held_of_holds {slot : StickySlot} {tag : Tag} (h : slot.holds tag = true) :
    ∃ target, slot.held = some target ∧ target.tag = tag := by
  obtain ⟨target, hheld, htag⟩ := (Option.any_eq_true ..).1 h
  exact ⟨target, hheld, of_decide_eq_true htag⟩

/-- A slot that holds an installation is emptied by its clearing. -/
theorem clearIf_of_holds {slot : StickySlot} {tag : Tag} (h : slot.holds tag = true) :
    slot.clearIf tag = (empty, true) :=
  if_pos h

/-- A slot that does not hold an installation stays as it is at its clearing. -/
theorem clearIf_of_not_holds {slot : StickySlot} {tag : Tag} (h : slot.holds tag = false) :
    slot.clearIf tag = (slot, false) :=
  if_neg (h ▸ Bool.false_ne_true)

/-- A clearing is done if the slot holds the installation. -/
theorem snd_clearIf (slot : StickySlot) (tag : Tag) :
    (slot.clearIf tag).2 = slot.holds tag := by
  cases h : slot.holds tag with
  | true => rw [clearIf_of_holds h]
  | false => rw [clearIf_of_not_holds h]

end StickySlot

end ServiceRouting
