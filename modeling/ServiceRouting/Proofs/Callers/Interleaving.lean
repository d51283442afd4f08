import ServiceRouting.Proofs.Callers.Step

/-!
# Interleavings of callers

An interleaving is an endless sequence of states and steps; since the surroundings may always take a
step that changes nothing, every finite sequence of steps is the beginning of one (`ofMoves`).
Moments count the steps.

A tag is taken again once nothing refers to it, so it does not name an installation for good.
`origin` does: it is the moment of the selection that last took the tag. As long as a tag is in use
its origin stays the same (`origin_succ_of_isInUse`).
-/

namespace ServiceRouting

universe u

open Callers Invocation

/-- Whether a step takes a tag for a target selected. -/
def Callers.Move.takes {Handler : Type u} (tag : Tag) : Move Handler → Bool
  | hear _ (.selected (some fresh)) => fresh.tag = tag
  | _ => false

/-- The states that callers of a proxy go through from a start, and the steps between them. -/
structure Interleaving {Handler : Type u} (p : Proxy) (start : Callers Handler) where
  state : Nat → Callers Handler
  move : Nat → Move Handler
  begins : state 0 = start
  steps : ∀ n, (state n).step p (move n) = some (state (n + 1))

namespace Interleaving

variable {Handler : Type u} {p : Proxy} {start : Callers Handler}

/-- The interleaving in which nothing happens. -/
def still (p : Proxy) (start : Callers Handler) : Interleaving p start where
  state _ := start
  move _ := .change start.cluster start.registry
  begins := rfl
  steps _ := rfl

/-- The interleaving that begins with one more step. -/
def cons {next : Callers Handler} (move : Move Handler) (h : start.step p move = some next)
    (e : Interleaving p next) : Interleaving p start where
  state
    | 0 => start
    | n + 1 => e.state n
  move
    | 0 => move
    | n + 1 => e.move n
  begins := rfl
  steps
    | 0 => by
        show start.step p move = some (e.state 0)
        rw [e.begins, h]
    | n + 1 => e.steps n

/-- The interleaving that begins with the given steps, after which nothing happens. -/
def ofMoves (moves : List (Move Handler)) {start last : Callers Handler}
    (h : start.run p moves = some last) : Interleaving p start :=
  match moves with
  | [] => still p start
  | move :: moves =>
    match hnext : start.step p move with
    | some next => cons move hnext (ofMoves moves (by simpa [run, hnext] using h))
    | none => absurd h (by simp [run, hnext])

/-- An interleaving that begins with given steps comes to where they lead. -/
theorem state_ofMoves {moves : List (Move Handler)} {start last : Callers Handler}
    (h : start.run p moves = some last) : (ofMoves moves h).state moves.length = last := by
  induction moves generalizing start with
  | nil => exact Option.some.inj h
  | cons move moves ih =>
      unfold ofMoves
      split
      next next hnext => exact ih _
      next hnone => simp [run, hnone] at h

/-- What the slot holds at a moment. -/
def held (e : Interleaving p start) (n : Nat) : Option Target := (e.state n).slot.held

/-- The stage of a caller at a moment. -/
def stage? (e : Interleaving p start) (n caller : Nat) : Option Stage := (e.state n).stage? caller

/-- The moment of the last selection before a moment that took a tag. -/
def origin (e : Interleaving p start) (tag : Tag) : Nat → Option Nat
  | 0 => none
  | n + 1 => if (e.move n).takes tag then some n else e.origin tag n

/-- At a moment the slot holds a target that was selected at a moment `origin`. -/
def Holds (e : Interleaving p start) (n origin : Nat) (target : Target) : Prop :=
  e.held n = some target ∧ e.origin target.tag n = some origin

/-- A caller looks at the slot and sees nothing. -/
def MissesAt (e : Interleaving p start) (n caller : Nat) : Prop :=
  e.move n = .use caller ∧ e.stage? n caller = some .reading ∧ e.held n = none

/-- A caller selects a target: its node is an outcome that the selector has at that moment. -/
def SelectsAt (e : Interleaving p start) (n caller : Nat) (target : Target) : Prop :=
  e.move n = .hear caller (.selected (some target)) ∧
    some target.node ∈
      (p.selector.choice (e.state n).cluster (e.state n).registry p.name).outcomes

/-- A caller fills the empty slot with the target that it selected. -/
def InstallsAt (e : Interleaving p start) (n caller : Nat) (target : Target) : Prop :=
  e.move n = .use caller ∧ e.stage? n caller = some (.installing target) ∧
    e.held n = none ∧ e.held (n + 1) = some target

/-- A caller of a sticky proxy has resolved to a target and goes on to call it. -/
def ResolvesAt (e : Interleaving p start) (n caller : Nat) (target : Target) : Prop :=
  e.move n = .use caller ∧ e.stage? (n + 1) caller = some (.calling target)

/-- A caller's attempt on a target ends in a failure that is retried. -/
def FailsAt (e : Interleaving p start) (n caller : Nat) (target : Target) : Prop :=
  e.stage? n caller = some (.calling target) ∧
    ∃ error, error.isRetryable = true ∧ e.move n = .hear caller (.answered (.error error))

/-- A caller takes the step that clears the slot if it holds a target. -/
def ClearsAt (e : Interleaving p start) (n caller : Nat) (target : Target) : Prop :=
  e.move n = .use caller ∧ e.stage? n caller = some (.clearing target)

/-- A caller came to a stage with the step at a moment and has been there since. -/
def StaysAt (e : Interleaving p start) (since n caller : Nat) (stage : Stage) : Prop :=
  since < n ∧ ∀ k, since < k → k ≤ n → e.stage? k caller = some stage

variable {e : Interleaving p start}

/-- Every step of an interleaving is one of the atomic ones. -/
theorem atomic (e : Interleaving p start) (n : Nat) :
    Atomic p (e.state n) (e.move n) (e.state (n + 1)) :=
  atomic_of_step (e.steps n)

/-- An origin lies in the past. -/
theorem origin_lt {tag : Tag} {n m : Nat} (h : e.origin tag n = some m) : m < n := by
  induction n with
  | zero => cases h
  | succ n ih =>
      rw [origin] at h
      split at h
      · obtain rfl := Option.some.inj h
        exact Nat.lt_succ_self n
      · exact Nat.lt_succ_of_lt (ih h)

/-- At its origin a tag is taken. -/
theorem takes_origin {tag : Tag} {n m : Nat} (h : e.origin tag n = some m) :
    (e.move m).takes tag = true := by
  induction n with
  | zero => cases h
  | succ n ih =>
      rw [origin] at h
      split at h
      next htakes =>
        obtain rfl := Option.some.inj h
        exact htakes
      next => exact ih h

/-- One selection takes one tag. -/
theorem tag_unique {tag other : Tag} {n k m : Nat} (h : e.origin tag n = some m)
    (hother : e.origin other k = some m) : tag = other := by
  have htakes := takes_origin h
  have htakes' := takes_origin hother
  unfold Move.takes at htakes htakes'
  split at htakes
  · simp_all
  · cases htakes

/-- A tag in use is not taken, so it keeps its origin. -/
theorem origin_succ_of_isInUse {tag : Tag} {n : Nat} (h : (e.state n).isInUse tag = true) :
    e.origin tag (n + 1) = e.origin tag n := by
  rw [origin, if_neg]
  -- A selection that took the tag would have found it free.
  intro htakes
  unfold Move.takes at htakes
  split at htakes
  next caller fresh hmove =>
    have hatomic := e.atomic n
    rw [hmove] at hatomic
    obtain rfl : fresh.tag = tag := by simpa using htakes
    rw [not_isInUse_of_selected hatomic] at h
    cases h
  next => cases htakes

/-- The tag that the slot holds is in use. -/
theorem isInUse_of_held {n : Nat} {target : Target} (h : e.held n = some target) :
    (e.state n).isInUse target.tag = true := by
  rw [isInUse, StickySlot.holds_of_held h, decide_eq_true rfl, Bool.true_or]

/-- The tag that a caller refers to is in use. -/
theorem isInUse_of_stage? {n caller : Nat} {stage : Stage} {target : Target}
    (h : e.stage? n caller = some stage) (htarget : stage.target? = some target) :
    (e.state n).isInUse target.tag = true := by
  obtain ⟨i, hi, rfl⟩ := Option.map_eq_some_iff.1 h
  have hmem : some i ∈ (e.state n).invocations :=
    List.mem_of_getElem? (Option.join_eq_some_iff.1 hi)
  rw [isInUse, Bool.or_eq_true, List.any_eq_true]
  exact .inr ⟨some i, hmem, by simp [refersTo, htarget]⟩

/-- What the slot holds keeps its origin. -/
theorem origin_succ_of_held {n : Nat} {target : Target} (h : e.held n = some target) :
    e.origin target.tag (n + 1) = e.origin target.tag n :=
  origin_succ_of_isInUse (isInUse_of_held h)

/-- What a caller refers to keeps its origin. -/
theorem origin_succ_of_stage? {n caller : Nat} {stage : Stage} {target : Target}
    (h : e.stage? n caller = some stage) (htarget : stage.target? = some target) :
    e.origin target.tag (n + 1) = e.origin target.tag n :=
  origin_succ_of_isInUse (isInUse_of_stage? h htarget)

/-- A caller that has been at a stage is there. -/
theorem StaysAt.stage? {since n caller : Nat} {stage : Stage} (h : e.StaysAt since n caller stage) :
    e.stage? n caller = some stage :=
  h.2 n h.1 (Nat.le_refl n)

/-- A caller has just come to a stage. -/
theorem StaysAt.first {n caller : Nat} {stage : Stage} (h : e.stage? (n + 1) caller = some stage) :
    e.StaysAt n (n + 1) caller stage := by
  refine ⟨Nat.lt_succ_self n, fun k hk hle => ?_⟩
  obtain rfl : k = n + 1 := by omega
  exact h

/-- A caller stays at a stage for another moment. -/
theorem StaysAt.succ {since n caller : Nat} {stage : Stage} (h : e.StaysAt since n caller stage)
    (hnext : e.stage? (n + 1) caller = some stage) : e.StaysAt since (n + 1) caller stage := by
  refine ⟨Nat.lt_succ_of_lt h.1, fun k hk hle => ?_⟩
  rcases Nat.lt_or_eq_of_le hle with hlt | rfl
  · exact h.2 k hk (Nat.le_of_lt_succ hlt)
  · exact hnext

end Interleaving

end ServiceRouting
