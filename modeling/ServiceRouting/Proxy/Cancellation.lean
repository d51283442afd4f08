/-!
# Cancellation

Tokens that say that waiting should end. A token may lie below another one: it counts as cancelled
when it was cancelled itself or when one above it was, before or after it was issued. Cancelling a
token does nothing to those above it or beside it.
-/

namespace ServiceRouting

/-- A token: its number, and the numbers of the tokens above it. -/
structure Token where
  number : Nat
  above : List Nat
deriving DecidableEq

/-- The tokens issued so far and those of them that were cancelled. -/
structure Tokens where
  /-- How many tokens were issued. Their numbers count from zero. -/
  issued : Nat := 0
  /-- The numbers of the tokens that were cancelled. -/
  cancelled : List Nat := []

namespace Tokens

/-- Issues a token that lies below no other. -/
def root (t : Tokens) : Tokens × Token :=
  ({ t with issued := t.issued + 1 }, ⟨t.issued, []⟩)

/-- Issues a token below another. -/
def child (t : Tokens) (parent : Token) : Tokens × Token :=
  ({ t with issued := t.issued + 1 }, ⟨t.issued, parent.number :: parent.above⟩)

/-- Cancels a token. -/
def cancel (t : Tokens) (token : Token) : Tokens :=
  { t with cancelled := token.number :: t.cancelled }

/-- Whether a token counts as cancelled. -/
def isCancelled (t : Tokens) (token : Token) : Bool :=
  (token.number :: token.above).any t.cancelled.contains

end Tokens

end ServiceRouting
