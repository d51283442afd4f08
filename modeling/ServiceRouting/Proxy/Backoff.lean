import ServiceRouting.Duration

/-!
# Backoff

How long a proxy waits before it tries again. An exponential backoff doubles its delay with each
attempt, sixteen times at most, and adds a jitter of less than fifty milliseconds; neither takes it
above the largest delay. The sum of delay and jitter can be too large for a duration.
-/

namespace ServiceRouting

/-- The policy of delays before an invocation tries again. -/
inductive Backoff where
  /-- No delay. -/
  | none
  /-- The same delay each time. -/
  | fixed (delay : Duration)
  /-- A delay that doubles until it is the largest. -/
  | exponential (initial largest : Duration)
deriving DecidableEq

namespace Backoff

/-- Ten milliseconds each time. -/
def standard : Backoff := .fixed (Duration.ofMillis 10)

/-- A jitter is a number of milliseconds below this one. -/
def jitterLimit : Nat := 50

/-- The largest number of doublings. -/
def doublingLimit : Nat := 16

/-- How often the delay has doubled before an attempt. Attempts are counted from one. -/
def doublings (attempt : Nat) : Nat := Nat.min (attempt - 1) doublingLimit

/-- The exponential delay before an attempt, without jitter. -/
def base (initial largest : Duration) (attempt : Nat) : Duration :=
  (initial.saturatingMul (Nat.pow 2 (doublings attempt))).min largest

/-- The delay before an attempt for a jitter in milliseconds, unless the sum of both is no
duration. -/
def delay? (b : Backoff) (attempt jitter : Nat) : Option Duration :=
  match b with
  | none => some Duration.zero
  | fixed delay => some delay
  | exponential initial largest =>
    ((base initial largest attempt).add? (Duration.ofMillis jitter)).map (·.min largest)

/-- What is said when delay and jitter make no duration. -/
def overflowMessage : String := "overflow when adding durations"

/-- The shortest and the longest delay before an attempt over all jitters, if every jitter makes a
duration. -/
def range? (b : Backoff) (attempt : Nat) : Option (Duration × Duration) := do
  let shortest ← b.delay? attempt 0
  let longest ← b.delay? attempt (jitterLimit - 1)
  return (shortest, longest)

/-- The policy as a diagnostic text. -/
def text : Backoff → String
  | none => "None"
  | fixed delay => "Fixed(" ++ delay.text ++ ")"
  | exponential initial largest =>
    "Exponential \x7b initial: " ++ initial.text ++ ", max: " ++ largest.text ++ " \x7d"

end Backoff

end ServiceRouting
