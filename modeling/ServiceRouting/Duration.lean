/-!
# Durations

A span of time as whole seconds, fewer than 2^64, and fewer than 10^9 nanoseconds. Multiplication
saturates at the largest duration and addition fails above it. `totalNanos` is the span as one
number, in which the order and the operations are those of natural numbers.
-/

namespace ServiceRouting

/-- A span of time. -/
structure Duration where
  /-- Whole seconds. -/
  seconds : Nat
  /-- Nanoseconds beyond the whole seconds. -/
  nanos : Nat
  seconds_lt : seconds < 18446744073709551616 := by decide
  nanos_lt : nanos < 1000000000 := by decide
deriving DecidableEq

namespace Duration

/-- The span in nanoseconds. -/
def totalNanos (d : Duration) : Nat := d.seconds * 1000000000 + d.nanos

/-- The number of nanoseconds that is just too large for a duration. -/
def nanosLimit : Nat := 18446744073709551616 * 1000000000

/-- Every duration lies below the limit. -/
theorem totalNanos_lt (d : Duration) : d.totalNanos < nanosLimit := by
  have h1 := d.seconds_lt
  have h2 := d.nanos_lt
  simp only [totalNanos, nanosLimit]
  omega

/-- The duration of so many nanoseconds, if there is one. -/
def ofNanos? (n : Nat) : Option Duration :=
  if h : n < nanosLimit then
    some
      { seconds := n / 1000000000
        nanos := n % 1000000000
        seconds_lt := by simp only [nanosLimit] at h; omega
        nanos_lt := Nat.mod_lt _ (by decide) }
  else none

/-- No time at all. -/
def zero : Duration := { seconds := 0, nanos := 0 }

instance : Inhabited Duration := ⟨zero⟩

/-- The largest duration. -/
def max : Duration := { seconds := 18446744073709551615, nanos := 999999999 }

/-- So many milliseconds; the largest duration if there are too many. -/
def ofMillis (ms : Nat) : Duration := (ofNanos? (ms * 1000000)).getD max

/-- The sum, unless it is too large. -/
def add? (a b : Duration) : Option Duration := ofNanos? (a.totalNanos + b.totalNanos)

/-- The multiple, or the largest duration if it is too large. -/
def saturatingMul (d : Duration) (factor : Nat) : Duration :=
  (ofNanos? (d.totalNanos * factor)).getD max

/-- The shorter of two durations. -/
def min (a b : Duration) : Duration := if b.totalNanos < a.totalNanos then b else a

/-- The milliseconds of a timer for the duration: a part of a millisecond counts as a whole one. -/
def timerMillis (d : Duration) : Nat := (d.totalNanos + 999999) / 1000000

/-- The digits after the point: `value` in `width` places, without the zeros at the end. -/
def fractionDigits (value width : Nat) : List Char :=
  let digits := Nat.toDigits 10 value
  let padded := List.replicate (width - digits.length) '0' ++ digits
  (padded.reverse.dropWhile (· = '0')).reverse

/-- A whole number and a fraction of it, with a unit. -/
def decimalText (whole fraction width : Nat) (unit : String) : String :=
  let digits := fractionDigits fraction width
  toString whole ++ (if digits.isEmpty then "" else "." ++ String.ofList digits) ++ unit

/-- The duration in the largest unit of which it has at least one. -/
def text (d : Duration) : String :=
  if 0 < d.seconds then decimalText d.seconds d.nanos 9 "s"
  else if 1000000 ≤ d.nanos then decimalText (d.nanos / 1000000) (d.nanos % 1000000) 6 "ms"
  else if 1000 ≤ d.nanos then decimalText (d.nanos / 1000) (d.nanos % 1000) 3 "µs"
  else decimalText d.nanos 0 0 "ns"

/-- A duration made of a number of nanoseconds has that number of them. -/
theorem totalNanos_of_ofNanos? {n : Nat} {d : Duration} (h : ofNanos? n = some d) :
    d.totalNanos = n := by
  unfold ofNanos? at h
  split at h
  · obtain rfl := Option.some.inj h
    simp only [totalNanos]
    omega
  · simp at h

/-- A number of nanoseconds makes no duration exactly when it reaches the limit. -/
theorem ofNanos?_eq_none_iff {n : Nat} : ofNanos? n = none ↔ nanosLimit ≤ n := by
  unfold ofNanos?
  split <;> simp_all

/-- The largest duration lies just below the limit. -/
theorem totalNanos_max : max.totalNanos = nanosLimit - 1 := by decide

/-- The shorter of two durations has the smaller number of nanoseconds. -/
theorem totalNanos_min (a b : Duration) :
    (a.min b).totalNanos = Nat.min a.totalNanos b.totalNanos := by
  unfold Duration.min
  split
  next h => exact (Nat.min_eq_right (Nat.le_of_lt h)).symm
  next h => exact (Nat.min_eq_left (Nat.not_lt.1 h)).symm

/-- A multiple is exact up to the largest duration and stays there beyond it. -/
theorem totalNanos_saturatingMul (d : Duration) (factor : Nat) :
    (d.saturatingMul factor).totalNanos = Nat.min (d.totalNanos * factor) (nanosLimit - 1) := by
  unfold saturatingMul
  cases h : ofNanos? (d.totalNanos * factor) with
  | some r =>
    have hr := totalNanos_of_ofNanos? h
    have hlt := totalNanos_lt r
    rw [Option.getD_some, hr]
    exact (Nat.min_eq_left (by omega)).symm
  | none =>
    have := ofNanos?_eq_none_iff.1 h
    rw [Option.getD_none, totalNanos_max]
    exact (Nat.min_eq_right (by omega)).symm

end Duration

end ServiceRouting
