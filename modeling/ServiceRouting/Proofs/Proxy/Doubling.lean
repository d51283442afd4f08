import ServiceRouting.Proofs.Proxy.Backoff

/-!
# How far a delay doubles

An exponential backoff is meant to double its delay with each attempt until it is the largest one
(`KeepsDoubling`), so that all delays are the largest in the end (`ReachesLargest`). It stops after
sixteen doublings. `Doubling` says what that leaves: both hold exactly where the largest delay is at
most 65536 times the first one, and otherwise some delays stay below the largest for ever.
-/

namespace ServiceRouting

namespace Backoff

open Duration

/-- The first delay doubled with each attempt after the first, up to the largest delay, in exact
nanoseconds. -/
def doubled (initial largest : Duration) (attempt : Nat) : Nat :=
  Nat.min (initial.totalNanos * Nat.pow 2 (attempt - 1)) largest.totalNanos

/-- At every attempt and for every jitter there is a delay, and it has doubled that often. -/
def KeepsDoubling (initial largest : Duration) : Prop :=
  ∀ attempt jitter, 1 ≤ attempt → jitter < jitterLimit →
    ∃ d, (exponential initial largest).delay? attempt jitter = some d ∧
      doubled initial largest attempt ≤ d.totalNanos

/-- From some attempt on every delay is the largest. -/
def ReachesLargest (initial largest : Duration) : Prop :=
  ∃ first, ∀ attempt jitter, first ≤ attempt → jitter < jitterLimit →
    (exponential initial largest).delay? attempt jitter = some largest

/-- How far the delays of an exponential backoff double. -/
structure Doubling (initial largest : Duration) : Prop where
  /-- Up to the seventeenth attempt a delay has doubled with each attempt, and from then on it is at
  least as long as it was there. -/
  lower : ∀ attempt jitter, 1 ≤ attempt → jitter < jitterLimit →
    ∃ d, (exponential initial largest).delay? attempt jitter = some d ∧
      doubled initial largest (Nat.min attempt 17) ≤ d.totalNanos
  /-- Up to the seventeenth attempt a delay without jitter is the doubled first one, and from then
  on it is the one of that attempt. -/
  attained : ∀ attempt, 1 ≤ attempt →
    ∃ d, (exponential initial largest).delay? attempt 0 = some d ∧
      d.totalNanos = doubled initial largest (Nat.min attempt 17)
  /-- Once doubling has come to the largest delay, at the seventeenth attempt or before, every delay
  is the largest. -/
  stays : ∀ first, first ≤ 17 →
    largest.totalNanos ≤ initial.totalNanos * Nat.pow 2 (first - 1) →
    ∀ attempt jitter, first ≤ attempt → jitter < jitterLimit →
      (exponential initial largest).delay? attempt jitter = some largest
  /-- Delays double as they should exactly where sixteen doublings suffice. -/
  keeps : KeepsDoubling initial largest ↔ largest.totalNanos ≤ initial.totalNanos * 65536
  /-- Delays come to the largest one exactly where sixteen doublings suffice. -/
  reaches : ReachesLargest initial largest ↔ largest.totalNanos ≤ initial.totalNanos * 65536

variable {initial largest d : Duration} {attempt first jitter : Nat}

/-- All jitters have a delay if there is room for a jitter above the largest delay. -/
theorem exists_delay?_of_room (initial : Duration)
    (hroom : largest.totalNanos + 49 * 1000000 < nanosLimit) (attempt : Nat)
    (h : jitter < jitterLimit) :
    ∃ d, (exponential initial largest).delay? attempt jitter = some d := by
  have hbase := base_le_largest initial largest attempt
  have hjitter : jitter < 50 := h
  refine exists_delay? h ?_
  omega

/-- Doubling after the seventeenth attempt changes nothing. -/
theorem doublings_eq (attempt : Nat) : doublings attempt = Nat.min attempt 17 - 1 := by
  show min (attempt - 1) 16 = min attempt 17 - 1
  omega

/-- A delay is the doubled first one and its jitter, up to the largest delay. The largest duration
does not cut it, since the largest delay is none longer. -/
theorem totalNanos_of_delay?_eq_some (h : jitter < jitterLimit)
    (hd : (exponential initial largest).delay? attempt jitter = some d) :
    d.totalNanos = Nat.min
      (initial.totalNanos * Nat.pow 2 (Nat.min attempt 17 - 1) + jitter * 1000000)
      largest.totalNanos := by
  have hlimit := totalNanos_lt largest
  rw [totalNanos_of_delay? h hd, totalNanos_base, doublings_eq]
  generalize initial.totalNanos * Nat.pow 2 (Nat.min attempt 17 - 1) = exact
  show min (min (min exact (nanosLimit - 1)) largest.totalNanos + jitter * 1000000)
      largest.totalNanos = min (exact + jitter * 1000000) largest.totalNanos
  omega

/-- A delay is at least the doubled first one. -/
theorem doubled_le_of_delay? (h : jitter < jitterLimit)
    (hd : (exponential initial largest).delay? attempt jitter = some d) :
    doubled initial largest (Nat.min attempt 17) ≤ d.totalNanos := by
  rw [totalNanos_of_delay?_eq_some h hd, doubled]
  refine Nat.le_min.2 ⟨Nat.le_trans (Nat.min_le_left _ _) ?_, Nat.min_le_right _ _⟩
  exact Nat.le_add_right _ _

/-- The delay without jitter is the doubled first one, and from the seventeenth attempt on that of
the seventeenth. -/
theorem totalNanos_base_eq_doubled (initial largest : Duration) (attempt : Nat) :
    (base initial largest attempt).totalNanos =
      doubled initial largest (Nat.min attempt 17) := by
  have hzero := totalNanos_of_delay?_eq_some (by decide) (delay?_zero initial largest attempt)
  rwa [Nat.zero_mul, Nat.add_zero] at hzero

/-- Later attempts have doubled at least as often. -/
theorem doubled_le_doubled (initial largest : Duration) {attempt later : Nat}
    (h : attempt ≤ later) : doubled initial largest attempt ≤ doubled initial largest later := by
  have hpower : Nat.pow 2 (attempt - 1) ≤ Nat.pow 2 (later - 1) :=
    Nat.pow_le_pow_right (by decide) (by omega)
  have hdoubled := Nat.mul_le_mul_left initial.totalNanos hpower
  exact Nat.le_min.2 ⟨Nat.le_trans (Nat.min_le_left _ _) hdoubled, Nat.min_le_right _ _⟩

/-- An attempt at which doubling has come to the largest delay, and every later one, has that delay
alone. -/
theorem delay?_eq_largest (hroom : largest.totalNanos + 49 * 1000000 < nanosLimit)
    (hfirst : first ≤ 17)
    (hcome : largest.totalNanos ≤ initial.totalNanos * Nat.pow 2 (first - 1))
    (hle : first ≤ attempt) (h : jitter < jitterLimit) :
    (exponential initial largest).delay? attempt jitter = some largest := by
  obtain ⟨d, hd⟩ := exists_delay?_of_room initial hroom attempt h
  have hdoubled : doubled initial largest first = largest.totalNanos := Nat.min_eq_right hcome
  have hlater : doubled initial largest first ≤ doubled initial largest (Nat.min attempt 17) :=
    doubled_le_doubled initial largest (Nat.le_min.2 ⟨hle, hfirst⟩)
  have hlow := doubled_le_of_delay? h hd
  have hhigh := (delay?_within h hd).2
  rw [hd, ext_totalNanos (a := d) (b := largest) (by omega)]

/-- Where sixteen doublings do not suffice, no delay without jitter is the largest. -/
theorem base_lt_largest (h : initial.totalNanos * 65536 < largest.totalNanos) (attempt : Nat) :
    (base initial largest attempt).totalNanos < largest.totalNanos := by
  have hle : doubled initial largest (Nat.min attempt 17) ≤ doubled initial largest 17 :=
    doubled_le_doubled initial largest (Nat.min_le_right attempt 17)
  have hlast : doubled initial largest 17 = initial.totalNanos * 65536 :=
    Nat.min_eq_left (Nat.le_of_lt h)
  rw [totalNanos_base_eq_doubled]
  omega

/-- Delays that keep doubling come to the largest within sixteen doublings: the eighteenth is no
longer than the seventeenth. -/
theorem largest_le_of_keepsDoubling (hpositive : 0 < initial.totalNanos)
    (h : KeepsDoubling initial largest) : largest.totalNanos ≤ initial.totalNanos * 65536 := by
  obtain ⟨d, hd, hle⟩ := h 18 0 (by decide) (by decide)
  obtain rfl := Option.some.inj ((delay?_zero initial largest 18).symm.trans hd)
  rw [totalNanos_base_eq_doubled] at hle
  change min (initial.totalNanos * 131072) largest.totalNanos ≤
    min (initial.totalNanos * 65536) largest.totalNanos at hle
  omega

/-- Where sixteen doublings suffice, delays keep doubling. -/
theorem keepsDoubling_of_le (hroom : largest.totalNanos + 49 * 1000000 < nanosLimit)
    (h : largest.totalNanos ≤ initial.totalNanos * 65536) : KeepsDoubling initial largest := by
  intro attempt jitter _ hjitter
  by_cases hearly : attempt ≤ 17
  · obtain ⟨d, hd⟩ := exists_delay?_of_room initial hroom attempt hjitter
    have hlow := doubled_le_of_delay? hjitter hd
    have hmin : Nat.min attempt 17 = attempt := Nat.min_eq_left hearly
    exact ⟨d, hd, hmin ▸ hlow⟩
  · have hlate : 17 ≤ attempt := Nat.le_of_not_le hearly
    exact ⟨largest, delay?_eq_largest hroom (Nat.le_refl 17) h hlate hjitter,
      Nat.min_le_right _ _⟩

/-- Delays that come to the largest do so within sixteen doublings. -/
theorem largest_le_of_reachesLargest (h : ReachesLargest initial largest) :
    largest.totalNanos ≤ initial.totalNanos * 65536 := by
  obtain ⟨first, hfirst⟩ := h
  have hlargest := hfirst first 0 (Nat.le_refl first) (by decide)
  have hbase := Option.some.inj ((delay?_zero initial largest first).symm.trans hlargest)
  refine Nat.not_lt.1 fun hlt => ?_
  have := base_lt_largest hlt first
  rw [hbase] at this
  exact Nat.lt_irrefl _ this

/-- How far the delays of an exponential backoff double, if the first one is not zero and there is
room for a jitter above the largest. -/
theorem doubles_sixteenTimes (initial largest : Duration) (hpositive : 0 < initial.totalNanos)
    (hroom : largest.totalNanos + 49 * 1000000 < nanosLimit) : Doubling initial largest where
  lower attempt jitter _ h := by
    obtain ⟨d, hd⟩ := exists_delay?_of_room initial hroom attempt h
    exact ⟨d, hd, doubled_le_of_delay? h hd⟩
  attained attempt _ :=
    ⟨_, delay?_zero initial largest attempt, totalNanos_base_eq_doubled initial largest attempt⟩
  stays _ hfirst hcome _ _ hle h := delay?_eq_largest hroom hfirst hcome hle h
  keeps := ⟨largest_le_of_keepsDoubling hpositive, keepsDoubling_of_le hroom⟩
  reaches := ⟨largest_le_of_reachesLargest, fun hsuffice =>
    ⟨17, fun _ _ hle h => delay?_eq_largest hroom (Nat.le_refl 17) hsuffice hle h⟩⟩

/-- From one millisecond the delays come to 65536 milliseconds, and no further. -/
theorem doubles_sixteenTimes_of_millisecond :
    0 < (ofMillis 1).totalNanos ∧ (ofMillis 65537).totalNanos + 49 * 1000000 < nanosLimit ∧
    Doubling (ofMillis 1) (ofMillis 65537) ∧ KeepsDoubling (ofMillis 1) (ofMillis 65536) ∧
    ¬ KeepsDoubling (ofMillis 1) (ofMillis 65537) ∧
    ¬ ReachesLargest (ofMillis 1) (ofMillis 65537) := by
  have hpositive : 0 < (ofMillis 1).totalNanos := by decide
  have hroom : (ofMillis 65537).totalNanos + 49 * 1000000 < nanosLimit := by decide
  have hdoubling := doubles_sixteenTimes (ofMillis 1) (ofMillis 65537) hpositive hroom
  refine ⟨hpositive, hroom, hdoubling, keepsDoubling_of_le (by decide) (by decide), ?_, ?_⟩
  · exact mt hdoubling.keeps.1 (by decide)
  · exact mt hdoubling.reaches.1 (by decide)

/-- The proxies of a node whose settings are one millisecond and 100 seconds at most do not come to
100 seconds: the eighteenth delay is that of the seventeenth, without jitter 65536 milliseconds. -/
theorem delays_short_of_largest :
    let settings : ProxyConfig := { retryDelayMs := 1, maxRetryDelayMs := some 100000 }
    settings.backoff = .exponential (ofMillis 1) (ofMillis 100000) ∧
    0 < (ofMillis 1).totalNanos ∧ (ofMillis 1).totalNanos ≤ (ofMillis 100000).totalNanos ∧
    (ofMillis 100000).totalNanos + 49 * 1000000 < nanosLimit ∧
    settings.backoff.delay? 18 0 = some (ofMillis 65536) ∧
    doubled (ofMillis 1) (ofMillis 100000) 18 = (ofMillis 100000).totalNanos ∧
    ¬ KeepsDoubling (ofMillis 1) (ofMillis 100000) ∧
    ¬ ReachesLargest (ofMillis 1) (ofMillis 100000) := by
  intro settings
  have hpositive : 0 < (ofMillis 1).totalNanos := by decide
  have hfar : ¬ (ofMillis 100000).totalNanos ≤ (ofMillis 1).totalNanos * 65536 := by decide
  refine ⟨by decide, hpositive, by decide, by decide, by decide, by decide, fun hkeeps => ?_,
    fun hreaches => ?_⟩
  · exact hfar (largest_le_of_keepsDoubling hpositive hkeeps)
  · exact hfar (largest_le_of_reachesLargest hreaches)

end Backoff

end ServiceRouting
