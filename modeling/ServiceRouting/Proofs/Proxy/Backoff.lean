import ServiceRouting.Config.Basic
import ServiceRouting.Proofs.Json.Inversion
import ServiceRouting.Proxy.Backoff

/-!
# Delays between attempts

What the delays of an exponential backoff are over all attempts and jitters, in exact numbers of
nanoseconds. Read `Backoff.Ranged` first. A delay does not exist where delay and jitter together
make no duration; the settings of a node stay far below that, so the delays of its proxies always
exist (`ProxyConfig.Paced`).
-/

namespace ServiceRouting

namespace Duration

/-- A number below the limit makes a duration. -/
theorem exists_of_ofNanos? {n : Nat} (h : n < nanosLimit) :
    ∃ d, ofNanos? n = some d ∧ d.totalNanos = n := by
  cases hd : ofNanos? n with
  | none => exact absurd (ofNanos?_eq_none_iff.1 hd) (Nat.not_le.2 h)
  | some d => exact ⟨d, rfl, totalNanos_of_ofNanos? hd⟩

/-- A duration is determined by its nanoseconds. -/
theorem ext_totalNanos {a b : Duration} (h : a.totalNanos = b.totalNanos) : a = b := by
  obtain ⟨seconds, nanos, hseconds, hnanos⟩ := a
  obtain ⟨seconds', nanos', hseconds', hnanos'⟩ := b
  simp only [totalNanos] at h
  obtain rfl : seconds = seconds' := by omega
  obtain rfl : nanos = nanos' := by omega
  rfl

/-- Milliseconds are exact as long as they make a duration. -/
theorem totalNanos_ofMillis {ms : Nat} (h : ms * 1000000 < nanosLimit) :
    (ofMillis ms).totalNanos = ms * 1000000 := by
  obtain ⟨d, hd, hnanos⟩ := exists_of_ofNanos? h
  rw [ofMillis, hd]
  exact hnanos

/-- Two durations have no sum exactly when their nanoseconds reach the limit. -/
theorem add?_eq_none_iff {a b : Duration} :
    a.add? b = none ↔ nanosLimit ≤ a.totalNanos + b.totalNanos :=
  ofNanos?_eq_none_iff

/-- A sum has the nanoseconds of both durations. -/
theorem totalNanos_of_add? {a b d : Duration} (h : a.add? b = some d) :
    d.totalNanos = a.totalNanos + b.totalNanos :=
  totalNanos_of_ofNanos? h

end Duration

namespace Backoff

open Duration

/-- The delays of an exponential backoff, attempt by attempt, for every jitter. -/
structure Ranged (initial largest : Duration) : Prop where
  /-- Without jitter the first delay is doubled up to sixteen times, and cut at the largest duration
  and at the largest delay. -/
  base : ∀ attempt, (base initial largest attempt).totalNanos =
    Nat.min (Nat.min (initial.totalNanos * Nat.pow 2 (Nat.min (attempt - 1) 16)) (nanosLimit - 1))
      largest.totalNanos
  /-- There is no delay exactly where delay and jitter make no duration. -/
  fails : ∀ attempt jitter, jitter < jitterLimit →
    ((exponential initial largest).delay? attempt jitter = .none ↔
      nanosLimit ≤ (Backoff.base initial largest attempt).totalNanos + jitter * 1000000)
  /-- Any other delay has its jitter up to the largest delay. -/
  exact : ∀ attempt jitter d, jitter < jitterLimit →
    (exponential initial largest).delay? attempt jitter = some d →
    d.totalNanos = Nat.min ((Backoff.base initial largest attempt).totalNanos + jitter * 1000000)
      largest.totalNanos
  /-- Every delay lies between the delay without jitter and the largest delay. -/
  within : ∀ attempt jitter d, jitter < jitterLimit →
    (exponential initial largest).delay? attempt jitter = some d →
    (Backoff.base initial largest attempt).totalNanos ≤ d.totalNanos ∧
      d.totalNanos ≤ largest.totalNanos
  /-- The range of an attempt has the delays for all jitters in it, and begins with the delay
  without jitter. -/
  range : ∀ attempt shortest longest,
    (exponential initial largest).range? attempt = some (shortest, longest) →
    shortest = Backoff.base initial largest attempt ∧
      ∀ jitter, jitter < jitterLimit →
        ∃ d, (exponential initial largest).delay? attempt jitter = some d ∧
          shortest.totalNanos ≤ d.totalNanos ∧ d.totalNanos ≤ longest.totalNanos
  /-- The range of an earlier attempt lies no higher at either end, and exists if that of the later
  one does. -/
  grows : ∀ attempt later shortest longest, attempt ≤ later →
    (exponential initial largest).range? later = some (shortest, longest) →
    ∃ shortest' longest',
      (exponential initial largest).range? attempt = some (shortest', longest') ∧
        shortest'.totalNanos ≤ shortest.totalNanos ∧ longest'.totalNanos ≤ longest.totalNanos
  /-- From the seventeenth attempt on nothing changes any more. -/
  settles : ∀ attempt, 17 ≤ attempt → ∀ jitter,
    (exponential initial largest).delay? attempt jitter =
      (exponential initial largest).delay? 17 jitter

variable {initial largest : Duration} {attempt later jitter : Nat} {d : Duration}

/-- The delay without jitter in exact numbers. -/
theorem totalNanos_base (initial largest : Duration) (attempt : Nat) :
    (base initial largest attempt).totalNanos =
      Nat.min (Nat.min (initial.totalNanos * Nat.pow 2 (doublings attempt)) (nanosLimit - 1))
        largest.totalNanos := by
  rw [base, totalNanos_min, totalNanos_saturatingMul]

/-- No delay is longer than the largest. -/
theorem base_le_largest (initial largest : Duration) (attempt : Nat) :
    (base initial largest attempt).totalNanos ≤ largest.totalNanos := by
  rw [totalNanos_base]
  exact Nat.min_le_right _ _

/-- A first delay that is not longer than the largest is not cut. -/
theorem initial_le_base (h : initial.totalNanos ≤ largest.totalNanos) (attempt : Nat) :
    initial.totalNanos ≤ (base initial largest attempt).totalNanos := by
  have hdoubled : initial.totalNanos ≤ initial.totalNanos * Nat.pow 2 (doublings attempt) :=
    Nat.le_mul_of_pos_right _ (Nat.pow_pos (by decide))
  have hlimit := initial.totalNanos_lt
  rw [totalNanos_base]
  exact Nat.le_min.2 ⟨Nat.le_min.2 ⟨hdoubled, by omega⟩, h⟩

/-- Later attempts have doubled at least as often. -/
theorem doublings_le_doublings (h : attempt ≤ later) : doublings attempt ≤ doublings later := by
  have hbefore : attempt - 1 ≤ later - 1 := Nat.sub_le_sub_right h 1
  exact Nat.le_min.2 ⟨Nat.le_trans (Nat.min_le_left _ _) hbefore, Nat.min_le_right _ _⟩

/-- The delays of later attempts without jitter are at least as long. -/
theorem base_le_base (initial largest : Duration) (h : attempt ≤ later) :
    (base initial largest attempt).totalNanos ≤ (base initial largest later).totalNanos := by
  have hpower : Nat.pow 2 (doublings attempt) ≤ Nat.pow 2 (doublings later) :=
    Nat.pow_le_pow_right (by decide) (doublings_le_doublings h)
  have hdoubled := Nat.mul_le_mul_left initial.totalNanos hpower
  rw [totalNanos_base, totalNanos_base]
  refine Nat.le_min.2 ⟨Nat.le_min.2 ⟨?_, ?_⟩, Nat.min_le_right _ _⟩
  · exact Nat.le_trans (Nat.min_le_left _ _) (Nat.le_trans (Nat.min_le_left _ _) hdoubled)
  · exact Nat.le_trans (Nat.min_le_left _ _) (Nat.min_le_right _ _)

/-- A jitter is exact in nanoseconds. -/
theorem totalNanos_jitter (h : jitter < jitterLimit) :
    (ofMillis jitter).totalNanos = jitter * 1000000 := by
  refine totalNanos_ofMillis ?_
  simp only [jitterLimit, nanosLimit] at h ⊢
  omega

/-- There is no delay exactly where the delay without jitter and the jitter make no duration. -/
theorem delay?_eq_none_iff (h : jitter < jitterLimit) :
    (exponential initial largest).delay? attempt jitter = .none ↔
      nanosLimit ≤ (base initial largest attempt).totalNanos + jitter * 1000000 := by
  rw [delay?, Option.map_eq_none_iff, add?_eq_none_iff, totalNanos_jitter h]

/-- A delay is the one without jitter and the jitter, cut at the largest delay. -/
theorem totalNanos_of_delay? (h : jitter < jitterLimit)
    (hd : (exponential initial largest).delay? attempt jitter = some d) :
    d.totalNanos = Nat.min ((base initial largest attempt).totalNanos + jitter * 1000000)
      largest.totalNanos := by
  obtain ⟨sum, hsum, rfl⟩ := Option.map_eq_some_iff.1 hd
  rw [totalNanos_min, totalNanos_of_add? hsum, totalNanos_jitter h]

/-- Below the limit there is a delay. -/
theorem exists_delay? (h : jitter < jitterLimit)
    (hlimit : (base initial largest attempt).totalNanos + jitter * 1000000 < nanosLimit) :
    ∃ d, (exponential initial largest).delay? attempt jitter = some d := by
  refine Option.ne_none_iff_exists'.1 fun hnone => ?_
  exact Nat.not_le.2 hlimit ((delay?_eq_none_iff h).1 hnone)

/-- A delay lies between the one without jitter and the largest. -/
theorem delay?_within (h : jitter < jitterLimit)
    (hd : (exponential initial largest).delay? attempt jitter = some d) :
    (base initial largest attempt).totalNanos ≤ d.totalNanos ∧
      d.totalNanos ≤ largest.totalNanos := by
  rw [totalNanos_of_delay? h hd]
  exact ⟨Nat.le_min.2 ⟨Nat.le_add_right _ _, base_le_largest initial largest attempt⟩,
    Nat.min_le_right _ _⟩

/-- A first delay that is not longer than the largest bounds the delays from below, where there is
room for the jitter above the largest. -/
theorem exists_delay?_between (hinitial : initial.totalNanos ≤ largest.totalNanos) (attempt : Nat)
    (h : jitter < jitterLimit) (hroom : largest.totalNanos + jitter * 1000000 < nanosLimit) :
    ∃ d, (exponential initial largest).delay? attempt jitter = some d ∧
      initial.totalNanos ≤ d.totalNanos ∧ d.totalNanos ≤ largest.totalNanos := by
  have hlargest := base_le_largest initial largest attempt
  obtain ⟨d, hd⟩ : ∃ d, (exponential initial largest).delay? attempt jitter = some d :=
    exists_delay? h (Nat.lt_of_le_of_lt (Nat.add_le_add_right hlargest _) hroom)
  obtain ⟨hlow, hhigh⟩ := delay?_within h hd
  exact ⟨d, hd, Nat.le_trans (initial_le_base hinitial attempt) hlow, hhigh⟩

/-- If a later attempt has a delay for a longer jitter, an earlier one has a delay, and it is not
longer. -/
theorem exists_delay?_le {longer : Nat} (hattempt : attempt ≤ later) (hjitter : jitter ≤ longer)
    (h : longer < jitterLimit) (hd : (exponential initial largest).delay? later longer = some d) :
    ∃ d', (exponential initial largest).delay? attempt jitter = some d' ∧
      d'.totalNanos ≤ d.totalNanos := by
  have hbase := base_le_base initial largest hattempt
  have hlimit : (base initial largest later).totalNanos + longer * 1000000 < nanosLimit := by
    refine Nat.lt_of_not_le fun hle => ?_
    rw [(delay?_eq_none_iff h).2 hle] at hd
    cases hd
  have hsmaller : jitter < jitterLimit := Nat.lt_of_le_of_lt hjitter h
  obtain ⟨d', hd'⟩ : ∃ d', (exponential initial largest).delay? attempt jitter = some d' :=
    exists_delay? hsmaller (by omega)
  refine ⟨d', hd', ?_⟩
  rw [totalNanos_of_delay? hsmaller hd', totalNanos_of_delay? h hd]
  have hsum : (base initial largest attempt).totalNanos + jitter * 1000000 ≤
      (base initial largest later).totalNanos + longer * 1000000 := by omega
  exact Nat.le_min.2 ⟨Nat.le_trans (Nat.min_le_left _ _) hsum, Nat.min_le_right _ _⟩

/-- Without jitter the delay is the one that the backoff has for the attempt. -/
theorem delay?_zero (initial largest : Duration) (attempt : Nat) :
    (exponential initial largest).delay? attempt 0 = some (base initial largest attempt) := by
  have hzero : 0 < jitterLimit := by decide
  have hlimit := totalNanos_lt (base initial largest attempt)
  have hle := base_le_largest initial largest attempt
  obtain ⟨d, hd⟩ : ∃ d, (exponential initial largest).delay? attempt 0 = some d :=
    exists_delay? hzero (by rwa [Nat.zero_mul, Nat.add_zero])
  have hnanos := totalNanos_of_delay? hzero hd
  rw [Nat.zero_mul, Nat.add_zero] at hnanos
  rw [hd, ext_totalNanos (hnanos.trans (Nat.min_eq_left hle))]

/-- The range of an attempt is made of the delays without jitter and with the longest one. -/
theorem range?_eq_some_iff {shortest longest : Duration} :
    (exponential initial largest).range? attempt = some (shortest, longest) ↔
      shortest = base initial largest attempt ∧
        (exponential initial largest).delay? attempt (jitterLimit - 1) = some longest := by
  rw [range?, delay?_zero]
  generalize (exponential initial largest).delay? attempt (jitterLimit - 1) = last
  cases last with
  | none => simp
  | some d => simp [eq_comm]

/-- After sixteen doublings nothing changes. -/
theorem delay?_of_le (h : 17 ≤ attempt) (initial largest : Duration) (jitter : Nat) :
    (exponential initial largest).delay? attempt jitter =
      (exponential initial largest).delay? 17 jitter := by
  have hdoublings : doublings attempt = doublings 17 := Nat.min_eq_right (by
    show 16 ≤ attempt - 1
    omega)
  rw [delay?, delay?, base, base, hdoublings]

/-- What the delays of an exponential backoff are. -/
theorem ranged (initial largest : Duration) : Ranged initial largest where
  base := totalNanos_base initial largest
  fails _ _ h := delay?_eq_none_iff h
  exact _ _ _ h hd := totalNanos_of_delay? h hd
  within _ _ _ h hd := delay?_within h hd
  range attempt shortest longest hrange := by
    obtain ⟨rfl, hlongest⟩ := range?_eq_some_iff.1 hrange
    refine ⟨rfl, fun jitter h => ?_⟩
    obtain ⟨d, hd, hle⟩ :=
      exists_delay?_le (Nat.le_refl attempt) (Nat.le_sub_one_of_lt h) (by decide) hlongest
    exact ⟨d, hd, (delay?_within h hd).1, hle⟩
  grows attempt later shortest longest hle hrange := by
    obtain ⟨rfl, hlongest⟩ := range?_eq_some_iff.1 hrange
    obtain ⟨longest', hlongest', hgrows⟩ :=
      exists_delay?_le hle (Nat.le_refl _) (by decide) hlongest
    exact ⟨_, longest', range?_eq_some_iff.2 ⟨rfl, hlongest'⟩, base_le_base initial largest hle,
      hgrows⟩
  settles _ h := delay?_of_le h initial largest

end Backoff

namespace ProxyConfig

open Duration

/-- Settings whose delays fit 64 bits, as settings that are read do. -/
structure Fits (p : ProxyConfig) : Prop where
  retry : p.retryDelayMs < 18446744073709551616
  largest : ∀ ms, p.maxRetryDelayMs = some ms → ms < 18446744073709551616

/-- The delays of the proxies of a node, for every attempt and every jitter. -/
structure Paced (p : ProxyConfig) : Prop where
  /-- There always is a delay, between the first one of the settings and the largest. -/
  bounded : ∀ attempt jitter, jitter < Backoff.jitterLimit →
    ∃ d, p.backoff.delay? attempt jitter = some d ∧
      p.retryDelayMs * 1000000 ≤ d.totalNanos ∧
      d.totalNanos ≤ Nat.max p.retryDelayMs (p.maxRetryDelayMs.getD 0) * 1000000
  /-- A delay is no time at all only if the settings say so. -/
  zero : ∀ attempt jitter, jitter < Backoff.jitterLimit →
    (p.backoff.delay? attempt jitter = some .zero ↔ p.retryDelayMs = 0)

variable {p : ProxyConfig}

/-- A count that is read fits 64 bits. -/
theorem lt_of_count {d : Document} {n : Nat} (h : d.count = .ok n) : n < 18446744073709551616 := by
  unfold Document.count Document.natBelow at h
  split at h
  next value =>
    split at h
    next hfits =>
      obtain rfl := Except.ok.inj h
      omega
    next => cases h
  next => cases d <;> cases h

/-- Settings that are read fit. -/
theorem fits_of_ofDocument {d : Document} (h : ofDocument d = .ok p) : p.Fits := by
  obtain ⟨r, -, h⟩ := exists_of_bind_eq_ok h
  obtain ⟨retry, hretry, h⟩ := exists_of_bind_eq_ok h
  obtain ⟨largest, hlargest, h⟩ := exists_of_bind_eq_ok h
  obtain ⟨timeout, -, h⟩ := exists_of_bind_eq_ok h
  obtain ⟨verify, -, h⟩ := exists_of_bind_eq_ok h
  obtain ⟨sticky, -, h⟩ := exists_of_bind_eq_ok h
  obtain rfl := Except.ok.inj h
  constructor
  · show retry < 18446744073709551616
    rcases Document.of_withDefault hretry with rfl | ⟨field, hfield⟩
    · decide
    · exact lt_of_count hfield
  · rintro ms rfl
    rcases Document.of_withDefault hlargest with hnone | ⟨field, hfield⟩
    · cases hnone
    · exact lt_of_count (Document.of_optional hfield)

/-- Milliseconds that fit 64 bits are exact. -/
theorem totalNanos_of_lt {ms : Nat} (h : ms < 18446744073709551616) :
    (ofMillis ms).totalNanos = ms * 1000000 := by
  refine totalNanos_ofMillis ?_
  rw [nanosLimit]
  omega

/-- Settings that fit leave room for every jitter. -/
theorem add_jitter_lt {ms jitter : Nat} (h : ms < 18446744073709551616)
    (hjitter : jitter < Backoff.jitterLimit) :
    (ofMillis ms).totalNanos + jitter * 1000000 < nanosLimit := by
  have hjitter : jitter < 50 := hjitter
  rw [totalNanos_of_lt h, nanosLimit]
  omega

/-- A delay that is always the same is the first one of the settings. -/
theorem bounded_fixed (h : p.Fits) :
    p.retryDelayMs * 1000000 ≤ (ofMillis p.retryDelayMs).totalNanos ∧
      (ofMillis p.retryDelayMs).totalNanos ≤
        Nat.max p.retryDelayMs (p.maxRetryDelayMs.getD 0) * 1000000 := by
  rw [totalNanos_of_lt h.retry]
  exact ⟨Nat.le_refl _, Nat.mul_le_mul_right _ (Nat.le_max_left _ _)⟩

/-- The delays of a node's proxies exist, and lie between those of the settings. -/
theorem bounded_of_fits (h : p.Fits) (attempt : Nat) {jitter : Nat}
    (hjitter : jitter < Backoff.jitterLimit) :
    ∃ d, p.backoff.delay? attempt jitter = some d ∧
      p.retryDelayMs * 1000000 ≤ d.totalNanos ∧
      d.totalNanos ≤ Nat.max p.retryDelayMs (p.maxRetryDelayMs.getD 0) * 1000000 := by
  unfold backoff
  split
  next hzero =>
    rw [hzero, Nat.zero_mul]
    exact ⟨_, rfl, Nat.zero_le _, Nat.zero_le _⟩
  next =>
    split
    next ms hms =>
      split
      next hlonger =>
        have hfits := h.largest ms hms
        have hinitial : (ofMillis p.retryDelayMs).totalNanos ≤ (ofMillis ms).totalNanos := by
          rw [totalNanos_of_lt h.retry, totalNanos_of_lt hfits]
          exact Nat.mul_le_mul_right _ (Nat.le_of_lt hlonger)
        obtain ⟨d, hd, hlow, hhigh⟩ :=
          Backoff.exists_delay?_between hinitial attempt hjitter (add_jitter_lt hfits hjitter)
        rw [totalNanos_of_lt h.retry] at hlow
        rw [totalNanos_of_lt hfits] at hhigh
        refine ⟨d, hd, hlow, Nat.le_trans hhigh (Nat.mul_le_mul_right _ ?_)⟩
        rw [hms]
        exact Nat.le_max_right _ _
      next => exact ⟨_, rfl, bounded_fixed h⟩
    next => exact ⟨_, rfl, bounded_fixed h⟩

/-- A delay of a node's proxies is no time at all exactly if the settings say so. -/
theorem delay?_eq_zero_iff (h : p.Fits) (attempt : Nat) {jitter : Nat}
    (hjitter : jitter < Backoff.jitterLimit) :
    p.backoff.delay? attempt jitter = some .zero ↔ p.retryDelayMs = 0 := by
  constructor
  · intro hzero
    obtain ⟨d, hd, hlow, -⟩ := bounded_of_fits h attempt hjitter
    obtain rfl : d = .zero := Option.some.inj (hd.symm.trans hzero)
    have hnone : Duration.zero.totalNanos = 0 := rfl
    omega
  · intro hzero
    rw [backoff, if_pos hzero]
    rfl

/-- The delays of an exponential backoff are exact and cut at the largest; those of the proxies of a
node always exist and lie between the delays of its settings. -/
theorem delays_bounded (initial largest : Duration) (p : ProxyConfig) (h : p.Fits) :
    Backoff.Ranged initial largest ∧ p.Paced :=
  ⟨Backoff.ranged initial largest,
    ⟨fun attempt _ hjitter => bounded_of_fits h attempt hjitter,
      fun attempt _ hjitter => delay?_eq_zero_iff h attempt hjitter⟩⟩

/-- The longest delays that settings can have: the first is doubled above the largest at once. -/
def slowest : ProxyConfig :=
  { retryDelayMs := 18446744073709551614, maxRetryDelayMs := some 18446744073709551615 }

/-- Where the largest duration is the largest delay there is no delay for some jitter; with the
longest delays of settings there always is one, and it is the largest from the second attempt on. -/
theorem delays_bounded_of_slowest :
    slowest.Fits ∧ Backoff.Ranged .max .max ∧ slowest.Paced ∧
    (Backoff.exponential .max .max).delay? 1 49 = none ∧
    slowest.backoff.delay? 2 49 = some (.ofMillis 18446744073709551615) := by
  have hfits : slowest.Fits := ⟨by decide, fun ms hms => by cases hms; decide⟩
  obtain ⟨hranged, hpaced⟩ := delays_bounded .max .max slowest hfits
  exact ⟨hfits, hranged, hpaced, by decide, by decide⟩

end ProxyConfig

end ServiceRouting
