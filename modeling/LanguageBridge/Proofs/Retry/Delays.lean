import LanguageBridge.Backoff
import LanguageBridge.Proofs.Binary64.Rounding
import Mathlib.Data.Nat.Cast.Field

/-!
# How delays grow

A delay is a product in doubles, between two conversions that round as well.  In spite of four
roundings it behaves like the product of numbers that it stands for.  `delay_exact` says that
nothing at all is lost for a base of whole milliseconds up to a day.  `delay_rises` says of every
base, up to the longest duration, that the delay never falls from one attempt to the next, never
passes the maximum, and stays the same from the sixth attempt on.

The first is a matter of size.  Each rounding moves a number by at most its share of `2 ^ -53`, so
that what is turned back into nanoseconds lies less than half a nanosecond beside the exact product
(`abs_value_grown_sub_le`), and if that is a whole number, it is the one that is rounded to.  The
second holds because each of the roundings keeps the order, and the longest duration is no less than
what it stands in for.  What is rounded to what is said in full by `Computed`.
-/

namespace LanguageBridge

open Binary64 (value ofNat nearest RoundsTo IsDouble halfUnit)

/-! ## Seconds -/

namespace Duration

theorem second_pos : 0 < second := by decide

/-- The whole seconds are rounded to a double. -/
theorem roundsTo_whole (d : Duration) :
    RoundsTo ((d / second : ℕ) : ℚ) (ofNat (d / second)) := by
  have rounds := Binary64.roundsTo_nearest (d / second) Nat.one_pos
  rwa [Nat.cast_one, div_one] at rounds

/-- The fraction of a second is rounded to a double. -/
theorem roundsTo_fraction (d : Duration) :
    RoundsTo (((d % second : ℕ) : ℚ) / second) (nearest (d % second) second) :=
  Binary64.roundsTo_nearest (d % second) second_pos

/-- Seconds in doubles are off by no more than three roundings. -/
theorem abs_value_toSeconds_sub_le (d : Duration) :
    |value d.toSeconds - d / second| ≤ 3 * (d / second / 2 ^ 53) + 4 * halfUnit := by
  have tiny := Binary64.halfUnit_pos
  have whole : |value (ofNat (d / second)) - (d / second : ℕ)|
      ≤ (d / second : ℕ) / 2 ^ 53 + halfUnit := by
    have near := Binary64.abs_value_nearest_sub_le (d / second) Nat.one_pos
    rwa [Nat.cast_one, div_one] at near
  have fraction := Binary64.abs_value_nearest_sub_le (d % second) second_pos
  have sum := Binary64.abs_value_nearest_sub_le
    (ofNat (d / second) + nearest (d % second) second) Binary64.one_pos
  rw [← value, Binary64.value_add] at sum
  have nonneg : (0 : ℚ) ≤ (d / second : ℕ) := Nat.cast_nonneg _
  have nonneg' : (0 : ℚ) ≤ ((d % second : ℕ) : ℚ) / second :=
    div_nonneg (Nat.cast_nonneg _) (Nat.cast_nonneg _)
  rw [← div_add_mod_div d second_pos, toSeconds, Binary64.add]
  rw [abs_le] at whole fraction sum ⊢
  constructor <;> linarith

/-! ## Back from seconds -/

/-- The nanoseconds of some seconds are rounded to a whole number. -/
theorem roundsToWhole_nanos (units : ℕ) :
    RoundsToWhole (value units * second) (divNearestEven (units * second) Binary64.one) := by
  have rounds := roundsToWhole_divNearestEven (units * second) Binary64.one_pos
  rwa [Nat.cast_mul, mul_div_right_comm] at rounds

/-- What comes back from seconds is the nearest number of nanoseconds, or nothing if that is too
long. -/
theorem ofSeconds?_eq (units : ℕ) :
    ofSeconds? units
      = if divNearestEven (units * second) Binary64.one ≤ longest then
          some (divNearestEven (units * second) Binary64.one) else none := rfl

/-- Seconds within the longest duration come back as nanoseconds. -/
theorem ofSeconds?_of_lt {units : ℕ} (double : IsDouble units) (lt : value units < 2 ^ 64) :
    ∃ nanos, ofSeconds? units = some nanos ∧ RoundsToWhole (value units * second) nanos := by
  have rounds := roundsToWhole_nanos units
  have below : value units * second ≤ ((2 ^ 64 - 1) * second : ℕ) := by
    have less := double.value_le (by norm_num) lt
    push_cast
    exact mul_le_mul_of_nonneg_right (by exact_mod_cast less) (Nat.cast_nonneg _)
  have within := (rounds.le_of_le below).trans (by decide : (2 ^ 64 - 1) * second ≤ longest)
  exact ⟨_, by rw [ofSeconds?_eq, if_pos within], rounds⟩

/-- Seconds beyond the longest duration do not. -/
theorem ofSeconds?_of_le {units : ℕ} (le : 2 ^ 64 ≤ value units) : ofSeconds? units = none := by
  have above : ((2 ^ 64 * second : ℕ) : ℚ) ≤ value units * second := by
    push_cast
    exact mul_le_mul_of_nonneg_right le (Nat.cast_nonneg _)
  have beyond := Nat.lt_of_lt_of_le (by decide : longest < 2 ^ 64 * second)
    ((roundsToWhole_nanos units).ge_of_ge above)
  rw [ofSeconds?_eq, if_neg (Nat.not_le.2 beyond)]

/-- More seconds are no shorter duration, the longest one included. -/
theorem ofSeconds?_getD_mono {u v : ℕ} (le : u ≤ v) :
    (ofSeconds? u).getD longest ≤ (ofSeconds? v).getD longest := by
  have nanos : divNearestEven (u * second) Binary64.one ≤ divNearestEven (v * second) Binary64.one :=
    divNearestEven_mono Binary64.one_pos (Nat.mul_le_mul_right second le)
  rw [ofSeconds?_eq, ofSeconds?_eq]
  by_cases within : divNearestEven (v * second) Binary64.one ≤ longest
  · rw [if_pos within, if_pos (nanos.trans within), Option.getD_some, Option.getD_some]
    exact nanos
  · rw [if_neg within, Option.getD_none]
    split
    case isTrue within' =>
      rw [Option.getD_some]
      exact within'
    case isFalse =>
      rw [Option.getD_none]

end Duration

/-! ## Growth -/

namespace Backoff

/-- From the sixth attempt on the power is more than ten. -/
theorem ten_le_pow {n : ℕ} (late : 6 ≤ n) : (10 : ℚ) ≤ (3 / 2) ^ n :=
  calc (10 : ℚ) ≤ (3 / 2) ^ 6 := by norm_num
    _ ≤ (3 / 2) ^ n := pow_le_pow_right₀ (by norm_num) late

theorem factor_nonneg (attempt : ℕ) : (0 : ℚ) ≤ min ((3 / 2) ^ attempt) 10 :=
  le_min (by positivity) (by norm_num)

/-- The factor is the power of one and a half, up to ten.  A power that has more digits than a
double can hold is beyond ten, so there is nothing to round. -/
theorem value_multiplier (attempt : ℕ) : value (multiplier attempt) = min ((3 / 2) ^ attempt) 10 := by
  have unit : (0 : ℚ) < Binary64.one := Nat.cast_pos.2 Binary64.one_pos
  let k := min attempt lastGrowth
  have exact : ((Binary64.one * 3 ^ k / 2 ^ k : ℕ) : ℚ) = (3 / 2) ^ k * Binary64.one := by
    have dvd : 2 ^ k ∣ Binary64.one * 3 ^ k :=
      (Binary64.one_dvd ((min_le_right _ _).trans (by decide))).mul_right _
    rw [Nat.cast_div dvd (by positivity), div_pow]
    push_cast
    field_simp
  have power : min (((3 : ℚ) / 2) ^ k) 10 = min ((3 / 2) ^ attempt) 10 := by
    rcases le_total attempt lastGrowth with early | late
    · rw [show k = attempt from min_eq_left early]
    · rw [show k = lastGrowth from min_eq_right late, min_eq_right (ten_le_pow (by decide)),
        min_eq_right (ten_le_pow (le_trans (by decide) late))]
  have scaled : value (multiplier attempt)
      = min ((3 / 2) ^ k * (Binary64.one : ℚ)) (10 * Binary64.one) / Binary64.one := by
    rw [← exact]
    push_cast [value, multiplier]
    rfl
  rw [scaled, ← min_mul_of_nonneg _ _ unit.le, mul_div_cancel_right₀ _ unit.ne', power]

theorem multiplier_mono : Monotone multiplier := by
  intro n m le
  rw [← Binary64.value_le_value, value_multiplier, value_multiplier]
  exact min_le_min_right _ (pow_le_pow_right₀ (by norm_num) le)

/-- From the sixth attempt on the factor is ten. -/
theorem value_multiplier_of_late {n : ℕ} (late : 6 ≤ n) : value (multiplier n) = 10 := by
  rw [value_multiplier, min_eq_right (ten_le_pow late)]

/-! ## The product -/

/-- The base in seconds, grown. -/
def grown (b : Backoff) (attempt : ℕ) : ℕ := Binary64.mul b.base.toSeconds (multiplier attempt)

/-- A delay is the product, as far as it is a duration, and the maximum at most. -/
theorem delay_eq (b : Backoff) (attempt : ℕ) :
    b.delay attempt = min ((Duration.ofSeconds? (b.grown attempt)).getD Duration.longest) b.max := rfl

/-- The grown base is off by no more than one rounding more. -/
theorem abs_value_grown_sub_le (b : Backoff) (attempt : ℕ) :
    |value (b.grown attempt) - b.base / Duration.second * min ((3 / 2) ^ attempt) 10|
      ≤ 41 * (b.base / Duration.second / 2 ^ 53) + 50 * halfUnit := by
  have tiny := Binary64.halfUnit_pos
  have product := Binary64.abs_value_nearest_sub_le (b.base.toSeconds * multiplier attempt)
    (Nat.mul_pos Binary64.one_pos Binary64.one_pos)
  rw [Binary64.value_mul_div, value_multiplier] at product
  change |value (b.grown attempt) - _| ≤ _ at product
  have seconds := b.base.abs_value_toSeconds_sub_le
  set factor : ℚ := min ((3 / 2) ^ attempt) 10
  set exact : ℚ := b.base / Duration.second
  have nonneg : 0 ≤ factor := factor_nonneg attempt
  have ten : factor ≤ 10 := min_le_right _ _
  have nonneg' : 0 ≤ exact := div_nonneg (Nat.cast_nonneg _) (Nat.cast_nonneg _)
  -- The error of the seconds grows by the factor.
  have carried : |value b.base.toSeconds * factor - exact * factor|
      ≤ 10 * (3 * (exact / 2 ^ 53) + 4 * halfUnit) := by
    rw [← sub_mul, abs_mul, abs_of_nonneg nonneg, mul_comm]
    exact mul_le_mul ten seconds (abs_nonneg _) (by norm_num)
  have large : exact * factor ≤ 10 * exact := by
    rw [mul_comm]
    exact mul_le_mul_of_nonneg_right ten nonneg'
  rw [abs_le] at product carried ⊢
  constructor <;> linarith

/-- What the delay after some attempts is computed to be.  The whole seconds of the base, their
fraction, the sum of the two and its product with the factor are each rounded to a double, and the
exponents of doubles reach that far.  A product below the seconds that a duration can hold is
rounded to whole nanoseconds; for any other the longest duration stands in.  The maximum bounds
both. -/
def Computed (b : Backoff) (attempt : ℕ) (delay : Duration) : Prop :=
  ∃ whole fraction seconds product,
    RoundsTo ((b.base / Duration.second : ℕ) : ℚ) whole ∧
    RoundsTo (((b.base % Duration.second : ℕ) : ℚ) / Duration.second) fraction ∧
    RoundsTo (value whole + value fraction) seconds ∧
    RoundsTo (value seconds * min ((3 / 2) ^ attempt) 10) product ∧
    (b.base ≤ Duration.longest → product < Binary64.overflow) ∧
    (value product < 2 ^ 64 → ∃ nanos, RoundsToWhole (value product * Duration.second) nanos ∧
      delay = min nanos b.max) ∧
    (2 ^ 64 ≤ value product → delay = min Duration.longest b.max)

theorem computed_delay (b : Backoff) (attempt : ℕ) : b.Computed attempt (b.delay attempt) := by
  have product : RoundsTo (value b.base.toSeconds * min ((3 / 2) ^ attempt) 10) (b.grown attempt) := by
    rw [← value_multiplier]
    exact Binary64.roundsTo_mul _ _
  refine ⟨_, _, _, _, b.base.roundsTo_whole, b.base.roundsTo_fraction, Binary64.roundsTo_add _ _,
    product, ?_, fun within => ?_, fun beyond => ?_⟩
  · -- The exact product of a real base is below ten times `2 ^ 64`, and the error is small beside that.
    intro real
    have near := abs_le.1 (b.abs_value_grown_sub_le attempt)
    have tiny := Binary64.halfUnit_le
    have second : (0 : ℚ) < Duration.second := Nat.cast_pos.2 Duration.second_pos
    have longest : (b.base : ℚ) / Duration.second ≤ 2 ^ 64 := by
      rw [div_le_iff₀ second]
      exact_mod_cast real.trans (by decide : Duration.longest ≤ 2 ^ 64 * Duration.second)
    have large : (b.base : ℚ) / Duration.second * min ((3 / 2) ^ attempt) 10 ≤ 2 ^ 64 * 10 :=
      mul_le_mul longest (min_le_right _ _) (factor_nonneg attempt) (by norm_num)
    refine Binary64.lt_overflow (by norm_num : 68 ≤ 1024) ?_
    linarith
  · obtain ⟨nanos, some, rounds⟩ := Duration.ofSeconds?_of_lt product.double within
    exact ⟨nanos, rounds, by rw [delay_eq, some, Option.getD_some]⟩
  · rw [delay_eq, Duration.ofSeconds?_of_le beyond, Option.getD_none]

/-- A product that is a whole number of nanoseconds comes out as this number, as long as the base is
at most a day. -/
theorem ofSeconds?_grown (b : Backoff) (attempt nanos : ℕ) (day : b.base ≤ 86400 * Duration.second)
    (exact : (nanos : ℚ) = b.base * min ((3 / 2) ^ attempt) 10) :
    Duration.ofSeconds? (b.grown attempt) = some nanos := by
  have near := b.abs_value_grown_sub_le attempt
  have tiny := Binary64.halfUnit_le
  have second : (0 : ℚ) < Duration.second := Nat.cast_pos.2 Duration.second_pos
  have seconds : (b.base : ℚ) / Duration.second ≤ 86400 := by
    rw [div_le_iff₀ second]
    exact_mod_cast day
  rw [div_mul_eq_mul_div, ← exact] at near
  -- For a day the error of 41 roundings is about 0.4 nanoseconds.
  have same : divNearestEven (b.grown attempt * Duration.second) Binary64.one = nanos := by
    refine (Duration.roundsToWhole_nanos (b.grown attempt)).eq_of_abs_lt ?_
    rw [abs_sub_comm]
    calc |value (b.grown attempt) * Duration.second - nanos|
        = |value (b.grown attempt) - nanos / Duration.second| * Duration.second := by
          rw [← abs_of_pos second, ← abs_mul, abs_of_pos second, sub_mul,
            div_mul_cancel₀ _ second.ne']
      _ ≤ (41 * (86400 / 2 ^ 53) + 50 * (1 / 2 ^ 100)) * Duration.second := by
          refine mul_le_mul_of_nonneg_right (near.trans ?_) second.le
          linarith
      _ < 1 / 2 := by norm_num [Duration.second]
  have within : nanos ≤ Duration.longest := by
    have large : (nanos : ℚ) ≤ (86400 * Duration.second : ℕ) * 10 := by
      rw [exact]
      exact mul_le_mul (Nat.cast_le.2 day) (min_le_right _ _) (factor_nonneg attempt)
        (Nat.cast_nonneg _)
    have large' : nanos ≤ 86400 * Duration.second * 10 := by exact_mod_cast large
    exact large'.trans (by decide)
  rw [Duration.ofSeconds?_eq, same, if_pos within]

/-! ## All attempts -/

/-- For a base of whole milliseconds of at most a day nothing is lost to rounding: the delay is the
base times a power of one and a half up to the fifth attempt, and ten times the base from the sixth
one on, or the maximum if that is less. -/
theorem delay_exact (ms : ℕ) (day : ms ≤ 86400000) (max : Duration) :
    let b : Backoff := ⟨.ofMillis ms, max⟩
    (∀ n ≤ 5, (b.delay n : ℚ) = min ((b.base : ℚ) * 3 ^ n / 2 ^ n) b.max) ∧
      (∀ n ≥ 6, b.delay n = min (10 * b.base) b.max) ∧ b.delay 0 = min b.base b.max := by
  intro b
  have within : b.base ≤ 86400 * Duration.second := by
    calc b.base = ms * Duration.milli := rfl
      _ ≤ 86400000 * Duration.milli := Nat.mul_le_mul_right _ day
      _ = 86400 * Duration.second := rfl
  have early : ∀ n ≤ 5, (b.delay n : ℚ) = min ((b.base : ℚ) * 3 ^ n / 2 ^ n) b.max := by
    intro n le
    -- The nanoseconds of a millisecond can be halved five times.
    obtain ⟨part, parts⟩ : 2 ^ n ∣ Duration.milli := (Nat.pow_dvd_pow 2 le).trans (by decide)
    have whole : ((ms * part * 3 ^ n : ℕ) : ℚ) = b.base * 3 ^ n / 2 ^ n := by
      have base : (b.base : ℚ) = ms * (2 ^ n * part) := by
        exact_mod_cast congrArg (ms * ·) parts
      rw [base]
      push_cast
      field_simp
    have small : ((3 : ℚ) / 2) ^ n ≤ 10 :=
      (pow_le_pow_right₀ (by norm_num) le).trans (by norm_num)
    have product := b.ofSeconds?_grown n (ms * part * 3 ^ n) within
      (by rw [min_eq_left small, div_pow, ← mul_div_assoc, whole])
    rw [delay_eq, product, Option.getD_some, Nat.cast_min, whole]
  refine ⟨early, fun n late => ?_, ?_⟩
  · have product := b.ofSeconds?_grown n (10 * b.base) within
      (by rw [min_eq_right (ten_le_pow late), Nat.cast_mul, Nat.cast_ofNat, mul_comm])
    rw [delay_eq, product, Option.getD_some]
  · have first := early 0 (Nat.zero_le 5)
    rw [pow_zero, pow_zero, mul_one, div_one, ← Nat.cast_min] at first
    exact_mod_cast first

/-- A millisecond less than a day, which has no finite binary fraction of seconds. -/
theorem almost_a_day_exact :
    let b : Backoff := ⟨.ofMillis 86399999, Duration.longest⟩
    86399999 ≤ 86400000 ∧ b.delay 0 = 86399999000000 ∧ b.delay 5 = 656099992406250 ∧
      b.delay 6 = 863999990000000 := by
  intro b
  have day : 86399999 ≤ 86400000 := by decide
  obtain ⟨early, late, first⟩ := delay_exact 86399999 day Duration.longest
  have fifth : (b.delay 5 : ℚ) = (656099992406250 : ℕ) := by
    have longest : min 656099992406250 Duration.longest = 656099992406250 := by decide
    rw [early 5 le_rfl, ← longest, Nat.cast_min]
    norm_num [Duration.ofMillis, Duration.milli]
  exact ⟨day, first.trans (by decide), Nat.cast_injective fifth, (late 6 le_rfl).trans (by decide)⟩

/-- Whatever the base and the maximum are, what the delay is computed to be never falls with the
attempts and never passes the maximum, and from the sixth attempt on it stays the same. -/
theorem delay_rises (b : Backoff) :
    (∀ n, b.Computed n (b.delay n)) ∧ (∀ n m, n ≤ m → b.delay n ≤ b.delay m) ∧
      (∀ n, b.delay n ≤ b.max) ∧ ∀ n ≥ 6, b.delay n = b.delay 6 := by
  refine ⟨b.computed_delay, fun n m le => ?_, b.delay_le_max, fun n late => ?_⟩
  · rw [delay_eq, delay_eq]
    exact min_le_min_right _
      (Duration.ofSeconds?_getD_mono (Binary64.mul_mono_right _ (multiplier_mono le)))
  · have same : multiplier n = multiplier 6 := by
      rw [← Binary64.value_inj, value_multiplier_of_late late, value_multiplier_of_late le_rfl]
    rw [delay_eq, delay_eq, grown, grown, same]

end Backoff

end LanguageBridge
