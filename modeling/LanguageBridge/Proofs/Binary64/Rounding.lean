import LanguageBridge.Binary64
import Mathlib.Algebra.Order.Field.Rat
import Mathlib.Data.Nat.Log
import Mathlib.Data.Rat.Cast.Order
import Mathlib.Tactic.FieldSimp
import Mathlib.Tactic.Linarith
import Mathlib.Tactic.Positivity
import Mathlib.Tactic.Ring

/-!
# Correct rounding

What `nearest` computes from the digits of a quotient is the double that lies nearest to it, and of
two that are as near the one whose significand is even (`roundsTo_nearest`).  So a sum or a product
of doubles is the exact one, rounded (`roundsTo_add`, `roundsTo_mul`).

Two consequences are what is needed of doubles elsewhere.  Rounding keeps the order
(`nearest_mono`), which follows from nearness alone and needs no digits.  And it moves a number by
no more than its share of `2 ^ -53` (`abs_value_nearest_sub_le`), apart from half a unit for the
smallest numbers.

Digits come in through the *binade* of a number (`Binade`).  Doubles in it are equally far apart, so
that the nearest one there is a nearest whole number, counted in this distance.  Doubles below the
binade are closer to each other, but its bottom is a double that is nearer than any of them.
-/

namespace LanguageBridge

/-! ## Nearest candidates -/

/-- What is nearest to a smaller number is not greater than what is nearest to a greater one. -/
theorem le_of_nearest {x y a b : ℚ} (lt : x < y) (near : |a - x| ≤ |b - x|)
    (near' : |b - y| ≤ |a - y|) : a ≤ b := by
  rw [← sq_le_sq] at near near'
  nlinarith

/-- What is as near as a candidate above is not above that candidate. -/
theorem le_of_nearest_of_le {x a c : ℚ} (le : x ≤ c) (near : |a - x| ≤ |c - x|) : a ≤ c := by
  rw [abs_of_nonneg (sub_nonneg.2 le)] at near
  linarith [le_abs_self (a - x)]

/-- What is as near as a candidate below is not below that candidate. -/
theorem ge_of_nearest_of_ge {x a c : ℚ} (ge : c ≤ x) (near : |a - x| ≤ |c - x|) : c ≤ a := by
  rw [abs_of_nonpos (sub_nonpos.2 ge)] at near
  linarith [neg_abs_le (a - x)]

/-! ## Whole numbers -/

/-- A whole number is the nearest one to a rational, and even if another one is as near. -/
structure RoundsToWhole (x : ℚ) (k : ℕ) : Prop where
  nearest : ∀ j : ℕ, |(k : ℚ) - x| ≤ |(j : ℚ) - x|
  even : ∀ j : ℕ, j ≠ k → |(j : ℚ) - x| = |(k : ℚ) - x| → Even k

/-- A quotient is its whole part and what the remainder adds. -/
theorem div_add_mod_div (num : ℕ) {den : ℕ} (pos : 0 < den) :
    ((num / den : ℕ) : ℚ) + ((num % den : ℕ) : ℚ) / den = (num : ℚ) / den := by
  have nonzero : (den : ℚ) ≠ 0 := by exact_mod_cast pos.ne'
  field_simp
  exact_mod_cast Nat.div_add_mod' num den

/-- A rounded quotient is at most one half away, and even if it is that far away. -/
theorem divNearestEven_near (num : ℕ) {den : ℕ} (pos : 0 < den) :
    |(divNearestEven num den : ℚ) - num / den| ≤ 1 / 2 ∧
      (|(divNearestEven num den : ℚ) - num / den| = 1 / 2 → Even (divNearestEven num den)) := by
  have pos' : (0 : ℚ) < den := Nat.cast_pos.2 pos
  have split := div_add_mod_div num pos
  set rest : ℚ := ((num % den : ℕ) : ℚ) / den with rest_def
  have nonneg : 0 ≤ rest := by positivity
  unfold divNearestEven
  rcases Nat.lt_trichotomy (2 * (num % den)) den with below | half | above
  · have small : rest < 1 / 2 := by
      rw [rest_def, div_lt_div_iff₀ pos' two_pos]
      exact_mod_cast (by omega : num % den * 2 < 1 * den)
    rw [if_pos below, ← split, sub_add_cancel_left, abs_neg, abs_of_nonneg nonneg]
    exact ⟨small.le, fun tie => absurd tie small.ne⟩
  · have tie : rest = 1 / 2 := by
      rw [rest_def, div_eq_div_iff pos'.ne' two_ne_zero]
      exact_mod_cast (by omega : num % den * 2 = 1 * den)
    rw [if_neg half.not_lt, if_neg half.not_gt, ← split, tie]
    by_cases even : num / den % 2 = 0
    · rw [if_pos even, sub_add_cancel_left, abs_neg, abs_of_pos one_half_pos]
      exact ⟨le_rfl, fun _ => Nat.even_iff.2 even⟩
    · rw [if_neg even, Nat.cast_succ, add_sub_add_left_eq_sub, sub_self_div_two,
        abs_of_pos one_half_pos]
      exact ⟨le_rfl, fun _ => Nat.even_iff.2 (by omega)⟩
  · have great : 1 / 2 < rest := by
      rw [rest_def, div_lt_div_iff₀ two_pos pos']
      exact_mod_cast (by omega : 1 * den < num % den * 2)
    have less : rest < 1 := by
      rw [rest_def, div_lt_one pos']
      exact_mod_cast Nat.mod_lt num pos
    rw [if_neg above.not_gt, if_pos above, Nat.cast_succ, ← split, add_sub_add_left_eq_sub,
      abs_of_pos (sub_pos.2 less)]
    exact ⟨by linarith, fun tie => by linarith⟩

/-- A whole number that is at most one half away, and even if it is that far away, is the rounded
one. -/
theorem roundsToWhole_of_near {x : ℚ} {k : ℕ} (near : |(k : ℚ) - x| ≤ 1 / 2)
    (tie : |(k : ℚ) - x| = 1 / 2 → Even k) : RoundsToWhole x k := by
  -- Any other whole number is at least one away from it.
  have apart {j : ℕ} (other : j ≠ k) : 1 / 2 ≤ |(j : ℚ) - x| := by
    have one : (1 : ℚ) ≤ |(j : ℚ) - k| := by
      have distinct : (j : ℤ) - k ≠ 0 := sub_ne_zero.2 (by exact_mod_cast other)
      exact_mod_cast Int.one_le_abs distinct
    have between := abs_sub_le (j : ℚ) x k
    rw [abs_sub_comm x] at between
    linarith
  refine ⟨fun j => ?_, fun j other same => tie (le_antisymm near (same ▸ apart other))⟩
  by_cases own : j = k
  · rw [own]
  · exact near.trans (apart own)

theorem roundsToWhole_divNearestEven (num : ℕ) {den : ℕ} (pos : 0 < den) :
    RoundsToWhole (num / den) (divNearestEven num den) :=
  roundsToWhole_of_near (divNearestEven_near num pos).1 (divNearestEven_near num pos).2

namespace RoundsToWhole

variable {x y : ℚ} {j k : ℕ}

/-- A whole number less than one half away is the rounded one. -/
theorem eq_of_abs_lt (rounds : RoundsToWhole x k) (near : |(j : ℚ) - x| < 1 / 2) : k = j := by
  have nearest := rounds.nearest j
  have close : |(k : ℚ) - j| < 1 := by
    have between := abs_sub_le (k : ℚ) x j
    rw [abs_sub_comm x] at between
    linarith
  have same : (k : ℤ) - j = 0 := Int.abs_lt_one_iff.1 (by exact_mod_cast close)
  exact_mod_cast sub_eq_zero.1 same

/-- A smaller number is not rounded to a greater whole one. -/
theorem le_of_lt (rounds : RoundsToWhole x j) (rounds' : RoundsToWhole y k) (lt : x < y) : j ≤ k := by
  exact_mod_cast le_of_nearest lt (rounds.nearest k) (rounds'.nearest j)

/-- A whole number above bounds the rounded one. -/
theorem le_of_le (rounds : RoundsToWhole x k) (le : x ≤ j) : k ≤ j := by
  exact_mod_cast le_of_nearest_of_le le (rounds.nearest j)

/-- A whole number below bounds the rounded one. -/
theorem ge_of_ge (rounds : RoundsToWhole x k) (ge : (j : ℚ) ≤ x) : j ≤ k := by
  exact_mod_cast ge_of_nearest_of_ge ge (rounds.nearest j)

end RoundsToWhole

theorem divNearestEven_mono {num num' den : ℕ} (pos : 0 < den) (le : num ≤ num') :
    divNearestEven num den ≤ divNearestEven num' den := by
  rcases le.eq_or_lt with rfl | lt
  · exact le_rfl
  · have pos' : (0 : ℚ) < den := Nat.cast_pos.2 pos
    refine (roundsToWhole_divNearestEven num pos).le_of_lt (roundsToWhole_divNearestEven num' pos) ?_
    exact div_lt_div_of_pos_right (Nat.cast_lt.2 lt) pos'

/-! ## Doubles -/

namespace Binary64

/-- One is divided into as many units as a power of two says. -/
theorem one_dvd {k : ℕ} (le : k ≤ 1074) : 2 ^ k ∣ one := by
  unfold one
  generalize 1074 = e at le ⊢
  exact Nat.pow_dvd_pow 2 le

theorem one_pos : 0 < one := by
  unfold one
  generalize 1074 = e
  exact Nat.two_pow_pos e

/-- Greater powers of two are whole multiples of one. -/
theorem two_pow_eq_mul_one {k : ℕ} (ge : 1074 ≤ k) : 2 ^ k = 2 ^ (k - 1074) * one := by
  unfold one
  generalize 1074 = e at ge ⊢
  exact (Nat.pow_sub_mul_pow 2 ge).symm

/-- The number that some units stand for. -/
def value (units : ℕ) : ℚ := units / one

theorem value_inj {u v : ℕ} : value u = value v ↔ u = v := by
  rw [value, value, div_left_inj' (Nat.cast_ne_zero.2 one_pos.ne'), Nat.cast_inj]

theorem value_le_value {u v : ℕ} : value u ≤ value v ↔ u ≤ v := by
  rw [value, value, div_le_div_iff_of_pos_right (Nat.cast_pos.2 one_pos), Nat.cast_le]

theorem value_add (u v : ℕ) : value (u + v) = value u + value v := by
  rw [value, Nat.cast_add, add_div]
  rfl

/-- Products of units are products of values, on a finer scale. -/
theorem value_mul_div (u v : ℕ) : ((u * v : ℕ) : ℚ) / ((one * one : ℕ) : ℚ) = value u * value v := by
  rw [Nat.cast_mul, Nat.cast_mul, mul_div_mul_comm]
  rfl

/-- Distances of values are counted in units. -/
theorem abs_value_sub (u num den : ℕ) :
    |value u - num / den| = |(u : ℚ) - ((num * one : ℕ) : ℚ) / den| / one := by
  have pos : (0 : ℚ) < one := Nat.cast_pos.2 one_pos
  rw [value, ← abs_of_pos pos, ← abs_div, abs_of_pos pos, sub_div, div_right_comm,
    Nat.cast_mul, mul_div_cancel_right₀ _ pos.ne']

/-- Half a unit. -/
def halfUnit : ℚ := 1 / (2 * one)

theorem halfUnit_pos : 0 < halfUnit :=
  one_div_pos.2 (mul_pos two_pos (Nat.cast_pos.2 one_pos))

/-- It is below `2 ^ -100`, and no other error here comes near that. -/
theorem halfUnit_le : halfUnit ≤ 1 / 2 ^ 100 := by
  have small : 2 ^ 100 ≤ one := Nat.le_of_dvd one_pos (one_dvd (by norm_num))
  have small' : (2 : ℚ) ^ 100 ≤ one := by exact_mod_cast small
  refine one_div_le_one_div_of_le (by positivity) ?_
  linarith

/-- Some units are those of a double: fifty-three binary digits are enough for their number. -/
def IsDouble (units : ℕ) : Prop := ∃ m e : ℕ, m < 2 ^ 53 ∧ units = m * 2 ^ e

/-- A double is the nearest one to a rational, and its significand is even if another double is as
near. -/
structure RoundsTo (x : ℚ) (units : ℕ) : Prop where
  double : IsDouble units
  nearest : ∀ v, IsDouble v → |value units - x| ≤ |value v - x|
  even : ∀ v, IsDouble v → v ≠ units → |value v - x| = |value units - x| →
    Even (units / spacing units)

/-! ## Binades -/

/-- The binade of a number of units, which need not be whole: doubles there are `2 ^ e` apart. -/
structure Binade (x : ℚ) (e : ℕ) : Prop where
  below : x < 2 ^ 53 * 2 ^ e
  above : e = 0 ∨ 2 ^ 52 * 2 ^ e ≤ x

/-- The binade of a quotient is told from the digits of its whole part. -/
theorem binade_div (num : ℕ) {den : ℕ} (pos : 0 < den) :
    Binade (num / den) ((num / den).log2 - 52) := by
  have pos' : (0 : ℚ) < den := Nat.cast_pos.2 pos
  constructor
  · have top : num / den < 2 ^ 53 * 2 ^ ((num / den).log2 - 52) := by
      rw [← Nat.pow_add]
      refine Nat.lt_of_lt_of_le (Nat.lt_log2_self (n := num / den)) ?_
      exact Nat.pow_le_pow_right Nat.two_pos (by omega)
    rw [div_lt_iff₀ pos']
    exact_mod_cast (Nat.div_lt_iff_lt_mul pos).1 top
  · rcases Nat.eq_zero_or_pos ((num / den).log2 - 52) with zero | positive
    · exact .inl zero
    · right
      have nonzero : num / den ≠ 0 := by
        rintro zero
        rw [zero] at positive
        exact absurd positive (by decide)
      have bottom : 2 ^ 52 * 2 ^ ((num / den).log2 - 52) ≤ num / den := by
        rw [← Nat.pow_add, Nat.add_sub_cancel' (by omega)]
        exact Nat.log2_self_le nonzero
      rw [le_div_iff₀ pos']
      exact_mod_cast (Nat.le_div_iff_mul_le pos).1 bottom

section Units

variable {x : ℚ} {e k v : ℕ}

/-- A double is a multiple of the distance in a binade, or it lies below the binade. -/
theorem IsDouble.multiple_or_lt (double : IsDouble v) (binade : Binade x e) :
    (∃ j : ℕ, v = j * 2 ^ e) ∨ (v : ℚ) < 2 ^ 52 * 2 ^ e ∧ 2 ^ 52 * 2 ^ e ≤ x := by
  obtain ⟨m, f, small, rfl⟩ := double
  rcases Nat.lt_or_ge f e with finer | coarser
  · refine .inr ⟨?_, binade.above.resolve_left (by omega)⟩
    have step : m * 2 ^ f < 2 ^ 52 * 2 ^ e := by
      calc m * 2 ^ f < 2 ^ 53 * 2 ^ f := Nat.mul_lt_mul_of_pos_right small (Nat.two_pow_pos f)
        _ = 2 ^ 52 * 2 ^ (f + 1) := by rw [Nat.pow_succ' (n := f), ← Nat.mul_assoc]; rfl
        _ ≤ 2 ^ 52 * 2 ^ e := Nat.mul_le_mul_left _ (Nat.pow_le_pow_right Nat.two_pos finer)
    exact_mod_cast step
  · refine .inl ⟨m * 2 ^ (f - e), ?_⟩
    rw [Nat.mul_assoc, ← Nat.pow_add, Nat.sub_add_cancel coarser]

/-- Distances are counted in the distance between the doubles of a binade. -/
theorem abs_mul_two_pow_sub (x : ℚ) (j e : ℕ) :
    |((j * 2 ^ e : ℕ) : ℚ) - x| = |(j : ℚ) - x / 2 ^ e| * 2 ^ e := by
  have pos : (0 : ℚ) < 2 ^ e := by positivity
  rw [← abs_of_pos pos, ← abs_mul, abs_of_pos pos, sub_mul, div_mul_cancel₀ x pos.ne']
  push_cast
  rfl

variable (binade : Binade x e) (rounds : RoundsToWhole (x / 2 ^ e) k)

include binade rounds

/-- In a binade, the multiple of the distance that is rounded to has at most fifty-three digits. -/
theorem rounded_le : k ≤ 2 ^ 53 := by
  refine rounds.le_of_le ?_
  rw [div_le_iff₀ (by positivity)]
  exact_mod_cast binade.below.le

/-- It does not lie below the binade. -/
theorem rounded_ge : e = 0 ∨ 2 ^ 52 ≤ k := by
  refine binade.above.imp_right fun bottom => rounds.ge_of_ge ?_
  rw [le_div_iff₀ (by positivity)]
  exact_mod_cast bottom

/-- The rounded multiple is a double. -/
theorem isDouble_rounded : IsDouble (k * 2 ^ e) := by
  rcases (rounded_le binade rounds).lt_or_eq with small | top
  · exact ⟨k, e, small, rfl⟩
  · exact ⟨1, 53 + e, by norm_num, by rw [top, Nat.one_mul, Nat.pow_add]⟩

/-- No double is nearer than the rounded multiple, and one that is as near is a multiple too. -/
theorem rounded_nearest (double : IsDouble v) :
    |((k * 2 ^ e : ℕ) : ℚ) - x| ≤ |(v : ℚ) - x| ∧
      (|(v : ℚ) - x| = |((k * 2 ^ e : ℕ) : ℚ) - x| → ∃ j : ℕ, v = j * 2 ^ e) := by
  have pos : (0 : ℚ) < 2 ^ e := by positivity
  have multiple (j : ℕ) : |((k * 2 ^ e : ℕ) : ℚ) - x| ≤ |((j * 2 ^ e : ℕ) : ℚ) - x| := by
    rw [abs_mul_two_pow_sub, abs_mul_two_pow_sub]
    exact mul_le_mul_of_nonneg_right (rounds.nearest j) pos.le
  rcases double.multiple_or_lt binade with ⟨j, rfl⟩ | ⟨below, bottom⟩
  · exact ⟨multiple j, fun _ => ⟨j, rfl⟩⟩
  · -- The bottom of the binade is a multiple, and it is nearer than what lies below it.
    have farther : |((2 ^ 52 * 2 ^ e : ℕ) : ℚ) - x| < |(v : ℚ) - x| := by
      simp only [Nat.cast_mul, Nat.cast_pow, Nat.cast_ofNat]
      rw [abs_of_nonpos (sub_nonpos.2 bottom), abs_of_neg (sub_neg.2 (below.trans_le bottom))]
      linarith
    have strict := (multiple (2 ^ 52)).trans_lt farther
    exact ⟨strict.le, fun same => absurd same strict.ne'⟩

/-- The rounded multiple is even as a multiple, and so as a double, whose distance may be twice as
large at the top of the binade. -/
theorem even_significand (even : Even k) : Even (k * 2 ^ e / spacing (k * 2 ^ e)) := by
  rcases (rounded_le binade rounds).lt_or_eq with small | top
  · have spaced : spacing (k * 2 ^ e) = 2 ^ e := by
      have exponent : (k * 2 ^ e).log2 - 52 = e := by
        rcases Nat.lt_or_ge k (2 ^ 52) with subnormal | normal
        · have zero : e = 0 := (rounded_ge binade rounds).resolve_right (by omega)
          have digits : (k * 2 ^ 0).log2 ≤ 52 := by
            rw [Nat.pow_zero, Nat.mul_one, Nat.log2_eq_log_two]
            exact (Nat.log_mono_right subnormal.le).trans (Nat.log_pow Nat.one_lt_two 52).le
          rw [zero]
          omega
        · have digits : (k * 2 ^ e).log2 = 52 + e := by
            rw [Nat.log2_eq_iff (by positivity)]
            constructor
            · rw [Nat.pow_add]
              exact Nat.mul_le_mul_right _ normal
            · rw [show 52 + e + 1 = 53 + e by omega, Nat.pow_add]
              exact Nat.mul_lt_mul_of_pos_right small (Nat.two_pow_pos e)
          rw [digits, Nat.add_sub_cancel_left]
      rw [spacing, exponent]
      rfl
    rw [spaced, Nat.mul_div_cancel _ (Nat.two_pow_pos e)]
    exact even
  · have spaced : spacing (k * 2 ^ e) = 2 ^ (e + 1) := by
      rw [spacing, top, ← Nat.pow_add, Nat.log2_two_pow, show 53 + e - 52 = e + 1 by omega]
      rfl
    have halved : k * 2 ^ e = 2 ^ 52 * 2 ^ (e + 1) := by
      rw [top, ← Nat.pow_add, ← Nat.pow_add]
      congr 1
      omega
    rw [spaced, halved, Nat.mul_div_cancel _ (Nat.two_pow_pos _)]
    exact (Nat.even_pow.2 ⟨even_two, by norm_num⟩)

end Units

/-! ## The nearest double -/

/-- The nearest double is a rounded multiple of the distance in the binade of the quotient. -/
theorem nearest_eq (num : ℕ) {den : ℕ} (pos : 0 < den) :
    ∃ e, nearest num den = divNearestEven (num * one) (den * 2 ^ e) * 2 ^ e ∧
      Binade (((num * one : ℕ) : ℚ) / den) e :=
  ⟨(num * one / den).log2 - 52, rfl, binade_div (num * one) pos⟩

/-- The nearest double is the one that is rounded to. -/
theorem roundsTo_nearest (num : ℕ) {den : ℕ} (pos : 0 < den) :
    RoundsTo (num / den) (nearest num den) := by
  obtain ⟨e, eq, binade⟩ := nearest_eq num pos
  have rounds : RoundsToWhole (((num * one : ℕ) : ℚ) / den / 2 ^ e)
      (divNearestEven (num * one) (den * 2 ^ e)) := by
    have whole := roundsToWhole_divNearestEven (num * one) (Nat.mul_pos pos (Nat.two_pow_pos e))
    rw [Nat.cast_mul (den : ℕ), ← div_div] at whole
    exact_mod_cast whole
  have unit : (0 : ℚ) < one := Nat.cast_pos.2 one_pos
  rw [eq]
  refine ⟨isDouble_rounded binade rounds, fun v double => ?_, fun v double other same => ?_⟩
  · rw [abs_value_sub, abs_value_sub]
    exact div_le_div_of_nonneg_right (rounded_nearest binade rounds double).1 unit.le
  · rw [abs_value_sub, abs_value_sub, div_left_inj' unit.ne'] at same
    obtain ⟨j, rfl⟩ := (rounded_nearest binade rounds double).2 same
    refine even_significand binade rounds (rounds.even j (fun own => other (by rw [own])) ?_)
    rw [abs_mul_two_pow_sub, abs_mul_two_pow_sub] at same
    exact mul_right_cancel₀ (by positivity) same

/-- Rounding moves a number by at most its share of `2 ^ -53`, or by half a unit where doubles are a
unit apart. -/
theorem abs_value_nearest_sub_le (num : ℕ) {den : ℕ} (pos : 0 < den) :
    |value (nearest num den) - num / den| ≤ num / den / 2 ^ 53 + halfUnit := by
  obtain ⟨e, eq, binade⟩ := nearest_eq num pos
  have unit : (0 : ℚ) < one := Nat.cast_pos.2 one_pos
  have near := (divNearestEven_near (num * one) (Nat.mul_pos pos (Nat.two_pow_pos e))).1
  have nonneg : (0 : ℚ) ≤ ((num * one : ℕ) : ℚ) / den :=
    div_nonneg (Nat.cast_nonneg _) (Nat.cast_nonneg _)
  -- Doubles are at most this far apart in the binade.
  have apart : (2 : ℚ) ^ e ≤ ((num * one : ℕ) : ℚ) / den / 2 ^ 52 + 1 := by
    rcases binade.above with rfl | bottom
    · rw [pow_zero]
      linarith [div_nonneg nonneg (by positivity : (0 : ℚ) ≤ 2 ^ 52)]
    · rw [← le_div_iff₀' (by positivity)] at bottom
      linarith
  calc |value (nearest num den) - num / den|
      = |(divNearestEven (num * one) (den * 2 ^ e) : ℚ) - ((num * one : ℕ) : ℚ) / den / 2 ^ e|
          * 2 ^ e / one := by rw [abs_value_sub, eq, abs_mul_two_pow_sub]
    _ ≤ 1 / 2 * (((num * one : ℕ) : ℚ) / den / 2 ^ 52 + 1) / one := by
        rw [Nat.cast_mul den, ← div_div] at near
        refine div_le_div_of_nonneg_right (mul_le_mul ?_ apart (by positivity) (by norm_num)) unit.le
        exact_mod_cast near
    _ = num / den / 2 ^ 53 + halfUnit := by
        rw [Nat.cast_mul, halfUnit]
        field_simp

/-- Of two numbers the smaller one is not rounded to the greater double. -/
theorem RoundsTo.le_of_lt {x y : ℚ} {u v : ℕ} (rounds : RoundsTo x u) (rounds' : RoundsTo y v)
    (lt : x < y) : value u ≤ value v :=
  le_of_nearest lt (rounds.nearest v rounds'.double) (rounds'.nearest u rounds.double)

/-- A value below a power of two that is not too large is that of a finite double. -/
theorem lt_overflow {u k : ℕ} (small : k ≤ 1024) (lt : value u < 2 ^ k) : u < overflow := by
  rw [value, div_lt_iff₀ (Nat.cast_pos.2 one_pos)] at lt
  have below : u < 2 ^ k * one := by exact_mod_cast lt
  refine below.trans_le ?_
  unfold overflow
  generalize 1024 = e at small ⊢
  exact Nat.mul_le_mul_right one (Nat.pow_le_pow_right Nat.two_pos small)

/-- **Rounding keeps the order.** -/
theorem nearest_mono {num num' den : ℕ} (pos : 0 < den) (le : num ≤ num') :
    nearest num den ≤ nearest num' den := by
  rcases le.eq_or_lt with rfl | lt
  · exact le_rfl
  · refine value_le_value.1 ((roundsTo_nearest num pos).le_of_lt (roundsTo_nearest num' pos) ?_)
    exact div_lt_div_of_pos_right (Nat.cast_lt.2 lt) (Nat.cast_pos.2 pos)

/-! ## The operations -/

/-- The sum is the rounded sum of the values. -/
theorem roundsTo_add (u v : ℕ) : RoundsTo (value u + value v) (add u v) := by
  rw [← value_add]
  exact roundsTo_nearest (u + v) one_pos

/-- The product is the rounded product of the values. -/
theorem roundsTo_mul (u v : ℕ) : RoundsTo (value u * value v) (mul u v) := by
  rw [← value_mul_div]
  exact roundsTo_nearest (u * v) (Nat.mul_pos one_pos one_pos)

theorem mul_mono_right (u : ℕ) {v w : ℕ} (le : v ≤ w) : mul u v ≤ mul u w :=
  nearest_mono (Nat.mul_pos one_pos one_pos) (Nat.mul_le_mul_left u le)

/-- A double below a great power of two is below it by at least one. -/
theorem IsDouble.value_le {u k : ℕ} (double : IsDouble u) (great : 53 ≤ k) (lt : value u < 2 ^ k) :
    value u ≤ 2 ^ k - 1 := by
  have unit : (0 : ℚ) < one := Nat.cast_pos.2 one_pos
  obtain ⟨m, f, small, rfl⟩ := double
  rcases Nat.lt_or_ge f 1074 with fine | coarse
  · have half : 2 ^ f * 2 ≤ one := by
      rw [← Nat.pow_succ]
      exact Nat.le_of_dvd one_pos (one_dvd fine)
    have small' : value (m * 2 ^ f) ≤ 2 ^ 52 := by
      rw [value, div_le_iff₀ unit]
      have below : m * 2 ^ f ≤ 2 ^ 52 * one := by
        calc m * 2 ^ f ≤ 2 ^ 53 * 2 ^ f := Nat.mul_le_mul_right _ small.le
          _ = 2 ^ 52 * (2 ^ f * 2) := by rw [Nat.pow_succ 2 52, Nat.mul_assoc, Nat.mul_comm 2]
          _ ≤ 2 ^ 52 * one := Nat.mul_le_mul_left _ half
      exact_mod_cast below
    have large : (2 : ℚ) ^ 53 ≤ 2 ^ k := pow_le_pow_right₀ one_le_two great
    linarith
  · have whole : value (m * 2 ^ f) = ((m * 2 ^ (f - 1074) : ℕ) : ℚ) := by
      rw [value, two_pow_eq_mul_one coarse, ← Nat.mul_assoc, Nat.cast_mul _ one,
        mul_div_cancel_right₀ _ unit.ne']
    rw [whole] at lt ⊢
    rw [le_sub_iff_add_le]
    exact_mod_cast lt

end Binary64
end LanguageBridge
