import Mathlib.Algebra.Order.Field.Power
import Mathlib.Algebra.Order.Ring.Abs
import Mathlib.Algebra.Ring.Parity
import Mathlib.Data.Nat.Log
import Mathlib.Data.Rat.Cast.Order
import Mathlib.Order.Monotone.Basic
import Mathlib.Tactic.FieldSimp
import Mathlib.Tactic.GCongr
import Mathlib.Tactic.Linarith
import Mathlib.Tactic.Positivity
import Mathlib.Tactic.Ring
import Reckoner.Number.Nearest

/-! Rounding is exact. Half-even rounding gives the one whole number that is nearest to a quotient, or the even one of
two that are equally near. The same holds of doubles: their bits without sign count them in the order of their values,
and of all doubles the one that a quotient is rounded to is nearest to it. -/

namespace Reckoner.Proofs.Nearest

/-- Nothing whole is nearer to `x` than `n`, and of two that are equally near `n` is the even one. -/
structure NearestEven (n : ℕ) (x : ℚ) : Prop where
  near : |n - x| ≤ 1 / 2
  even : |n - x| = 1 / 2 → Even n

private theorem quotient_split (num : ℕ) {den : ℕ} (positive : 0 < den) :
    (num : ℚ) / den = (num / den : ℕ) + (num % den : ℕ) / den := by
  have whole : (num : ℚ) = den * (num / den : ℕ) + (num % den : ℕ) := by
    exact_mod_cast (Nat.div_add_mod num den).symm
  have nonzero : (den : ℚ) ≠ 0 := by positivity
  field_simp
  linarith

theorem halfEven_nearest (num : ℕ) {den : ℕ} (positive : 0 < den) : NearestEven (halfEven num den) (num / den) := by
  have den_pos : (0 : ℚ) < den := by positivity
  have below_one : ((num % den : ℕ) : ℚ) / den < 1 := by
    rw [div_lt_one den_pos]
    exact_mod_cast Nat.mod_lt num positive
  rw [quotient_split num positive, halfEven]
  generalize num / den = quotient
  generalize num % den = remainder at *
  have low : 2 * remainder < den ↔ (remainder : ℚ) / den < 1 / 2 := by
    rw [div_lt_div_iff₀ den_pos two_pos]
    norm_cast
    omega
  have high : den < 2 * remainder ↔ 1 / 2 < (remainder : ℚ) / den := by
    rw [div_lt_div_iff₀ two_pos den_pos]
    norm_cast
    omega
  have nonneg : 0 ≤ (remainder : ℚ) / den := by positivity
  simp only [low, high]
  generalize (remainder : ℚ) / den = rest at *
  split
  next less =>
    have error : |(quotient : ℚ) - (quotient + rest)| = rest := by
      rw [sub_add_cancel_left, abs_neg, abs_of_nonneg nonneg]
    exact ⟨by rw [error]; exact less.le, fun tie => absurd (error.symm.trans tie) less.ne⟩
  next notLess =>
    split
    next more =>
      have error : |((quotient + 1 : ℕ) : ℚ) - (quotient + rest)| = 1 - rest := by
        rw [Nat.cast_add_one, add_sub_add_left_eq_sub, abs_of_nonneg (by linarith)]
      constructor
      · rw [error]
        linarith
      · intro tie
        rw [error] at tie
        linarith
    next notMore =>
      have half : rest = 1 / 2 := le_antisymm (not_lt.mp notMore) (not_lt.mp notLess)
      have parity : Even (quotient + quotient % 2) := by
        rw [Nat.even_iff]
        omega
      have error : |((quotient + quotient % 2 : ℕ) : ℚ) - (quotient + rest)| = 1 / 2 := by
        rw [half]
        rcases Nat.mod_two_eq_zero_or_one quotient with even | odd
        · rw [even]
          norm_num
        · rw [odd]
          norm_num
      exact ⟨error.le, fun _ => parity⟩

private theorem one_le_apart {n m : ℕ} (different : n ≠ m) : (1 : ℚ) ≤ |(n : ℚ) - m| := by
  have whole : (1 : ℤ) ≤ |(n : ℤ) - m| := Int.one_le_abs (by omega)
  exact_mod_cast whole

private theorem apart_le (n m : ℕ) (x : ℚ) : |(n : ℚ) - m| ≤ |n - x| + |m - x| := by
  rw [abs_sub_comm (m : ℚ) x]
  exact abs_sub_le _ _ _

theorem NearestEven.unique {n m : ℕ} {x : ℚ} (first : NearestEven n x) (second : NearestEven m x) : n = m := by
  by_contra different
  have apart := one_le_apart different
  have detour := apart_le n m x
  have near := first.near
  have near' := second.near
  have even := Nat.even_iff.mp (first.even (by linarith))
  have even' := Nat.even_iff.mp (second.even (by linarith))
  have close : |(n : ℤ) - m| ≤ 1 := by
    have bound : |(n : ℚ) - m| ≤ 1 := by linarith
    exact_mod_cast bound
  have bounds := abs_le.mp close
  omega

theorem NearestEven.closest {n : ℕ} {x : ℚ} (nearest : NearestEven n x) (m : ℕ) : |n - x| ≤ |m - x| := by
  rcases eq_or_ne n m with rfl | different
  · exact le_refl _
  · have apart := one_le_apart different
    have detour := apart_le n m x
    linarith [nearest.near]

theorem NearestEven.le_of_lt {n m : ℕ} {x : ℚ} (nearest : NearestEven n x) (below : x < m) : n ≤ m := by
  have bound := (abs_le.mp nearest.near).2
  have less : (n : ℚ) < (m + 1 : ℕ) := by
    push_cast
    linarith
  exact Nat.lt_succ_iff.mp (Nat.cast_lt.mp less)

theorem NearestEven.le_of_le {n m : ℕ} {x : ℚ} (nearest : NearestEven n x) (above : m ≤ x) : m ≤ n := by
  have bound := (abs_le.mp nearest.near).1
  have less : (m : ℚ) < (n + 1 : ℕ) := by
    push_cast
    linarith
  exact Nat.lt_succ_iff.mp (Nat.cast_lt.mp less)

theorem NearestEven.of_closer {n : ℕ} {x y : ℚ} (nearest : NearestEven n x) (closer : |n - y| ≤ |n - x|) :
    NearestEven n y :=
  ⟨closer.trans nearest.near, fun tie => nearest.even (le_antisymm nearest.near (tie ▸ closer))⟩

theorem quotient_scaled (num den : ℕ) (scale : ℤ) :
    ((num * Nat.pow 2 (-scale).toNat : ℕ) : ℚ) / (den * Nat.pow 2 scale.toNat : ℕ) = num / den / 2 ^ scale := by
  obtain ⟨n, rfl | rfl⟩ := scale.eq_nat_or_neg
  · simp [div_div]
  · simp [div_mul_eq_mul_div]

private theorem two_pow_le_iff {num den : ℕ} (den_pos : 0 < den) (guess : ℤ) :
    den * Nat.pow 2 guess.toNat ≤ num * Nat.pow 2 (-guess).toNat ↔ (2 : ℚ) ^ guess ≤ num / den := by
  have scale_pos : (0 : ℚ) < (den * Nat.pow 2 guess.toNat : ℕ) := by
    have power_pos : 0 < Nat.pow 2 guess.toNat := Nat.two_pow_pos _
    exact_mod_cast Nat.mul_pos den_pos power_pos
  have guess_pos : (0 : ℚ) < 2 ^ guess := by positivity
  rw [← one_le_div guess_pos, ← quotient_scaled, one_le_div scale_pos, Nat.cast_le]

theorem floorLog2_bounds {num den : ℕ} (num_pos : 0 < num) (den_pos : 0 < den) :
    (2 : ℚ) ^ floorLog2 num den ≤ num / den ∧ (num : ℚ) / den < 2 ^ (floorLog2 num den + 1) := by
  have den_pos' : (0 : ℚ) < den := by exact_mod_cast den_pos
  have num_low : (2 : ℚ) ^ (num.log2 : ℤ) ≤ num := by exact_mod_cast Nat.log2_self_le num_pos.ne'
  have num_high : (num : ℚ) < 2 ^ ((num.log2 : ℤ) + 1) := by exact_mod_cast num.lt_log2_self
  have den_low : (2 : ℚ) ^ (den.log2 : ℤ) ≤ den := by exact_mod_cast Nat.log2_self_le den_pos.ne'
  have den_high : (den : ℚ) < 2 ^ ((den.log2 : ℤ) + 1) := by exact_mod_cast den.lt_log2_self
  have below : (num : ℚ) / den < 2 ^ ((num.log2 : ℤ) - den.log2 + 1) := by
    have ratio := div_lt_div₀ num_high den_low (by positivity) (by positivity)
    rwa [← zpow_sub₀ two_ne_zero, add_sub_right_comm] at ratio
  have above : (2 : ℚ) ^ ((num.log2 : ℤ) - den.log2 - 1) ≤ num / den := by
    have ratio := div_le_div₀ (by positivity) num_low den_pos' den_high.le
    rwa [← zpow_sub₀ two_ne_zero, ← sub_sub] at ratio
  rw [floorLog2]
  simp only [two_pow_le_iff den_pos]
  split
  next fits => exact ⟨fits, below⟩
  next exceeds =>
    rw [sub_add_cancel]
    exact ⟨above, not_le.mp exceeds⟩

/-- How often the double with the bits `bits`, which have no sign, contains the least positive one. -/
def units (bits : ℕ) : ℕ :=
  if bits / 2 ^ 52 = 0 then bits % 2 ^ 52 else (2 ^ 52 + bits % 2 ^ 52) * 2 ^ (bits / 2 ^ 52 - 1)

/-- What is carried out of the significand goes into the exponent. -/
theorem units_parts {exponent significand : ℕ} (bounded : significand ≤ 2 ^ 53)
    (normal : exponent = 0 ∨ 2 ^ 52 ≤ significand) :
    units (exponent * 2 ^ 52 + significand) = significand * 2 ^ exponent := by
  rcases Nat.lt_or_ge significand (2 ^ 52) with small | large
  · have subnormal : exponent = 0 := by omega
    subst subnormal
    rw [units, if_pos (by omega), pow_zero]
    omega
  rcases Nat.lt_or_ge significand (2 ^ 53) with inside | carried
  · have field : (exponent * 2 ^ 52 + significand) / 2 ^ 52 = exponent + 1 := by omega
    have fraction : 2 ^ 52 + (exponent * 2 ^ 52 + significand) % 2 ^ 52 = significand := by omega
    rw [units, field, fraction, if_neg (Nat.succ_ne_zero _), Nat.add_sub_cancel]
  · have field : (exponent * 2 ^ 52 + significand) / 2 ^ 52 = exponent + 2 := by omega
    have fraction : (exponent * 2 ^ 52 + significand) % 2 ^ 52 = 0 := by omega
    have whole : significand = 2 ^ 53 := by omega
    rw [units, field, fraction, if_neg (Nat.succ_ne_zero _), whole, Nat.add_succ_sub_one, pow_succ]
    omega

theorem exists_parts (bits : ℕ) :
    ∃ exponent significand, bits = exponent * 2 ^ 52 + significand ∧ significand < 2 ^ 53 ∧
      (exponent = 0 ∨ 2 ^ 52 ≤ significand) := by
  rcases Nat.eq_zero_or_pos (bits / 2 ^ 52) with subnormal | normal
  · exact ⟨0, bits, by omega, by omega, .inl rfl⟩
  · exact ⟨bits / 2 ^ 52 - 1, 2 ^ 52 + bits % 2 ^ 52, by omega, by omega, .inr (by omega)⟩

theorem units_strictMono : StrictMono units := by
  refine strictMono_nat_of_lt_succ fun bits => ?_
  obtain ⟨exponent, significand, rfl, bounded, normal⟩ := exists_parts bits
  rw [add_assoc, units_parts bounded.le normal, units_parts bounded (normal.imp_right fun le => by omega)]
  exact Nat.mul_lt_mul_of_pos_right (Nat.lt_succ_self _) (by positivity)

/-- The value of the double with the bits `bits`, which have no sign. -/
def value (bits : ℕ) : ℚ :=
  units bits / 2 ^ 1074

/-- A double is found by rounding to a multiple of a power of two, which is so small that the quotient has 53 digits
before that power, or is the least one there is. -/
theorem nearestBits_parts {num den : ℕ} (num_pos : 0 < num) (den_pos : 0 < den) :
    ∃ exponent significand, nearestBits num den = min (exponent * 2 ^ 52 + significand) infinityBits ∧
      NearestEven significand (num / den * 2 ^ 1074 / 2 ^ exponent) ∧
      (exponent = 0 ∨ (2 : ℚ) ^ (exponent + 52) ≤ num / den * 2 ^ 1074) ∧
      significand ≤ 2 ^ 53 ∧ (exponent = 0 ∨ 2 ^ 52 ≤ significand) := by
  obtain ⟨low, high⟩ := floorLog2_bounds num_pos den_pos
  obtain ⟨exponent, scaled⟩ : ∃ exponent : ℕ, lastBit num den = exponent - 1074 :=
    ⟨(lastBit num den + 1074).toNat, by unfold lastBit; omega⟩
  have shift : (num : ℚ) / den * 2 ^ 1074 / 2 ^ exponent = num / den / 2 ^ lastBit num den := by
    rw [scaled, zpow_sub₀ two_ne_zero, div_div_eq_mul_div, zpow_natCast]
    rfl
  have top : (2 : ℚ) ^ (1074 : ℕ) = 2 ^ (1074 : ℤ) := rfl
  have power_pos : (0 : ℚ) < 2 ^ exponent := by positivity
  have nearest : NearestEven
      (halfEven (num * Nat.pow 2 (-lastBit num den).toNat) (den * Nat.pow 2 (lastBit num den).toNat))
      (num / den * 2 ^ 1074 / 2 ^ exponent) := by
    rw [shift, ← quotient_scaled]
    exact halfEven_nearest _ (Nat.mul_pos den_pos (Nat.two_pow_pos _))
  have below : (num : ℚ) / den * 2 ^ 1074 < 2 ^ (exponent + 53) := by
    have reach : floorLog2 num den + 1 + 1074 ≤ (exponent + 53 : ℕ) := by
      unfold lastBit at scaled
      omega
    calc (num : ℚ) / den * 2 ^ 1074
        < 2 ^ (floorLog2 num den + 1) * 2 ^ 1074 := by gcongr
      _ = 2 ^ (floorLog2 num den + 1 + 1074) := by rw [top, ← zpow_add₀ two_ne_zero]
      _ ≤ 2 ^ ((exponent + 53 : ℕ) : ℤ) := zpow_le_zpow_right₀ one_le_two reach
      _ = 2 ^ (exponent + 53) := zpow_natCast _ _
  have above : exponent = 0 ∨ (2 : ℚ) ^ (exponent + 52) ≤ num / den * 2 ^ 1074 := by
    rcases Nat.eq_zero_or_pos exponent with least | normal
    · exact .inl least
    · have reach : ((exponent + 52 : ℕ) : ℤ) = floorLog2 num den + 1074 := by
        unfold lastBit at scaled
        omega
      refine .inr ?_
      calc (2 : ℚ) ^ (exponent + 52)
          = 2 ^ ((exponent + 52 : ℕ) : ℤ) := (zpow_natCast _ _).symm
        _ = 2 ^ floorLog2 num den * 2 ^ 1074 := by rw [reach, zpow_add₀ two_ne_zero, top]
        _ ≤ num / den * 2 ^ 1074 := by gcongr
  refine ⟨exponent, _, ?_, nearest, above, ?_, ?_⟩
  · rw [nearestBits, if_neg num_pos.ne']
    have field : (lastBit num den + 1074).toNat = exponent := by omega
    simp only [field]
    rfl
  · rw [add_comm, pow_add, ← div_lt_iff₀ power_pos] at below
    exact nearest.le_of_lt (by exact_mod_cast below)
  · refine above.imp_right fun large => ?_
    rw [add_comm, pow_add, ← le_div_iff₀ power_pos] at large
    exact nearest.le_of_le (by exact_mod_cast large)

private theorem grid_error (n exponent : ℕ) (x : ℚ) :
    |((n * 2 ^ exponent : ℕ) : ℚ) - x| = |n - x / 2 ^ exponent| * 2 ^ exponent := by
  have power_pos : (0 : ℚ) < 2 ^ exponent := by positivity
  rw [← abs_of_pos power_pos, ← abs_mul, abs_of_pos power_pos, sub_mul, div_mul_cancel₀ _ power_pos.ne']
  push_cast
  rfl

/-- The nearest multiple of a power of two is nearest of all doubles, since those off its grid lie below the least one
whose last digit is that power. -/
theorem grid_closest {exponent significand : ℕ} {x : ℚ} (nearest : NearestEven significand (x / 2 ^ exponent))
    (low : exponent = 0 ∨ (2 : ℚ) ^ (exponent + 52) ≤ x) (bits : ℕ) :
    |((significand * 2 ^ exponent : ℕ) : ℚ) - x| ≤ |units bits - x| := by
  have closest (n : ℕ) : |((significand * 2 ^ exponent : ℕ) : ℚ) - x| ≤ |((n * 2 ^ exponent : ℕ) : ℚ) - x| := by
    rw [grid_error, grid_error]
    exact mul_le_mul_of_nonneg_right (nearest.closest n) (by positivity)
  obtain ⟨other, digits, rfl, bounded, normal⟩ := exists_parts bits
  rw [units_parts bounded.le normal]
  rcases Nat.lt_or_ge other exponent with below | onGrid
  · have large : (2 : ℚ) ^ (exponent + 52) ≤ x := low.resolve_left (by omega)
    have off : digits * 2 ^ other ≤ 2 ^ 52 * 2 ^ exponent := by
      calc digits * 2 ^ other
          ≤ 2 ^ 53 * 2 ^ other := Nat.mul_le_mul_right _ bounded.le
        _ = 2 ^ 52 * 2 ^ (other + 1) := by ring
        _ ≤ 2 ^ 52 * 2 ^ exponent := Nat.mul_le_mul_left _ (Nat.pow_le_pow_right two_pos below)
    have off' : ((digits * 2 ^ other : ℕ) : ℚ) ≤ ((2 ^ 52 * 2 ^ exponent : ℕ) : ℚ) := Nat.cast_le.mpr off
    have least : ((2 ^ 52 * 2 ^ exponent : ℕ) : ℚ) ≤ x := by
      rw [pow_add, mul_comm] at large
      exact_mod_cast large
    calc |((significand * 2 ^ exponent : ℕ) : ℚ) - x|
        ≤ |((2 ^ 52 * 2 ^ exponent : ℕ) : ℚ) - x| := closest _
      _ = x - ((2 ^ 52 * 2 ^ exponent : ℕ) : ℚ) := by rw [abs_sub_comm, abs_of_nonneg (sub_nonneg.mpr least)]
      _ ≤ x - ((digits * 2 ^ other : ℕ) : ℚ) := sub_le_sub_left off' x
      _ ≤ |((digits * 2 ^ other : ℕ) : ℚ) - x| := by rw [abs_sub_comm]; exact le_abs_self _
  · obtain ⟨shift, rfl⟩ := Nat.exists_eq_add_of_le onGrid
    have multiple : digits * 2 ^ (exponent + shift) = digits * 2 ^ shift * 2 ^ exponent := by ring
    rw [multiple]
    exact closest _

theorem value_error (bits : ℕ) (x : ℚ) : |value bits - x| = |units bits - x * 2 ^ 1074| / 2 ^ 1074 := by
  have power_pos : (0 : ℚ) < 2 ^ 1074 := by positivity
  rw [value, ← abs_of_pos power_pos, ← abs_div, abs_of_pos power_pos, sub_div, mul_div_cancel_right₀ _ power_pos.ne']

/-- No double is nearer to a quotient than the one it is rounded to. -/
theorem nearestBits_closest (num : ℕ) {den : ℕ} (den_pos : 0 < den) (small : (num : ℚ) / den < 2 ^ 1023) :
    nearestBits num den < infinityBits ∧
    ∀ bits, |value (nearestBits num den) - num / den| ≤ |value bits - num / den| := by
  have top : infinityBits = 2047 * 2 ^ 52 := rfl
  rcases Nat.eq_zero_or_pos num with rfl | num_pos
  · have zero : nearestBits 0 den = 0 := if_pos rfl
    have none : value 0 = 0 := by simp [value, units]
    rw [zero, none]
    refine ⟨by omega, fun bits => ?_⟩
    simp
  obtain ⟨exponent, significand, rounded, nearest, low, bounded, normal⟩ := nearestBits_parts num_pos den_pos
  have range : exponent ≤ 2044 := by
    rcases low with least | large
    · omega
    · have powers : (2 : ℚ) ^ (exponent + 52) < 2 ^ (1023 + 1074) := by
        rw [pow_add 2 1023 1074]
        exact large.trans_lt (mul_lt_mul_of_pos_right small (by positivity))
      have exponents := (pow_lt_pow_iff_right₀ one_lt_two).mp powers
      omega
  rw [min_eq_left (by omega)] at rounded
  refine ⟨by omega, fun bits => ?_⟩
  rw [rounded, value_error, value_error, units_parts bounded normal]
  exact div_le_div_of_nonneg_right (grid_closest nearest low bits) (by positivity)

end Reckoner.Proofs.Nearest
