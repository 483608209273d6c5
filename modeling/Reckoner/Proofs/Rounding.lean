import Reckoner.Proofs.Magnitude

/-! Correct rounding to doubles. Of all doubles, infinity standing for `2 ^ 1024`, the one that a quotient is rounded to
is nearest to it, and even if another one is as near. There is only one such double, and a double is the one that it is
rounded to itself. -/

namespace Reckoner.Proofs.Rounding
open Nearest

/-- The double with the bits `bits`, which have no sign, is what `x` is rounded to. -/
structure Rounded (bits : ℕ) (x : ℚ) : Prop where
  bounded : bits ≤ infinityBits
  closest : ∀ other ≤ infinityBits, |value bits - x| ≤ |value other - x|
  even : ∀ other ≤ infinityBits, other ≠ bits → |value other - x| = |value bits - x| → Even bits

theorem value_strictMono : StrictMono value := by
  intro first second less
  have power_pos : (0 : ℚ) < 2 ^ 1074 := by positivity
  exact div_lt_div_of_pos_right (Nat.cast_lt.mpr (units_strictMono less)) power_pos

theorem value_infinity : value infinityBits = 2 ^ 1024 := by
  have whole : infinityBits = 2046 * 2 ^ 52 + 2 ^ 52 := rfl
  have parts : units (2046 * 2 ^ 52 + 2 ^ 52) = 2 ^ 52 * 2 ^ 2046 := units_parts (by norm_num) (.inr le_rfl)
  have powers : ((2 ^ 52 * 2 ^ 2046 : ℕ) : ℚ) = 2 ^ 1024 * 2 ^ 1074 := by
    rw [← pow_add, ← pow_add]
    exact Nat.cast_pow _ _
  rw [value, whole, parts, powers, mul_div_cancel_right₀ _ (by positivity)]

/-- Nothing between two points of equal distance is as far away as they are. -/
theorem between_closer {a b c x : ℚ} (low : a < b) (high : b < c) (same : |a - x| = |c - x|) :
    |b - x| < |a - x| := by
  rcases abs_eq_abs.mp same with equal | opposite
  · linarith
  · have middle : x = (a + c) / 2 := by linarith
    rw [abs_of_neg (show a - x < 0 by linarith), abs_lt]
    constructor <;> linarith

private theorem middle_le {a c x : ℚ} (less : a < c) (near : |c - x| ≤ |a - x|) : (a + c) / 2 ≤ x := by
  by_contra small
  rcases abs_cases (c - x) with ⟨high, _⟩ | ⟨high, _⟩
  · rcases abs_cases (a - x) with ⟨low, _⟩ | ⟨low, _⟩ <;> linarith
  · linarith

private theorem le_middle {a c x : ℚ} (less : a < c) (near : |a - x| ≤ |c - x|) : x ≤ (a + c) / 2 := by
  by_contra large
  rcases abs_cases (a - x) with ⟨low, _⟩ | ⟨low, _⟩
  · linarith
  · rcases abs_cases (c - x) with ⟨high, _⟩ | ⟨high, _⟩ <;> linarith

private theorem middle_tie {a c : ℚ} : |a - (a + c) / 2| = |c - (a + c) / 2| := by
  rw [← abs_neg]
  ring_nf

private theorem closer_of_le {u v x : ℚ} (order : u ≤ v) (above : v < x) : |v - x| ≤ |u - x| := by
  rw [abs_of_nonpos (by linarith), abs_of_nonpos (by linarith)]
  linarith

theorem Rounded.unique {first second : ℕ} {x : ℚ} (one : Rounded first x) (other : Rounded second x) :
    first = second := by
  have same : |value first - x| = |value second - x| :=
    le_antisymm (one.closest _ other.bounded) (other.closest _ one.bounded)
  have apart {low high : ℕ} (rounded : Rounded low x) (beside : Rounded high x)
      (same : |value low - x| = |value high - x|) : ¬ low < high := by
    intro less
    have even := Nat.even_iff.mp (rounded.even high beside.bounded less.ne' same.symm)
    have even' := Nat.even_iff.mp (beside.even low rounded.bounded less.ne same)
    have inside : low + 1 < high := by omega
    have closer := between_closer (value_strictMono (Nat.lt_succ_self low)) (value_strictMono inside) same
    exact absurd (rounded.closest (low + 1) (inside.le.trans beside.bounded)) (not_le.mpr closer)
  exact le_antisymm (not_lt.mp (apart other one same.symm)) (not_lt.mp (apart one other same))

theorem rounded_value {bits : ℕ} (bounded : bits ≤ infinityBits) : Rounded bits (value bits) := by
  refine ⟨bounded, fun other _ => by simp, fun other _ different tie => ?_⟩
  rw [sub_self, abs_zero, abs_eq_zero, sub_eq_zero] at tie
  exact absurd (value_strictMono.injective tie) different

/-- On the grid of its last digit a double with an odd one has a neighbour on each side, and lies nearer than half-way
to either. -/
private theorem grid_even {exponent significand : ℕ} {x : ℚ} (nearest : NearestEven significand (x / 2 ^ exponent))
    (bounded : significand ≤ 2 ^ 53) (normal : exponent = 0 ∨ 2 ^ 52 ≤ significand) {bits : ℕ}
    (different : bits ≠ exponent * 2 ^ 52 + significand)
    (tie : |units bits - x| = |((significand * 2 ^ exponent : ℕ) : ℚ) - x|) :
    Even (exponent * 2 ^ 52 + significand) := by
  by_contra odd
  have parity : significand % 2 = 1 := by
    rw [Nat.even_iff] at odd
    omega
  have power_pos : (0 : ℚ) < 2 ^ exponent := by positivity
  have near : |((significand : ℕ) : ℚ) - x / 2 ^ exponent| < 1 / 2 := by
    refine lt_of_le_of_ne nearest.near fun half => ?_
    have even := Nat.even_iff.mp (nearest.even half)
    omega
  have scaled : x = x / 2 ^ exponent * 2 ^ exponent := (div_mul_cancel₀ _ power_pos.ne').symm
  generalize x / 2 ^ exponent = y at *
  subst scaled
  obtain ⟨low, high⟩ := abs_lt.mp near
  have error : |((significand * 2 ^ exponent : ℕ) : ℚ) - y * 2 ^ exponent| < 1 / 2 * 2 ^ exponent := by
    rw [Nat.cast_mul, Nat.cast_pow, Nat.cast_ofNat, ← sub_mul, abs_mul, abs_of_pos power_pos]
    exact mul_lt_mul_of_pos_right near power_pos
  rw [← tie] at error
  have bounds := abs_lt.mp error
  rcases Nat.lt_or_gt_of_ne different with below | above
  · have neighbour : units (exponent * 2 ^ 52 + (significand - 1)) = (significand - 1) * 2 ^ exponent :=
      units_parts (by omega) (by omega)
    have order : units bits ≤ (significand - 1) * 2 ^ exponent := by
      rw [← neighbour]
      exact units_strictMono.monotone (by omega)
    have order' : (units bits : ℚ) ≤ (significand - 1) * 2 ^ exponent := by
      have cast : ((significand - 1 : ℕ) : ℚ) = significand - 1 := by
        rw [Nat.cast_sub (by omega), Nat.cast_one]
      rw [← cast]
      exact_mod_cast order
    nlinarith
  · have neighbour : units (exponent * 2 ^ 52 + (significand + 1)) = (significand + 1) * 2 ^ exponent :=
      units_parts (by omega) (by omega)
    have order : (significand + 1) * 2 ^ exponent ≤ units bits := by
      rw [← neighbour]
      exact units_strictMono.monotone (by omega)
    have order' : ((significand : ℚ) + 1) * 2 ^ exponent ≤ units bits := by exact_mod_cast order
    nlinarith

theorem nearestBits_rounded (num : ℕ) {den : ℕ} (den_pos : 0 < den) : Rounded (nearestBits num den) (num / den) := by
  have top : infinityBits = 2047 * 2 ^ 52 := rfl
  rcases Nat.eq_zero_or_pos num with rfl | num_pos
  · have zero : nearestBits 0 den = 0 := if_pos rfl
    have none : ((0 : ℕ) : ℚ) / den = value 0 := by simp [value, units]
    rw [zero, none]
    exact rounded_value (Nat.zero_le _)
  obtain ⟨exponent, significand, rounded, nearest, low, bounded, normal⟩ := nearestBits_parts num_pos den_pos
  have power_pos : (0 : ℚ) < 2 ^ 1074 := by positivity
  have closest (bits : ℕ) :
      |value (exponent * 2 ^ 52 + significand) - num / den| ≤ |value bits - num / den| := by
    rw [value_error, value_error, units_parts bounded normal]
    exact div_le_div_of_nonneg_right (grid_closest nearest low bits) power_pos.le
  rcases Nat.lt_or_ge infinityBits (exponent * 2 ^ 52 + significand) with beyond | inside
  · rw [rounded, min_eq_right beyond.le]
    have less := value_strictMono beyond
    have above : value infinityBits < num / den :=
      (left_lt_add_div_two.mpr less).trans_le (middle_le less (closest infinityBits))
    refine ⟨le_refl _, fun other limit => ?_, fun _ _ _ _ => ⟨2047 * 2 ^ 51, by rw [top]; norm_num⟩⟩
    exact closer_of_le (value_strictMono.monotone limit) above
  · rw [rounded, min_eq_left inside]
    refine ⟨inside, fun other _ => closest other, fun other _ different tie => ?_⟩
    rw [value_error, value_error, units_parts bounded normal, div_left_inj' power_pos.ne'] at tie
    exact grid_even nearest bounded normal different tie

theorem nearestBits_eq_iff {num den bits : ℕ} (den_pos : 0 < den) :
    nearestBits num den = bits ↔ Rounded bits (num / den) :=
  ⟨fun same => same ▸ nearestBits_rounded num den_pos, fun rounded => (nearestBits_rounded num den_pos).unique rounded⟩

/-- Greater numbers are not rounded to smaller doubles. -/
theorem Rounded.mono {low high : ℕ} {x y : ℚ} (first : Rounded low x) (second : Rounded high y) (order : x ≤ y) :
    low ≤ high := by
  by_contra crossed
  have less := value_strictMono (not_le.mp crossed)
  have above := middle_le less (first.closest high second.bounded)
  have below := le_middle less (second.closest low first.bounded)
  obtain rfl : x = y := by linarith
  exact crossed (first.unique second).le

/-- Of the numbers between two neighbours those below the middle go to the lower one and those above it to the upper
one. The middle itself goes to the even one. -/
theorem Rounded.lt_iff {bits low : ℕ} {x : ℚ} (rounded : Rounded bits x) (inside : low < infinityBits) :
    low < bits ↔ (value low + value (low + 1)) / 2 < x ∨ (value low + value (low + 1)) / 2 = x ∧ ¬ Even low := by
  constructor
  · intro less
    have above := middle_le (value_strictMono less) (rounded.closest low inside.le)
    have order : value (low + 1) ≤ value bits := value_strictMono.monotone less
    rcases lt_or_eq_of_le order with further | same
    · exact .inl (by linarith)
    · obtain rfl := value_strictMono.injective same
      refine (lt_or_eq_of_le above).imp_right fun middle => ⟨middle, fun even => ?_⟩
      have odd := rounded.even low inside.le (Nat.lt_succ_self low).ne (middle ▸ middle_tie)
      rw [Nat.even_iff] at even odd
      omega
  · intro above
    by_contra reached
    have order : value bits ≤ value low := value_strictMono.monotone (not_lt.mp reached)
    have less : value bits < value (low + 1) := order.trans_lt (value_strictMono (Nat.lt_succ_self low))
    have below := le_middle less (rounded.closest (low + 1) inside)
    rcases above with further | ⟨middle, odd⟩
    · linarith
    · obtain rfl := value_strictMono.injective (show value bits = value low by linarith)
      exact odd (rounded.even (bits + 1) inside (Nat.lt_succ_self bits).ne' (middle ▸ middle_tie.symm))

theorem Rounded.zero_iff {bits : ℕ} {x : ℚ} (rounded : Rounded bits x) : bits = 0 ↔ x ≤ 1 / 2 ^ 1075 := by
  have inside : 0 < infinityBits := by decide
  have middle : (value 0 + value (0 + 1)) / 2 = 1 / 2 ^ 1075 := by
    rw [pow_succ, ← div_div]
    simp [value, units]
  have positive := rounded.lt_iff inside
  rw [middle] at positive
  simp only [Even.zero, not_true_eq_false, and_false, or_false] at positive
  rw [← not_lt, ← positive]
  omega

private theorem value_largest : value (infinityBits - 1) = 2 ^ 1024 - 2 ^ 971 := by
  have whole : infinityBits - 1 = 2045 * 2 ^ 52 + (2 ^ 53 - 1) := rfl
  have parts : units (2045 * 2 ^ 52 + (2 ^ 53 - 1)) = (2 ^ 53 - 1) * 2 ^ 2045 :=
    units_parts (by norm_num) (.inr (by norm_num))
  have powers : (2 : ℚ) ^ 2045 = 2 ^ 971 * 2 ^ 1074 := by rw [← pow_add]
  have full : (2 : ℚ) ^ 1024 = 2 ^ 53 * 2 ^ 971 := by rw [← pow_add]
  have power : (2 : ℚ) ^ 1074 ≠ 0 := by positivity
  rw [value, whole, parts, full, Nat.cast_mul, Nat.cast_pow, Nat.cast_ofNat, powers, ← mul_assoc,
    mul_div_cancel_right₀ _ power, Nat.cast_pred (by positivity), sub_mul, one_mul, Nat.cast_pow, Nat.cast_ofNat]

theorem Rounded.infinite_iff {bits : ℕ} {x : ℚ} (rounded : Rounded bits x) :
    bits = infinityBits ↔ 2 ^ 1024 - 2 ^ 970 ≤ x := by
  have top : infinityBits = 2047 * 2 ^ 52 := rfl
  have inside : infinityBits - 1 < infinityBits := by omega
  have last : infinityBits - 1 + 1 = infinityBits := by omega
  have middle : (value (infinityBits - 1) + value infinityBits) / 2 = 2 ^ 1024 - 2 ^ 970 := by
    rw [value_largest, value_infinity, pow_succ (2 : ℚ) 970]
    generalize (2 : ℚ) ^ 1024 = high
    generalize (2 : ℚ) ^ 970 = low
    ring
  have odd : ¬ Even (infinityBits - 1) := by
    rw [Nat.even_iff]
    omega
  have reached := rounded.lt_iff inside
  rw [last, middle] at reached
  have bounded := rounded.bounded
  simp only [odd, not_false_eq_true, and_true, ← le_iff_lt_or_eq] at reached
  rw [← reached]
  omega

end Reckoner.Proofs.Rounding
