import Reckoner.Number.Shortest
import Reckoner.Proofs.Rounding

/-! The shortest decimal of a double is read back as this double. The search for it ends, since on a fine enough grid
every double is a point itself. -/

namespace Reckoner.Proofs.Shortest
open Magnitude Nearest Rounding

/-- The number that a decimal stands for. -/
def size (d : Decimal) : ℚ :=
  d.digits * 10 ^ d.exponent

theorem decimal_denominator_pos (d : Decimal) : 0 < d.denominator :=
  Nat.pow_pos (by decide)

theorem size_eq (d : Decimal) : (d.numerator : ℚ) / d.denominator = size d := by
  obtain ⟨digits, exponent⟩ := d
  obtain ⟨n, rfl | rfl⟩ := exponent.eq_nat_or_neg
  · simp [size, Decimal.numerator, Decimal.denominator]
  · simp [size, Decimal.numerator, Decimal.denominator, div_eq_mul_inv]

theorem bits_eq_iff {d : Decimal} {bits : ℕ} : d.bits = bits ↔ Rounded bits (size d) := by
  rw [← size_eq, ← nearestBits_eq_iff (decimal_denominator_pos d)]
  rfl

theorem strip_size (d : Decimal) : size d.strip = size d := by
  fun_induction Decimal.strip d with
  | case1 => rfl
  | case2 d _ zero ih =>
    have tens : ((d.digits / 10 : ℕ) : ℚ) * 10 = d.digits := by
      exact_mod_cast Nat.div_mul_cancel (Nat.dvd_of_mod_eq_zero zero)
    rw [ih, size, size, zpow_add_one₀ (by norm_num), ← tens]
    ring
  | case3 => rfl

theorem strip_digits {d : Decimal} (present : d.digits ≠ 0) : d.strip.digits ≠ 0 := by
  fun_induction Decimal.strip d with
  | case1 => contradiction
  | case2 d _ zero ih => exact ih (by dsimp only; omega)
  | case3 => exact present

private theorem halfEven_neighbour (num den : ℕ) : halfEven num den = num / den ∨ halfEven num den = num / den + 1 := by
  unfold halfEven
  dsimp only
  split
  · exact .inl rfl
  · split
    · exact .inr rfl
    · rcases Nat.mod_two_eq_zero_or_one (num / den) with even | odd
      · exact .inl (by rw [even, Nat.add_zero])
      · exact .inr (by rw [odd])

theorem quotient_tens (num den : ℕ) (exponent : ℤ) :
    ((num * Nat.pow 10 (-exponent).toNat : ℕ) : ℚ) / (den * Nat.pow 10 exponent.toNat : ℕ) =
      num / den / 10 ^ exponent := by
  obtain ⟨n, rfl | rfl⟩ := exponent.eq_nat_or_neg
  · simp [div_div]
  · simp [div_mul_eq_mul_div]

/-- The point of the grid of a power of ten that is next to a quotient, below it or on it. -/
def floorOn (num den : ℕ) (exponent : ℤ) : ℕ :=
  num * Nat.pow 10 (-exponent).toNat / (den * Nat.pow 10 exponent.toNat)

theorem size_strictMono (exponent : ℤ) : StrictMono fun n => size ⟨n, exponent⟩ := by
  intro n m less
  have power_pos : (0 : ℚ) < 10 ^ exponent := by positivity
  exact mul_lt_mul_of_pos_right (Nat.cast_lt.mpr less) power_pos

theorem size_error (n : ℕ) (exponent : ℤ) (x : ℚ) :
    |size ⟨n, exponent⟩ - x| = |n - x / 10 ^ exponent| * 10 ^ exponent := by
  have power_pos : (0 : ℚ) < 10 ^ exponent := by positivity
  rw [← abs_of_pos power_pos, ← abs_mul, abs_of_pos power_pos, sub_mul, div_mul_cancel₀ _ power_pos.ne', size]

/-- Of any two grids the finer one has all points of the other. -/
theorem size_finer (n : ℕ) {fine coarse : ℤ} (order : fine ≤ coarse) :
    size ⟨n * 10 ^ (coarse - fine).toNat, fine⟩ = size ⟨n, coarse⟩ := by
  obtain ⟨more, rfl⟩ := Int.exists_add_of_le order
  rw [add_sub_cancel_left, Int.toNat_natCast, size, size, zpow_add₀ (by norm_num), zpow_natCast]
  push_cast
  ring

theorem floorOn_bracket (num : ℕ) {den : ℕ} (den_pos : 0 < den) (exponent : ℤ) :
    size ⟨floorOn num den exponent, exponent⟩ ≤ num / den ∧
      (num : ℚ) / den < size ⟨floorOn num den exponent + 1, exponent⟩ := by
  have power_pos : (0 : ℚ) < 10 ^ exponent := by positivity
  have whole : ⌊(num : ℚ) / den / 10 ^ exponent⌋₊ = floorOn num den exponent := by
    rw [← quotient_tens, Nat.floor_div_eq_div]
    rfl
  have nonneg : (0 : ℚ) ≤ num / den / 10 ^ exponent := by positivity
  have low := Nat.floor_le nonneg
  have high := Nat.lt_floor_add_one ((num : ℚ) / den / 10 ^ exponent)
  rw [whole] at low high
  rw [size, size, ← le_div_iff₀ power_pos, ← div_lt_iff₀ power_pos, Nat.cast_add_one]
  exact ⟨low, high⟩

/-- What stands on a grid is written there exactly. -/
private theorem size_exact {num den : ℕ} (den_pos : 0 < den) {exponent : ℤ}
    (whole : den * Nat.pow 10 exponent.toNat ∣ num * Nat.pow 10 (-exponent).toNat) :
    size ⟨floorOn num den exponent, exponent⟩ = num / den := by
  have scale : ((den * Nat.pow 10 exponent.toNat : ℕ) : ℚ) ≠ 0 :=
    Nat.cast_ne_zero.mpr (Nat.mul_pos den_pos (Nat.pow_pos (by decide))).ne'
  have power : (10 : ℚ) ^ exponent ≠ 0 := by positivity
  rw [size, floorOn, Nat.cast_div whole scale, quotient_tens, div_mul_cancel₀ _ power]

/-- What the search comes to: on its grid the nearest of the points that are read back. No point of a coarser grid
is read back, unless it began with this one. -/
structure Found (bits : ℕ) (x : ℚ) (start : ℤ) (d : Decimal) : Prop where
  rounded : Rounded bits (size d)
  nearest : ∀ n, Rounded bits (size ⟨n, d.exponent⟩) → |size d - x| ≤ |size ⟨n, d.exponent⟩ - x|
  coarsest : d.exponent = start ∨ d.exponent < start ∧ ∀ n, ¬ Rounded bits (size ⟨n, d.exponent + 1⟩)

/-- What is read back as one double has no gap. -/
theorem rounded_between {bits : ℕ} {x y : ℚ} {d : Decimal} (low : Rounded bits x) (high : Rounded bits y)
    (above : x ≤ size d) (below : size d ≤ y) : Rounded bits (size d) := by
  have read : Rounded d.bits (size d) := bits_eq_iff.mp rfl
  rwa [le_antisymm (read.mono high below) (low.mono read above)] at read

theorem Found.refine {bits : ℕ} {x : ℚ} {start : ℤ} {d : Decimal} (found : Found bits x (start - 1) d)
    (none : ∀ n, ¬ Rounded bits (size ⟨n, start⟩)) : Found bits x start d := by
  refine ⟨found.rounded, found.nearest, .inr ?_⟩
  rcases found.coarsest with first | ⟨later, none'⟩
  · rw [first, sub_add_cancel]
    exact ⟨sub_one_lt start, none⟩
  · exact ⟨later.trans (sub_one_lt start), none'⟩

section
variable {num den bits : ℕ} (den_pos : 0 < den) (own : Rounded bits (num / den))
include den_pos own

/-- If a point up to the quotient is read back then so is the last one of them. -/
private theorem floorOn_rounded {exponent : ℤ} {n : ℕ} (read : Rounded bits (size ⟨n, exponent⟩))
    (below : n ≤ floorOn num den exponent) : Rounded bits (size ⟨floorOn num den exponent, exponent⟩) :=
  rounded_between read own ((size_strictMono exponent).monotone below) (floorOn_bracket num den_pos exponent).1

/-- If a point beyond the quotient is read back then so is the first one of them. -/
private theorem floorOn_succ_rounded {exponent : ℤ} {n : ℕ} (read : Rounded bits (size ⟨n, exponent⟩))
    (above : floorOn num den exponent + 1 ≤ n) :
    Rounded bits (size ⟨floorOn num den exponent + 1, exponent⟩) :=
  rounded_between own read (floorOn_bracket num den_pos exponent).2.le ((size_strictMono exponent).monotone above)

/-- The search finds what is read back, if the last grid that it comes to is fine enough. -/
theorem shortestFrom_found (grids : ℕ) (exponent : ℤ)
    (fine : den * Nat.pow 10 (exponent - grids).toNat ∣ num * Nat.pow 10 (-(exponent - grids)).toNat) :
    Found bits (num / den) exponent (shortestFrom num den bits exponent grids) := by
  induction grids generalizing exponent with
  | zero =>
    rw [Nat.cast_zero, sub_zero] at fine
    rw [shortestFrom]
    have exact : size ⟨floorOn num den exponent, exponent⟩ = num / den := size_exact den_pos fine
    refine ⟨?_, fun n _ => ?_, .inl rfl⟩
    · exact exact ▸ own
    · change |size ⟨floorOn num den exponent, exponent⟩ - _| ≤ _
      rw [exact, sub_self, abs_zero]
      exact abs_nonneg _
  | succ grids ih =>
    have finer : exponent - (grids + 1 : ℕ) = exponent - 1 - grids := by omega
    rw [finer] at fine
    obtain ⟨below, above⟩ := floorOn_bracket num den_pos exponent
    rw [shortestFrom]
    split
    next low high =>
      have nearest := halfEven_nearest (num * Nat.pow 10 (-exponent).toNat)
        (Nat.mul_pos den_pos (Nat.pow_pos (by decide)) : 0 < den * Nat.pow 10 exponent.toNat)
      rw [quotient_tens] at nearest
      refine ⟨?_, fun n _ => ?_, .inl rfl⟩
      · rcases halfEven_neighbour (num * Nat.pow 10 (-exponent).toNat) (den * Nat.pow 10 exponent.toNat) with down | up
        · rw [down]
          exact bits_eq_iff.mp (beq_iff_eq.mp low)
        · rw [up]
          exact bits_eq_iff.mp (beq_iff_eq.mp high)
      · rw [size_error, size_error]
        exact mul_le_mul_of_nonneg_right (nearest.closest n) (by positivity)
    next low high =>
      refine ⟨bits_eq_iff.mp (beq_iff_eq.mp low), fun n read => ?_, .inl rfl⟩
      rcases Nat.lt_or_ge (floorOn num den exponent) n with beyond | within
      · exact absurd (bits_eq_iff.mpr (floorOn_succ_rounded den_pos own read beyond)) (beq_eq_false_iff_ne.mp high)
      · exact Set.abs_sub_left_of_mem_uIcc (Set.mem_uIcc_of_ge ((size_strictMono exponent).monotone within) below)
    next low high =>
      refine ⟨bits_eq_iff.mp (beq_iff_eq.mp high), fun n read => ?_, .inl rfl⟩
      rcases Nat.lt_or_ge (floorOn num den exponent) n with beyond | within
      · exact Set.abs_sub_left_of_mem_uIcc (Set.mem_uIcc_of_le above.le ((size_strictMono exponent).monotone beyond))
      · exact absurd (bits_eq_iff.mpr (floorOn_rounded den_pos own read within)) (beq_eq_false_iff_ne.mp low)
    next low high =>
      refine (ih _ fine).refine fun n read => ?_
      rcases Nat.lt_or_ge (floorOn num den exponent) n with beyond | within
      · exact absurd (bits_eq_iff.mpr (floorOn_succ_rounded den_pos own read beyond)) (beq_eq_false_iff_ne.mp high)
      · exact absurd (bits_eq_iff.mpr (floorOn_rounded den_pos own read within)) (beq_eq_false_iff_ne.mp low)

end

theorem toDigits_bounds {n : ℕ} (positive : 0 < n) :
    10 ^ ((Nat.toDigits 10 n).length - 1) ≤ n ∧ n < 10 ^ (Nat.toDigits 10 n).length := by
  have present : 0 < (Nat.toDigits 10 n).length := List.length_pos_iff.mpr Nat.toDigits_ne_nil
  refine ⟨?_, (Nat.length_toDigits_le_iff (by decide) present).mp le_rfl⟩
  by_contra small
  rcases Nat.eq_zero_or_pos ((Nat.toDigits 10 n).length - 1) with one | more
  · rw [one, pow_zero] at small
    omega
  · have fewer := (Nat.length_toDigits_le_iff (by decide) more).mpr (not_le.mp small)
    omega

/-- The leading digit of a quotient stands on the grid that the search begins with. -/
theorem ceilLog10_bounds {num den : ℕ} (num_pos : 0 < num) (den_pos : 0 < den) :
    (10 : ℚ) ^ (ceilLog10 num den - 1) ≤ num / den ∧ (num : ℚ) / den < 10 ^ ceilLog10 num den := by
  have num_pos' : (0 : ℚ) < num := Nat.cast_pos.mpr num_pos
  have den_pos' : (0 : ℚ) < den := Nat.cast_pos.mpr den_pos
  unfold ceilLog10
  split
  next large =>
    obtain ⟨low, high⟩ := toDigits_bounds (Nat.div_pos large den_pos)
    have present : 1 ≤ (Nat.toDigits 10 (num / den)).length := List.length_pos_iff.mpr Nat.toDigits_ne_nil
    rw [← Nat.cast_one, ← Nat.cast_sub present, zpow_natCast, zpow_natCast, le_div_iff₀ den_pos', div_lt_iff₀ den_pos']
    rw [Nat.le_div_iff_mul_le den_pos] at low
    rw [Nat.div_lt_iff_lt_mul den_pos] at high
    exact ⟨by exact_mod_cast low, by exact_mod_cast high⟩
  next small =>
    obtain ⟨low, high⟩ := toDigits_bounds (Nat.div_pos (Nat.le_sub_one_of_lt (not_le.mp small)) num_pos)
    obtain ⟨more, long⟩ : ∃ more, (Nat.toDigits 10 ((den - 1) / num)).length = more + 1 :=
      Nat.exists_eq_add_one.mpr (List.length_pos_iff.mpr Nat.toDigits_ne_nil)
    rw [long] at low high ⊢
    rw [Nat.add_sub_cancel, Nat.le_div_iff_mul_le num_pos] at low
    rw [Nat.div_lt_iff_lt_mul num_pos] at high
    have below : 10 ^ more * num < den := by omega
    have above : den ≤ 10 ^ (more + 1) * num := by omega
    have first : (1 : ℤ) - (more + 1 : ℕ) - 1 = -(more + 1 : ℕ) := by omega
    have second : (1 : ℤ) - (more + 1 : ℕ) = -(more : ℕ) := by omega
    rw [first, second, zpow_neg, zpow_neg, zpow_natCast, zpow_natCast]
    constructor
    · rw [inv_le_comm₀ (by positivity) (by positivity), inv_div, div_le_iff₀ num_pos']
      exact_mod_cast above
    · rw [lt_inv_comm₀ (by positivity) (by positivity), inv_div, lt_div_iff₀ num_pos']
      exact_mod_cast below

private theorem top_le : (2 : ℚ) ^ 1024 ≤ 10 ^ 309 := by
  have step : (2 : ℚ) ^ 93 ≤ 10 ^ 28 := by norm_num
  calc (2 : ℚ) ^ 1024
      = (2 ^ 93) ^ 11 * 2 := by rw [← pow_mul, ← pow_succ]
    _ ≤ (10 ^ 28) ^ 11 * 10 := by gcongr; norm_num
    _ = 10 ^ 309 := by rw [← pow_mul, ← pow_succ]

private theorem ceilLog10_le {num den : ℕ} (num_pos : 0 < num) (den_pos : 0 < den)
    (small : (num : ℚ) / den < 2 ^ 1024) : ceilLog10 num den ≤ 309 := by
  have low := (ceilLog10_bounds num_pos den_pos).1
  have less : (10 : ℚ) ^ (ceilLog10 num den - 1) < 10 ^ (309 : ℤ) := low.trans_lt (small.trans_le top_le)
  have order := (zpow_lt_zpow_iff_right₀ (by norm_num)).mp less
  omega

/-- A multiple of the least double has at most 1074 places. -/
private theorem fine_dvd {num den bits : ℕ} (den_pos : 0 < den) (same : (num : ℚ) / den = value bits) {exponent : ℤ}
    (fine : exponent ≤ -1074) : den * Nat.pow 10 exponent.toNat ∣ num * Nat.pow 10 (-exponent).toNat := by
  obtain ⟨more, places⟩ : ∃ more, (-exponent).toNat = 1074 + more := ⟨(-exponent).toNat - 1074, by omega⟩
  have none : exponent.toNat = 0 := by omega
  have nonzero : (den : ℚ) ≠ 0 := by exact_mod_cast den_pos.ne'
  have product : num * 2 ^ 1074 = units bits * den := by
    rw [value, div_eq_div_iff nonzero (by positivity)] at same
    apply Nat.cast_injective (R := ℚ)
    rw [Nat.cast_mul, Nat.cast_mul, Nat.cast_pow, Nat.cast_ofNat, same]
  have tens : (10 : ℕ) ^ (1074 + more) = 2 ^ 1074 * (5 ^ 1074 * 10 ^ more) := by
    have split (n : ℕ) : (10 : ℕ) ^ n = 2 ^ n * 5 ^ n := (Nat.mul_pow 2 5 n).symm ▸ rfl
    rw [pow_add, split 1074, mul_assoc]
  refine ⟨units bits * (5 ^ 1074 * 10 ^ more), ?_⟩
  rw [none, places, Nat.pow_eq, Nat.pow_eq, pow_zero, mul_one, tens, ← mul_assoc, product, mul_comm (units bits),
    mul_assoc]

section
variable {b : Binary} {bits : ℕ}

theorem eq_zero_of_size (decoded : Decoded bits b) (rounded : Rounded bits 0) : b.significand = 0 := by
  have zero : value 0 = 0 := by simp [value, units]
  have least : bits = 0 := rounded.unique (zero ▸ rounded_value (Nat.zero_le _))
  have vanishes := decoded.magnitude
  rw [least, zero, magnitude_eq, mul_eq_zero] at vanishes
  exact_mod_cast vanishes.resolve_right (by positivity)

theorem numerator_pos (nonzero : b.significand ≠ 0) : 0 < b.numerator :=
  Nat.mul_pos (Nat.pos_of_ne_zero nonzero) (Nat.two_pow_pos _)

/-- The grids do not run out. -/
private theorem grids_fine (decoded : Decoded bits b) (inside : bits < infinityBits) (nonzero : b.significand ≠ 0) :
    ceilLog10 b.numerator b.denominator - 1 - maxGrids ≤ -1074 := by
  have small : (b.numerator : ℚ) / b.denominator < 2 ^ 1024 := by
    rw [← value_infinity, ← magnitude, decoded.magnitude]
    exact value_strictMono inside
  have first := ceilLog10_le (numerator_pos nonzero) (denominator_pos b) small
  have last : maxGrids = 1400 := rfl
  omega

theorem shortest_found (decoded : Decoded bits b) (inside : bits < infinityBits) (nonzero : b.significand ≠ 0) :
    ∃ d, b.shortest = d.strip ∧ Found bits (magnitude b) (ceilLog10 b.numerator b.denominator - 1) d := by
  have own : Rounded bits (b.numerator / b.denominator) := by
    rw [← magnitude, decoded.magnitude]
    exact rounded_value inside.le
  have found := shortestFrom_found (denominator_pos b) own maxGrids _
    (fine_dvd (denominator_pos b) decoded.magnitude (grids_fine decoded inside nonzero))
  rw [Binary.shortest, if_neg nonzero, (nearestBits_eq_iff (denominator_pos b)).mpr own]
  exact ⟨_, rfl, found⟩

/-- What is written in the shortest way is read back as the same double, and zero alone has no digit but zero. -/
structure Shortened (bits : ℕ) (d : Decimal) : Prop where
  rounded : Rounded bits (size d)
  plain : d.digits = 0 → d.exponent = 0

theorem shortest_shortened (decoded : Decoded bits b) (inside : bits < infinityBits) : Shortened bits b.shortest := by
  rcases eq_or_ne b.significand 0 with zero | nonzero
  · have none : size ⟨0, 0⟩ = value bits := by
      rw [← decoded.magnitude, magnitude_eq, zero]
      simp [size]
    rw [Binary.shortest, if_pos zero]
    exact ⟨none ▸ rounded_value inside.le, fun _ => rfl⟩
  · obtain ⟨d, written, found⟩ := shortest_found decoded inside nonzero
    rw [written]
    refine ⟨by rw [strip_size]; exact found.rounded, fun zero => absurd zero (strip_digits fun empty => nonzero ?_)⟩
    have none : size d = 0 := by simp [size, empty]
    exact eq_zero_of_size decoded (none ▸ found.rounded)

end

end Reckoner.Proofs.Shortest
