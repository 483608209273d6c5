import Reckoner.Proofs.Shortest

/-! The fewest digits. The search stops at the first grid with a point that is read back. All decimals that are read back
lie between two neighbouring powers of ten then, for such a power is a point of a coarser grid. So they have their
leading digit in the same place, and only those on the grid where the search stopped have no digit behind it. -/

namespace Reckoner.Proofs.Fewest
open Magnitude Nearest Rounding Shortest

/-- How many digits a decimal is written with. -/
def length (d : Decimal) : ℕ :=
  (Nat.toDigits 10 d.digits).length

/-- Of the decimals that are read back none has fewer digits than `d`, and each other one with no more digits is
farther from `x`. -/
structure Unbeaten (bits : ℕ) (x : ℚ) (d : Decimal) : Prop where
  rounded : Rounded bits (size d)
  fewest : ∀ n k count, n < 10 ^ count → Rounded bits (size ⟨n, k⟩) → length d ≤ count
  nearest : ∀ n k, n < 10 ^ length d → Rounded bits (size ⟨n, k⟩) → size ⟨n, k⟩ ≠ size d →
    |size d - x| < |size ⟨n, k⟩ - x|

theorem size_one (k : ℤ) : size ⟨1, k⟩ = 10 ^ k := by
  rw [size, Nat.cast_one, one_mul]

theorem size_ten (n : ℕ) (k : ℤ) : size ⟨n * 10, k⟩ = size ⟨n, k + 1⟩ := by
  rw [size, size, zpow_add_one₀ (by norm_num)]
  push_cast
  ring

theorem size_lt_iff {n count : ℕ} {k : ℤ} : size ⟨n, k⟩ < 10 ^ (count + k) ↔ n < 10 ^ count := by
  have power_pos : (0 : ℚ) < 10 ^ k := by positivity
  rw [size, zpow_add₀ (by norm_num), zpow_natCast, mul_lt_mul_iff_left₀ power_pos]
  exact_mod_cast Iff.rfl

theorem length_le {d : Decimal} {count : ℕ} (positive : 0 < count) (short : d.digits < 10 ^ count) :
    length d ≤ count :=
  (Nat.length_toDigits_le_iff (by decide) positive).mpr short

theorem strip_last {d : Decimal} (present : d.digits ≠ 0) : d.strip.digits % 10 ≠ 0 := by
  fun_induction Decimal.strip d with
  | case1 => contradiction
  | case2 d _ zero ih => exact ih (by dsimp only; omega)
  | case3 d _ last => exact last

theorem strip_le (d : Decimal) : d.strip.digits ≤ d.digits := by
  fun_induction Decimal.strip d with
  | case1 => exact le_rfl
  | case2 d _ zero ih => exact ih.trans (Nat.div_le_self _ _)
  | case3 => exact le_rfl

theorem strip_of_last {d : Decimal} (last : d.digits % 10 ≠ 0) : d.strip = d := by
  have present : d.digits ≠ 0 := by
    intro zero
    rw [zero] at last
    contradiction
  rw [Decimal.strip, if_neg present, if_neg last]

/-- No two neighbours on a grid that are both read back are equally near. -/
def Untied (bits : ℕ) (x : ℚ) : Prop :=
  ∀ n e, Rounded bits (size ⟨n, e⟩) → Rounded bits (size ⟨n + 1, e⟩) → |size ⟨n, e⟩ - x| ≠ |size ⟨n + 1, e⟩ - x|

section
variable {bits : ℕ} {x : ℚ}

/-- Points that are equally near and are no neighbours have a nearer one between them. -/
private theorem neighbours_of_tie {e : ℤ} {low high : ℕ} (first : Rounded bits (size ⟨low, e⟩))
    (second : Rounded bits (size ⟨high, e⟩)) (less : low < high) (tie : |size ⟨low, e⟩ - x| = |size ⟨high, e⟩ - x|)
    (nearest : ∀ n, Rounded bits (size ⟨n, e⟩) → |size ⟨low, e⟩ - x| ≤ |size ⟨n, e⟩ - x|) : high = low + 1 := by
  by_contra apart
  have left : size ⟨low, e⟩ < size ⟨low + 1, e⟩ := size_strictMono e (Nat.lt_succ_self low)
  have right : size ⟨low + 1, e⟩ < size ⟨high, e⟩ := size_strictMono e (by omega)
  have between := rounded_between first second left.le right.le
  exact absurd (nearest _ between) (not_le.mpr (between_closer left right tie))

/-- What the search finds is nearer than anything else on its grid. -/
theorem nearer {start : ℤ} {d : Decimal} (found : Found bits x start d) (untied : Untied bits x) {n : ℕ}
    (read : Rounded bits (size ⟨n, d.exponent⟩)) (other : n ≠ d.digits) :
    |size d - x| < |size ⟨n, d.exponent⟩ - x| := by
  apply lt_of_le_of_ne (found.nearest n read)
  intro tie
  rcases Nat.lt_or_gt_of_ne other with less | more
  · have next : d.digits = n + 1 :=
      neighbours_of_tie read found.rounded less tie.symm fun m read' => tie ▸ found.nearest m read'
    have above : size d = size ⟨n + 1, d.exponent⟩ := by rw [← next]
    rw [above] at tie
    exact untied n d.exponent read (above ▸ found.rounded) tie.symm
  · have next : n = d.digits + 1 := neighbours_of_tie found.rounded read more tie found.nearest
    subst next
    exact untied d.digits d.exponent found.rounded read tie

/-- On the grid of the leading digit ten steps reach beyond `x` already. -/
private theorem digits_le_ten {start : ℤ} (own : Rounded bits x) (high : x < 10 ^ (start + 1)) {d : Decimal}
    (found : Found bits x start d) (first : d.exponent = start) : d.digits ≤ 10 := by
  by_contra many
  have ten : size ⟨10, d.exponent⟩ = 10 ^ (start + 1) := by rw [← size_one, ← first, ← size_ten]
  have beyond : size ⟨10, d.exponent⟩ < size d := size_strictMono d.exponent (not_le.mp many)
  rw [← ten] at high
  have near := found.nearest 10 (rounded_between own found.rounded high.le beyond.le)
  rw [abs_of_pos (by linarith), abs_of_pos (by linarith)] at near
  linarith

/-- A single digit on a finer grid stands below the power of ten that the search has seen. -/
private theorem nearer_digit {start : ℤ} (own : Rounded bits x) (low : 10 ^ start ≤ x) {d : Decimal}
    (found : Found bits x start d) (first : d.exponent = start) {n : ℕ} {k : ℤ} (digit : n < 10 ^ 1) (fine : k < start)
    (read : Rounded bits (size ⟨n, k⟩)) : |size d - x| < |size ⟨n, k⟩ - x| := by
  have power : (10 : ℚ) ^ (1 + k) ≤ 10 ^ start := zpow_le_zpow_right₀ (by norm_num) (by omega)
  have one : size ⟨1, d.exponent⟩ = 10 ^ start := by rw [size_one, first]
  have below : size ⟨n, k⟩ < size ⟨1, d.exponent⟩ := by
    rw [one]
    exact (size_lt_iff.mpr digit).trans_le (by exact_mod_cast power)
  rw [← one] at low
  have near := found.nearest 1 (rounded_between read own below.le low)
  rw [abs_of_nonpos (by linarith : size ⟨1, d.exponent⟩ - x ≤ 0)] at near
  rw [abs_of_neg (by linarith : size ⟨n, k⟩ - x < 0)]
  linarith

section
variable {start : ℤ} (own : Rounded bits x) (low : 10 ^ start ≤ x) (high : x < 10 ^ (start + 1))
include own low high

/-- Powers of ten from the next grid on are not read back, and so nothing beyond them is. -/
private theorem decade {e : ℤ} (later : e < start) (none : ∀ n, ¬ Rounded bits (size ⟨n, e + 1⟩)) {c : Decimal}
    (read : Rounded bits (size c)) : 10 ^ start < size c ∧ size c < 10 ^ (start + 1) := by
  have off {k : ℤ} (coarse : e + 1 ≤ k) : ¬ Rounded bits (size ⟨1, k⟩) := by
    rw [← size_finer 1 coarse]
    exact none _
  rw [← size_one] at low high
  constructor
  · by_contra below
    rw [← size_one, not_lt] at below
    exact off later (rounded_between read own below low)
  · by_contra above
    rw [← size_one, not_lt] at above
    exact off (by omega) (rounded_between own read high.le above)

theorem unbeaten_later {d : Decimal} (found : Found bits x start d) (untied : Untied bits x)
    (later : d.exponent < start) (none : ∀ n, ¬ Rounded bits (size ⟨n, d.exponent + 1⟩)) :
    Unbeaten bits x d.strip := by
  have last : d.digits % 10 ≠ 0 := by
    intro zero
    apply none (d.digits / 10)
    rw [← size_ten, Nat.div_mul_cancel (Nat.dvd_of_mod_eq_zero zero)]
    exact found.rounded
  obtain ⟨count, places⟩ : ∃ count : ℕ, start + 1 = count + d.exponent := ⟨(start + 1 - d.exponent).toNat, by omega⟩
  have short : length d ≤ count := by
    have below := (decade own low high later none found.rounded).2
    rw [places] at below
    exact length_le (by omega) (size_lt_iff.mp below)
  have reach {n : ℕ} {k : ℤ} {count : ℕ} (short : n < 10 ^ count) (read : Rounded bits (size ⟨n, k⟩)) :
      k ≤ d.exponent ∧ start < count + k := by
    constructor
    · by_contra coarse
      rw [← size_finer n (show d.exponent + 1 ≤ k by omega)] at read
      exact none _ read
    · have above := (decade own low high later none read).1.trans (size_lt_iff.mpr short)
      exact (zpow_lt_zpow_iff_right₀ (by norm_num)).mp above
  rw [strip_of_last last]
  refine ⟨found.rounded, ?_, ?_⟩
  · intro n k count' short' read
    have bounds := reach short' read
    omega
  · intro n k short' read other
    have bounds := reach short' read
    obtain rfl : k = d.exponent := by omega
    apply nearer found untied read
    rintro rfl
    exact other rfl

/-- On the grid of the leading digit there is one digit to find. -/
theorem unbeaten_first {d : Decimal} (found : Found bits x start d) (untied : Untied bits x)
    (positive : ¬ Rounded bits 0) (first : d.exponent = start) : Unbeaten bits x d.strip := by
  have present : d.digits ≠ 0 := by
    intro zero
    have none : size d = 0 := by simp [size, zero]
    exact positive (none ▸ found.rounded)
  have one : length d.strip ≤ 1 := by
    have few := digits_le_ten own high found first
    have last := strip_last present
    have most := strip_le d
    exact length_le one_pos (by omega)
  refine ⟨by rw [strip_size]; exact found.rounded, ?_, ?_⟩
  · intro n k count short read
    apply one.trans
    by_contra empty
    obtain rfl : count = 0 := by omega
    obtain rfl : n = 0 := by omega
    have none : size ⟨0, k⟩ = 0 := by simp [size]
    exact positive (none ▸ read)
  · intro n k short read other
    rw [strip_size] at other ⊢
    rcases le_or_gt d.exponent k with coarse | fine
    · rw [← size_finer n coarse] at read other ⊢
      apply nearer found untied read
      intro same
      rw [same] at other
      exact other rfl
    · have digit : n < 10 ^ 1 := short.trans_le (Nat.pow_le_pow_right (by decide) one)
      exact nearer_digit own low found first digit (first ▸ fine) read

end
end

private theorem exponent_le {significand exponent least : ℕ} (short : significand < 2 ^ 53)
    (large : 2 ^ 53 * 2 ^ least ≤ significand * 2 ^ exponent) : least ≤ exponent := by
  by_contra small
  have order : 2 ^ exponent ≤ 2 ^ least := Nat.pow_le_pow_right two_pos (not_le.mp small).le
  have less := Nat.mul_lt_mul_of_lt_of_le short order (Nat.two_pow_pos _)
  exact absurd large (not_le.mpr less)

private theorem whole_value {bits n gap : ℕ} (parts : units bits = n * 2 ^ (1074 + gap)) :
    value bits = n * 2 ^ gap := by
  have power : (2 : ℚ) ^ 1074 ≠ 0 := by positivity
  rw [value, parts, Nat.cast_mul, Nat.cast_pow, Nat.cast_ofNat, pow_add, mul_left_comm, mul_div_cancel_left₀ _ power]

/-- A double that is a whole number, with the distance to the next one. -/
theorem exists_whole {bits : ℕ} (large : 2 ^ 53 ≤ value bits) :
    ∃ significand gap : ℕ, value bits = significand * 2 ^ gap ∧ value (bits + 1) = (significand + 1) * 2 ^ gap := by
  obtain ⟨exponent, significand, rfl, short, normal⟩ := exists_parts bits
  have this_units : units (exponent * 2 ^ 52 + significand) = significand * 2 ^ exponent := units_parts short.le normal
  have next_units : units (exponent * 2 ^ 52 + (significand + 1)) = (significand + 1) * 2 ^ exponent :=
    units_parts short (normal.imp_right fun le => le.trans (Nat.le_succ _))
  have power_pos : (0 : ℚ) < 2 ^ 1074 := by positivity
  obtain ⟨gap, rfl⟩ : ∃ gap, exponent = 1074 + gap := by
    apply Nat.exists_eq_add_of_le
    have cast : ((2 ^ 53 * 2 ^ 1074 : ℕ) : ℚ) = 2 ^ 53 * 2 ^ 1074 := by
      rw [Nat.cast_mul, Nat.cast_pow, Nat.cast_pow, Nat.cast_ofNat]
    rw [value, this_units, le_div_iff₀ power_pos, ← cast, Nat.cast_le] at large
    exact exponent_le short large
  refine ⟨significand, gap, whole_value this_units, ?_⟩
  rw [add_assoc, whole_value next_units, Nat.cast_add_one]

/-- The middle between neighbours on a grid has an odd last digit in base two unless the grid is too coarse. -/
private theorem middle_ne {n significand gap : ℕ} {e : ℤ} (fine : (10 : ℚ) ^ e ≤ 2 ^ gap) :
    (2 * n + 1) * (10 : ℚ) ^ e ≠ significand * 2 ^ (gap + 1) := by
  intro same
  obtain ⟨m, rfl | rfl⟩ := e.eq_nat_or_neg
  · rw [zpow_natCast] at fine same
    have fine' : 10 ^ m ≤ 2 ^ gap := by exact_mod_cast fine
    have same' : (2 * n + 1) * 10 ^ m = significand * 2 ^ (gap + 1) := by exact_mod_cast same
    have order : m ≤ gap := (Nat.pow_le_pow_iff_right (by decide)).mp ((Nat.pow_le_pow_left (by decide) m).trans fine')
    obtain ⟨more, rfl⟩ := Nat.exists_eq_add_of_le order
    have tens : 10 ^ m = 2 ^ m * 5 ^ m := (Nat.mul_pow 2 5 m).symm ▸ rfl
    have fives : (2 * n + 1) * 5 ^ m = 2 * (significand * 2 ^ more) := by
      apply Nat.eq_of_mul_eq_mul_left (Nat.two_pow_pos m)
      rw [mul_left_comm, ← tens, same']
      ring
    have odd : Odd ((2 * n + 1) * 5 ^ m) := (odd_two_mul_add_one n).mul (Odd.pow (by decide))
    exact absurd (even_two_mul _) (fives ▸ Nat.not_even_iff_odd.mpr odd)
  · rw [zpow_neg, zpow_natCast, mul_inv_eq_iff_eq_mul₀ (by positivity)] at same
    have same' : 2 * n + 1 = significand * 2 ^ (gap + 1) * 10 ^ m := by exact_mod_cast same
    have even : significand * 2 ^ (gap + 1) * 10 ^ m = 2 * (significand * 2 ^ gap * 10 ^ m) := by ring
    omega

/-- A grid with two neighbours that are both read back is not coarser than the doubles are there. -/
theorem untied_of_large {bits : ℕ} (inside : bits < infinityBits) (large : 2 ^ 53 ≤ value bits) :
    Untied bits (value bits) := by
  intro n e low high tie
  obtain ⟨significand, gap, this_value, next_value⟩ := exists_whole large
  have power_pos : (0 : ℚ) < 10 ^ e := by positivity
  have step : size ⟨n + 1, e⟩ = size ⟨n, e⟩ + 10 ^ e := by
    rw [size, size]
    push_cast
    ring
  have middle : value bits = size ⟨n, e⟩ + 10 ^ e / 2 := by
    rw [step] at tie
    rcases abs_eq_abs.mp tie with equal | opposite
    · linarith
    · linarith
  rw [this_value] at middle
  have fine : (10 : ℚ) ^ e ≤ 2 ^ gap := by
    have reached := (high.lt_iff inside).not.mp (lt_irrefl bits)
    rw [not_or, not_lt, this_value, next_value, step] at reached
    linarith [reached.1]
  have double : (2 * n + 1) * (10 : ℚ) ^ e = significand * 2 ^ (gap + 1) := by
    rw [size] at middle
    rw [pow_succ]
    linarith
  exact middle_ne fine double

theorem shortest_unbeaten {b : Binary} {bits : ℕ} (decoded : Decoded bits b) (inside : bits < infinityBits)
    (large : 2 ^ 53 ≤ magnitude b) : Unbeaten bits (magnitude b) b.shortest ∧ b.shortest.digits % 10 ≠ 0 := by
  have nonzero : b.significand ≠ 0 := by
    intro zero
    rw [magnitude_eq, zero] at large
    norm_num at large
  obtain ⟨d, written, found⟩ := shortest_found decoded inside nonzero
  obtain ⟨low, high⟩ := ceilLog10_bounds (numerator_pos nonzero) (denominator_pos b)
  have own : Rounded bits (magnitude b) := decoded.magnitude ▸ rounded_value inside.le
  have positive : ¬ Rounded bits 0 := fun none => nonzero (eq_zero_of_size decoded none)
  have untied : Untied bits (magnitude b) := by
    rw [decoded.magnitude] at large ⊢
    exact untied_of_large inside large
  rw [← sub_add_cancel (ceilLog10 b.numerator b.denominator) 1] at high
  have present : d.digits ≠ 0 := by
    intro zero
    have none : size d = 0 := by simp [size, zero]
    exact positive (none ▸ found.rounded)
  rw [written]
  refine ⟨?_, strip_last present⟩
  rcases found.coarsest with first | ⟨later, none⟩
  · exact unbeaten_first own low high found untied positive first
  · exact unbeaten_later own low high found untied later none

end Reckoner.Proofs.Fewest
