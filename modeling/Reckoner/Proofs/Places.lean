import Mathlib.Data.List.DropRight
import Mathlib.Data.Nat.Cast.Field
import Reckoner.Number.Fixed
import Reckoner.Proofs.Expression
import Reckoner.Proofs.Magnitude

/-! Numbers written with a bounded number of places. What is written is a literal, after a sign if there is one, and
the literal stands for the rounded number itself: zeros that are left out at the end do not count. -/

namespace Reckoner.Proofs.Places
open Expression Magnitude Nearest

/-- The number that digits on both sides of a point stand for. -/
def positional (whole fraction : List Char) : ℚ :=
  Nat.ofDigitChars 10 whole 0 + Nat.ofDigitChars 10 fraction 0 / 10 ^ fraction.length

/-- The number that a run of digits with at most one point in it stands for. -/
def amount (run : List Char) : ℚ :=
  (Decimal.ofNumeral run).numerator / (Decimal.ofNumeral run).denominator

private theorem digit_ne_point (d : Fin 10) : digit d ≠ Scan.point := by
  revert d
  decide

private theorem filter_digits (ds : List (Fin 10)) : (ds.map digit).filter (· ≠ '.') = ds.map digit := by
  apply List.filter_eq_self.mpr
  intro c member
  obtain ⟨d, _, rfl⟩ := List.mem_map.mp member
  exact decide_eq_true (digit_ne_point d)

private theorem drop_digits (ds : List (Fin 10)) (rest : List Char) :
    (ds.map digit ++ rest).dropWhile (· ≠ '.') = rest.dropWhile (· ≠ '.') := by
  apply List.dropWhile_append_of_pos
  intro c member
  obtain ⟨d, _, rfl⟩ := List.mem_map.mp member
  exact decide_eq_true (digit_ne_point d)

theorem ofNumeral_chars (literal : Literal) :
    Decimal.ofNumeral literal.chars =
      ⟨Nat.ofDigitChars 10 ((literal.whole ++ literal.fraction).map digit) 0, -literal.fraction.length⟩ := by
  obtain ⟨whole, fraction, inhabited⟩ := literal
  rw [Literal.chars, Decimal.ofNumeral, List.filter_append, drop_digits, filter_digits, List.map_append]
  dsimp only
  rcases eq_or_ne fraction [] with rfl | present
  · rfl
  · rw [if_neg present, List.filter_cons_of_neg (by decide), List.dropWhile_cons_of_neg (by decide), filter_digits,
      List.drop_one, List.tail_cons, List.length_map]

private theorem toDigits_digits (n : ℕ) : ∃ ds : List (Fin 10), Nat.toDigits 10 n = ds.map digit := by
  induction n using Nat.strongRecOn with
  | ind n ih =>
    rw [Nat.toDigits_eq_if (by decide)]
    split
    next small => exact ⟨[⟨n, small⟩], rfl⟩
    next large =>
      obtain ⟨ds, high⟩ := ih (n / 10) (by omega)
      refine ⟨ds ++ [⟨n % 10, Nat.mod_lt n (by decide)⟩], ?_⟩
      rw [high, List.map_append]
      rfl

private theorem numeral_digits (width n : ℕ) :
    ∃ ds : List (Fin 10), ds.length = width ∧ Text.numeral 10 width n = ds.map digit := by
  induction width generalizing n with
  | zero => exact ⟨[], rfl, rfl⟩
  | succ width ih =>
    obtain ⟨ds, long, high⟩ := ih (n / 10)
    refine ⟨ds ++ [⟨n % 10, Nat.mod_lt n (by decide)⟩], ?_, ?_⟩
    · rw [List.length_append, long]
      rfl
    · rw [Text.numeral, high, List.map_append]
      rfl

private theorem numeral_value (width n init : ℕ) :
    Nat.ofDigitChars 10 (Text.numeral 10 width n) init = 10 ^ width * init + n % 10 ^ width := by
  induction width generalizing n with
  | zero => simp [Text.numeral, Nat.ofDigitChars, Nat.mod_one]
  | succ width ih =>
    rw [Text.numeral, Nat.ofDigitChars_append, ih, Nat.ofDigitChars_cons_digitChar_of_lt_ten (Nat.mod_lt n (by decide)),
      pow_succ', Nat.mod_mul]
    simp only [Nat.ofDigitChars, List.foldl_nil]
    ring

private theorem numeral_zero (width : ℕ) : Text.numeral 10 width 0 = List.replicate width '0' := by
  induction width with
  | zero => rfl
  | succ width ih =>
    rw [Text.numeral, List.replicate_succ', Nat.zero_div, ih]
    rfl

/-- The digits after the point, and how many zeros are left out behind them. -/
theorem fractionChars_digits (places n : ℕ) :
    ∃ (ds : List (Fin 10)) (zeros : ℕ), Binary.fractionChars places n = ds.map digit ∧ ds.length + zeros = places ∧
      Text.numeral 10 places n = ds.map digit ++ List.replicate zeros '0' := by
  obtain ⟨all, long, numeral⟩ := numeral_digits places n
  have cut : Binary.fractionChars places n ++ List.rtakeWhile (· = '0') (Text.numeral 10 places n) =
      Text.numeral 10 places n := List.rdropWhile_append_rtakeWhile
  obtain ⟨zeros, rest⟩ : ∃ zeros, List.rtakeWhile (· = '0') (Text.numeral 10 places n) = List.replicate zeros '0' := by
    refine ⟨_, List.eq_replicate_of_mem ?_⟩
    intro c member
    have zero := List.mem_rtakeWhile_imp member
    exact of_decide_eq_true zero
  rw [rest] at cut
  obtain ⟨ds, others, rfl, front, back⟩ := List.map_eq_append_iff.mp (numeral.symm.trans cut.symm)
  refine ⟨ds, zeros, front.symm, ?_, ?_⟩
  · have size := congrArg List.length back
    rw [List.length_map, List.length_replicate] at size
    rw [← long, List.length_append, size]
  · rw [← cut, front]

/-- Zeros that are left out at the end of a fraction do not change it. -/
theorem fraction_value {places n : ℕ} (small : n < 10 ^ places) :
    (Nat.ofDigitChars 10 (Binary.fractionChars places n) 0 : ℚ) / 10 ^ (Binary.fractionChars places n).length =
      n / 10 ^ places := by
  obtain ⟨ds, zeros, chars, long, numeral⟩ := fractionChars_digits places n
  have whole : 10 ^ zeros * Nat.ofDigitChars 10 (Binary.fractionChars places n) 0 = n := by
    have read := numeral_value places n 0
    rwa [numeral, Nat.ofDigitChars_append, Nat.ofDigitChars_replicate_zero, ← chars, Nat.mul_zero, Nat.zero_add,
      Nat.mod_eq_of_lt small] at read
  have power : (10 : ℚ) ^ places = 10 ^ zeros * 10 ^ (Binary.fractionChars places n).length := by
    rw [← pow_add, chars, List.length_map, add_comm, long]
  have nonzero : (10 : ℚ) ^ zeros ≠ 0 := by positivity
  rw [power, ← mul_div_mul_left _ _ nonzero]
  exact_mod_cast congrArg (fun m : ℕ => (m : ℚ) / (10 ^ zeros * 10 ^ (Binary.fractionChars places n).length)) whole

theorem positional_fixed (n places : ℕ) :
    positional (Nat.toDigits 10 (n / 10 ^ places)) (Binary.fractionChars places (n % 10 ^ places)) =
      n / 10 ^ places := by
  have power_pos : 0 < 10 ^ places := by positivity
  have nonzero : (10 : ℚ) ^ places ≠ 0 := by positivity
  have split : (n : ℚ) = 10 ^ places * (n / 10 ^ places : ℕ) + (n % 10 ^ places : ℕ) := by
    exact_mod_cast (Nat.div_add_mod n (10 ^ places)).symm
  rw [positional, Nat.ofDigitChars_ten_toDigits, fraction_value (Nat.mod_lt _ power_pos)]
  conv_rhs => rw [split, add_div, mul_div_cancel_left₀ _ nonzero]

private theorem amount_chars (literal : Literal) :
    amount literal.chars = positional (literal.whole.map digit) (literal.fraction.map digit) := by
  rw [amount, ofNumeral_chars, List.map_append, Decimal.numerator, Decimal.denominator, positional,
    Nat.ofDigitChars_append, Nat.ofDigitChars_eq_ofDigitChars_zero]
  simp
  field_simp

theorem exists_literal (n places : ℕ) :
    ∃ literal : Literal, amount literal.chars = n / 10 ^ places ∧
      literal.chars = Nat.toDigits 10 (n / Nat.pow 10 places) ++
        if (Binary.fractionChars places (n % Nat.pow 10 places)).isEmpty then []
        else '.' :: Binary.fractionChars places (n % Nat.pow 10 places) := by
  obtain ⟨whole, high⟩ := toDigits_digits (n / Nat.pow 10 places)
  obtain ⟨fraction, _, low, _⟩ := fractionChars_digits places (n % Nat.pow 10 places)
  have inhabited : whole ≠ [] := by
    rintro rfl
    exact Nat.toDigits_ne_nil high
  refine ⟨⟨whole, fraction, .inl inhabited⟩, ?_, ?_⟩
  · rw [amount_chars, ← high, ← low]
    exact positional_fixed n places
  · rw [high, low, Literal.chars]
    simp [Scan.point]

/-- The rounded number, counted in units of the last place. -/
def scaled (b : Binary) (places : ℕ) : ℕ :=
  halfEven (b.numerator * Nat.pow 10 places) b.denominator

theorem scaled_nearest (b : Binary) (places : ℕ) : NearestEven (scaled b places) (magnitude b * 10 ^ places) := by
  have nearest := halfEven_nearest (b.numerator * Nat.pow 10 places) (denominator_pos b)
  rwa [Nat.pow_eq, Nat.cast_mul, Nat.cast_pow, Nat.cast_ofNat, mul_div_right_comm] at nearest

theorem scaled_of_exact {b : Binary} {places n : ℕ} (exact : magnitude b * 10 ^ places = n) : scaled b places = n := by
  have nearest := scaled_nearest b places
  rw [exact] at nearest
  exact nearest.unique ⟨by simp, by simp⟩

theorem fixedChars_literal (b : Binary) (places : ℕ) :
    ∃ literal : Literal, amount literal.chars = scaled b places / 10 ^ places ∧
      b.fixedChars places = (if b.negative && scaled b places ≠ 0 then ['-'] else []) ++ literal.chars := by
  obtain ⟨literal, amount, chars⟩ := exists_literal (scaled b places) places
  refine ⟨literal, amount, ?_⟩
  rw [chars, ← List.append_assoc]
  rfl

theorem fixedChars_congr {b b' : Binary} {places : ℕ} (same : scaled b places = scaled b' places)
    (sign : scaled b places ≠ 0 → b.negative = b'.negative) : b.fixedChars places = b'.fixedChars places := by
  unfold scaled at same sign
  simp only [Binary.fixedChars, ← same]
  rcases eq_or_ne (halfEven (b.numerator * Nat.pow 10 places) b.denominator) 0 with zero | nonzero
  · simp only [zero]
    simp
  · rw [sign nonzero]

theorem magnitude_whole {b : Binary} (whole : b.numerator % b.denominator = 0) :
    magnitude b = (b.numerator / b.denominator : ℕ) := by
  have nonzero : (b.denominator : ℚ) ≠ 0 := Nat.cast_ne_zero.mpr (denominator_pos b).ne'
  exact (Nat.cast_div (Nat.dvd_of_mod_eq_zero whole) nonzero).symm

/-- Whole numbers have no places, however many are asked for. -/
theorem fixedChars_whole {b : Binary} (whole : b.numerator % b.denominator = 0) (places : ℕ) :
    b.fixedChars places =
      (if b.negative && b.numerator / b.denominator ≠ 0 then ['-'] else []) ++
        Nat.toDigits 10 (b.numerator / b.denominator) := by
  have exact : scaled b places = b.numerator / b.denominator * Nat.pow 10 places :=
    scaled_of_exact (by rw [magnitude_whole whole]; norm_cast)
  have power_pos : 0 < Nat.pow 10 places := Nat.pow_pos (by decide)
  have none : Binary.fractionChars places 0 = [] := by
    rw [Binary.fractionChars, numeral_zero, List.reverse_replicate, List.dropWhile_replicate]
    rfl
  unfold scaled at exact
  simp only [Binary.fixedChars, exact, Nat.mul_div_cancel _ power_pos, Nat.mul_mod_left, none]
  simp

end Reckoner.Proofs.Places
