import Reckoner.Proofs.Places
import Reckoner.Proofs.Rounding

/-! Numbers as they are read. The digits of a numeral denote a rational number, however many there are, and the numeral
is read as the double that this number is rounded to. Nothing else of the numeral counts, and so neither do zeros in
front of it or behind its fraction. -/

namespace Reckoner.Proofs.Numerals
open Places Rounding Scan Tiling

/-- The digits before the point. -/
def wholePart (run : List Char) : List Char :=
  run.takeWhile (· ≠ point)

/-- The digits behind the point. -/
def fractionPart (run : List Char) : List Char :=
  (run.dropWhile (· ≠ point)).drop 1

/-- The number that a run of digits with at most one point denotes. -/
def denoted (run : List Char) : ℚ :=
  positional (wholePart run) (fractionPart run)

private theorem clean_wholePart {run : List Char} : ∀ c ∈ wholePart run, c ≠ point := by
  intro c member
  simpa using List.mem_takeWhile_imp member

private theorem filter_clean {cs : List Char} (clean : ∀ c ∈ cs, c ≠ point) : cs.filter (· ≠ point) = cs :=
  List.filter_eq_self.mpr fun c member => decide_eq_true (clean c member)

theorem parts_append (run : List Char) : run = wholePart run ++ run.dropWhile (· ≠ point) :=
  List.takeWhile_append_dropWhile.symm

/-- A point among the digits is followed by digits alone. -/
theorem filter_parts {run : List Char} (points : run.count point ≤ 1) :
    run.filter (· ≠ point) = wholePart run ++ fractionPart run := by
  have fraction : (run.dropWhile (· ≠ point)).filter (· ≠ point) = fractionPart run := by
    unfold fractionPart
    have first := List.head?_dropWhile_not (· ≠ point) run
    have remaining := (List.dropWhile_sublist (l := run) (· ≠ point)).count_le point
    cases rest : run.dropWhile (· ≠ point) with
    | nil => rfl
    | cons c behind =>
      rw [rest] at first remaining
      obtain rfl : c = point := by simpa using first
      have clean : point ∉ behind := by
        rw [List.count_cons_self] at remaining
        exact List.count_eq_zero.mp (by omega)
      rw [List.filter_cons_of_neg (by simp)]
      exact filter_clean fun c member same => clean (same ▸ member)
  conv_lhs => rw [parts_append run]
  rw [List.filter_append, filter_clean clean_wholePart, fraction]

theorem amount_denoted {run : List Char} (points : run.count point ≤ 1) : amount run = denoted run := by
  have power : (10 : ℚ) ^ (fractionPart run).length ≠ 0 := by positivity
  have digits : (Decimal.ofNumeral run).digits =
      10 ^ (fractionPart run).length * Nat.ofDigitChars 10 (wholePart run) 0 +
        Nat.ofDigitChars 10 (fractionPart run) 0 := by
    rw [← Nat.ofDigitChars_eq_ofDigitChars_zero, ← Nat.ofDigitChars_append, ← filter_parts points]
    rfl
  have exponent : (Decimal.ofNumeral run).exponent = -(fractionPart run).length := rfl
  rw [amount, Decimal.numerator, Decimal.denominator, digits, exponent, denoted, positional]
  simp
  field_simp

theorem bits_rounded {run : List Char} (points : run.count point ≤ 1) :
    Rounded (Decimal.ofNumeral run).bits (denoted run) := by
  rw [← amount_denoted points]
  exact nearestBits_rounded _ (Nat.pow_pos (by decide))

theorem reading_bits {run : List Char} (points : run.count point ≤ 1) :
    (reading run).toBits.toNat = (Decimal.ofNumeral run).bits :=
  Bits.toNat_ofBits (bits_rounded points).bounded

theorem reading_rounded {run : List Char} (points : run.count point ≤ 1) :
    Rounded (reading run).toBits.toNat (denoted run) := by
  rw [reading_bits points]
  exact bits_rounded points

/-- What a numeral is read as depends on the number alone that it denotes. -/
theorem reading_congr {run run' : List Char} (points : run.count point ≤ 1) (points' : run'.count point ≤ 1)
    (same : denoted run = denoted run') : reading run = reading run' := by
  have rounded := reading_rounded points
  rw [same] at rounded
  rw [← Float.toBits_inj, ← UInt64.toNat_inj]
  exact rounded.unique (reading_rounded points')

theorem reading_mono {run run' : List Char} (points : run.count point ≤ 1) (points' : run'.count point ≤ 1)
    (order : denoted run ≤ denoted run') : reading run ≤ reading run' :=
  Bits.ofBits_le ((bits_rounded points).mono (bits_rounded points') order) (bits_rounded points').bounded

theorem reading_infinite_iff {run : List Char} (points : run.count point ≤ 1) :
    Double.ofFloat (reading run) = .infinite false ↔ 2 ^ 1024 - 2 ^ 970 ≤ denoted run := by
  have rounded := reading_rounded points
  rw [← rounded.infinite_iff, Double.ofFloat]
  constructor
  · intro infinite
    by_contra different
    have limit : infinityBits = 2047 * 2 ^ 52 := rfl
    have bounded := rounded.bounded
    have inside : (reading run).toBits.toNat % 2 ^ 63 < infinityBits := by omega
    obtain ⟨b, finite⟩ := Magnitude.ofBits_finite inside
    rw [finite] at infinite
    cases infinite
  · intro full
    rw [full]
    decide

theorem reading_zero_iff {run : List Char} (points : run.count point ≤ 1) :
    reading run = 0 ↔ denoted run ≤ 1 / 2 ^ 1075 := by
  have zero : (0 : Float).toBits.toNat = 0 := by decide
  rw [← (reading_rounded points).zero_iff, ← Float.toBits_inj, ← UInt64.toNat_inj, zero]

theorem denoted_leading (zeros : ℕ) (run : List Char) : denoted (List.replicate zeros '0' ++ run) = denoted run := by
  have plain : ∀ c ∈ List.replicate zeros '0', decide (c ≠ point) = true := by
    intro c member
    rw [List.eq_of_mem_replicate member]
    decide
  rw [denoted, denoted, wholePart, fractionPart, List.takeWhile_append_of_pos plain, List.dropWhile_append_of_pos plain,
    positional, Nat.ofDigitChars_append, Nat.ofDigitChars_replicate_zero, Nat.mul_zero]
  rfl

theorem denoted_trailing {run : List Char} (pointed : point ∈ run) (zeros : ℕ) :
    denoted (run ++ List.replicate zeros '0') = denoted run := by
  have rest : run.dropWhile (· ≠ point) ≠ [] := by
    intro none
    have all := List.dropWhile_eq_nil_iff.mp none point pointed
    simp at all
  have stops : ¬ (run.takeWhile (· ≠ point)).length = run.length := by
    intro long
    have parts := congrArg List.length (parts_append run)
    rw [List.length_append, wholePart, long] at parts
    exact rest (List.length_eq_zero_iff.mp (by omega))
  have whole : wholePart (run ++ List.replicate zeros '0') = wholePart run := by
    rw [wholePart, List.takeWhile_append, if_neg stops, wholePart]
  have fraction : fractionPart (run ++ List.replicate zeros '0') = fractionPart run ++ List.replicate zeros '0' := by
    rw [fractionPart, List.dropWhile_append, if_neg (by rwa [List.isEmpty_iff]),
      List.drop_append_of_le_length (List.length_pos_iff.mpr rest), fractionPart]
  have power : (10 : ℚ) ^ zeros ≠ 0 := by positivity
  rw [denoted, denoted, whole, fraction, positional, positional, Nat.ofDigitChars_append,
    Nat.ofDigitChars_replicate_zero, List.length_append, List.length_replicate, pow_add, Nat.cast_mul, Nat.cast_pow,
    Nat.cast_ofNat, mul_comm ((10 : ℚ) ^ zeros), mul_div_mul_right _ _ power]

theorem exists_digit {before run after : List Char} (numeral : Numeral before run after) : ∃ c ∈ run, c.isDigit := by
  obtain ⟨c, last, numeric⟩ := numeral.last
  have other : c ≠ point := fun same => numeral.closed (same ▸ last)
  have digit : c ∈ digits := by simpa [isNumeral, other] using numeric
  have all : digits.all Char.isDigit := rfl
  exact ⟨c, List.mem_of_getLast? last, List.all_eq_true.mp all c digit⟩

theorem lexeme_number {before run after : List Char} (numeral : Numeral before run after) (opening : Bool) {c : Char}
    {rest : List Char} (whole : c :: rest = run ++ after) :
    Scan.lexeme opening c rest = .ok (.number (reading run), after) := by
  obtain ⟨nonempty, numeric, _, ends, points, closed⟩ := numeral
  cases opening with
  | false =>
    have lexeme : Lexeme ['+'] run (.number (reading run)) after :=
      .number ⟨nonempty, numeric, by decide, ends, points, closed⟩
    exact lexeme.complete whole
  | true =>
    have lexeme : Lexeme [] run (.number (reading run)) after :=
      .number ⟨nonempty, numeric, by decide, ends, points, closed⟩
    exact lexeme.complete whole

theorem lexeme_signed {before run after : List Char} (numeral : Numeral before run after) :
    Scan.lexeme true '-' (run ++ after) = .ok (.number (-reading run), after) := by
  obtain ⟨nonempty, numeric, _, ends, points, closed⟩ := numeral
  have lexeme : Lexeme [] ('-' :: run) (.number (-reading run)) after :=
    .signed (.inl rfl) ⟨nonempty, numeric, by decide, ends, points, closed⟩
  exact lexeme.complete rfl

/-- A numeral is read as the double that its number is rounded to, with any zeros in front of it or behind its
fraction, and negated by its sign alone. -/
structure Reads (run : List Char) (v : Float) : Prop where
  read : Scan.numeral run = .ok v
  rounded : Rounded v.toBits.toNat (denoted run)
  infinite : Double.ofFloat v = .infinite false ↔ 2 ^ 1024 - 2 ^ 970 ≤ denoted run
  zero : v = 0 ↔ denoted run ≤ 1 / 2 ^ 1075
  negated : (-v).toBits.toNat = 2 ^ 63 + v.toBits.toNat
  leading : ∀ zeros, Scan.numeral (List.replicate zeros '0' ++ run) = .ok v
  trailing : point ∈ run → ∀ zeros, Scan.numeral (run ++ List.replicate zeros '0') = .ok v

private theorem count_zeros (zeros : ℕ) : (List.replicate zeros '0').count point = 0 :=
  List.count_eq_zero.mpr fun member => absurd (List.eq_of_mem_replicate member) (by decide)

theorem numeral_reads {before run after : List Char} (numeral : Numeral before run after) :
    Reads run (reading run) := by
  obtain ⟨nonempty, numeric, _, ends, points, closed⟩ := numeral
  refine ⟨numeral_ok_iff.mpr ⟨points, closed, rfl⟩, reading_rounded points, reading_infinite_iff points,
    reading_zero_iff points, ?_, fun zeros => ?_, fun pointed zeros => ?_⟩
  · rw [reading_bits points]
    exact Bits.toNat_neg_ofBits (bits_rounded points).bounded
  · have points' : (List.replicate zeros '0' ++ run).count point ≤ 1 := by
      rwa [List.count_append, count_zeros, Nat.zero_add]
    refine numeral_ok_iff.mpr ⟨points', ?_, reading_congr points points' (denoted_leading zeros run).symm⟩
    rwa [List.getLast?_append_of_ne_nil _ nonempty]
  · have points' : (run ++ List.replicate zeros '0').count point ≤ 1 := by
      rwa [List.count_append, count_zeros, Nat.add_zero]
    refine numeral_ok_iff.mpr ⟨points', ?_, reading_congr points points' (denoted_trailing pointed zeros).symm⟩
    cases zeros with
    | zero => rwa [List.replicate_zero, List.append_nil]
    | succ zeros =>
      rw [List.replicate_succ', ← List.append_assoc, List.getLast?_append_of_ne_nil _ (List.cons_ne_nil _ _)]
      decide

/-- A maximal run of digits and points that passes the checks has a digit. It is scanned as the double that the number
it denotes is rounded to, and as the negated one behind a sign, and greater numbers are not read as smaller doubles. -/
theorem lexeme_rounded {before run after : List Char} (numeral : Numeral before run after) :
    (∃ c ∈ run, c.isDigit) ∧
    ∃ v, Reads run v ∧
      (∀ opening c rest, c :: rest = run ++ after → Scan.lexeme opening c rest = .ok (.number v, after)) ∧
      Scan.lexeme true '-' (run ++ after) = .ok (.number (-v), after) ∧
      ∀ before' run' after' v', Numeral before' run' after' → Scan.numeral run' = .ok v' →
        denoted run ≤ denoted run' → v ≤ v' := by
  refine ⟨exists_digit numeral, reading run, numeral_reads numeral, ?_, lexeme_signed numeral, ?_⟩
  · intro opening c rest whole
    exact lexeme_number numeral opening whole
  · intro before' run' after' v' numeral' read order
    obtain ⟨_, _, rfl⟩ := numeral_ok_iff.mp read
    exact reading_mono numeral.points numeral'.points order

theorem lexeme_rounded_tenth :
    Numeral [] ['0', '.', '1'] ['+', '1'] ∧
    ∃ v, Scan.lexeme false '0' ['.', '1', '+', '1'] = .ok (.number v, ['+', '1']) ∧
      Scan.numeral ['.', '1', '0', '0'] = .ok v ∧ Rounded v.toBits.toNat (1 / 10) := by
  have numeral : Numeral [] ['0', '.', '1'] ['+', '1'] :=
    ⟨by decide, by simp [isNumeral, digits, point], by decide, by decide, by decide, by decide⟩
  have short : Numeral [] ['.', '1'] [] :=
    ⟨by decide, by simp [isNumeral, digits, point], by decide, by decide, by decide, by decide⟩
  have whole : Nat.ofDigitChars 10 (wholePart ['0', '.', '1']) 0 = 0 := rfl
  have fraction : Nat.ofDigitChars 10 (fractionPart ['0', '.', '1']) 0 = 1 := rfl
  have places : (fractionPart ['0', '.', '1']).length = 1 := rfl
  have tenth : denoted ['0', '.', '1'] = 1 / 10 := by
    rw [denoted, positional, whole, fraction, places]
    norm_num
  obtain ⟨_, v, reads, scanned, _, _⟩ := lexeme_rounded numeral
  obtain ⟨_, w, reads', _⟩ := lexeme_rounded short
  have same : v = w := Except.ok.inj (reads.read.symm.trans (reads'.leading 1))
  refine ⟨numeral, v, scanned false '0' _ rfl, ?_, tenth ▸ reads.rounded⟩
  rw [same]
  exact reads'.trailing (by decide) 2

end Reckoner.Proofs.Numerals
