import Reckoner.Proofs.NumberText
import Reckoner.Proofs.Redisplay
import Reckoner.Proofs.Showing

/-! The one way in which a number is displayed. Its text has no digit, no point and no sign that could be left out, and
stands for the number rounded half to even, which is the number itself if that is whole. -/

namespace Reckoner.Proofs.Canonical
open JsonGrammar (Whole)
open Magnitude Nearest Places Showing

/-- A decimal as it is written: a sign or none, digits, and more digits behind a point if there are any. -/
structure Written where
  negative : Bool
  whole : List Char
  fraction : List Char

namespace Written

def text (written : Written) : String :=
  String.ofList ((if written.negative then ['-'] else []) ++ written.whole ++
    if written.fraction.isEmpty then [] else '.' :: written.fraction)

def number (written : Written) : ℚ :=
  if written.negative then -positional written.whole written.fraction
  else positional written.whole written.fraction

/-- Nothing can be left out, and a minus stands before negative numbers alone. -/
structure Reduced (written : Written) : Prop where
  whole : Whole written.whole
  digits : ∀ c ∈ written.fraction, c.isDigit
  last : written.fraction.getLast? ≠ some '0'
  sign : written.negative ↔ written.number < 0

end Written

/-- The number that a double is. -/
def number (b : Binary) : ℚ :=
  if b.negative then -magnitude b else magnitude b

/-- Of the numbers with `places` places `y` is nearest to `x`, or the even one of two that are equally near. -/
def RoundsTo (places : ℕ) (x y : ℚ) : Prop :=
  ∃ n : ℤ, y = n / 10 ^ places ∧ |n - x * 10 ^ places| ≤ 1 / 2 ∧ (|n - x * 10 ^ places| = 1 / 2 → Even n)

theorem fraction_digits (places n : ℕ) : ∀ c ∈ Binary.fractionChars places n, c.isDigit := by
  obtain ⟨ds, _, chars, _⟩ := fractionChars_digits places n
  have digits : ∀ d : Fin 10, (Expression.digit d).isDigit := by decide
  intro c member
  rw [chars] at member
  obtain ⟨d, _, rfl⟩ := List.mem_map.mp member
  exact digits d

theorem fraction_length (places n : ℕ) : (Binary.fractionChars places n).length ≤ places := by
  obtain ⟨ds, zeros, chars, long, _⟩ := fractionChars_digits places n
  rw [chars, List.length_map]
  omega

theorem fraction_last (places n : ℕ) : (Binary.fractionChars places n).getLast? ≠ some '0' := by
  have cut : Binary.fractionChars places n = List.rdropWhile (· = '0') (Text.numeral 10 places n) := rfl
  intro last
  rw [cut, List.getLast?_eq_some_iff] at last
  obtain ⟨front, back⟩ := last
  have present : List.rdropWhile (· = '0') (Text.numeral 10 places n) ≠ [] := by
    rw [back]
    exact List.append_ne_nil_of_right_ne_nil _ (List.cons_ne_nil _ _)
  refine List.rdropWhile_last_not _ _ present (decide_eq_true ?_)
  simp only [back, List.getLast_append_singleton]

/-- What is written for a double that is rounded to a number of places. -/
def written (b : Binary) (places : ℕ) : Written where
  negative := b.negative && scaled b places ≠ 0
  whole := Nat.toDigits 10 (scaled b places / 10 ^ places)
  fraction := Binary.fractionChars places (scaled b places % 10 ^ places)

theorem fixedChars_text (b : Binary) (places : ℕ) : String.ofList (b.fixedChars places) = (written b places).text :=
  rfl

theorem written_number (b : Binary) (places : ℕ) :
    (written b places).number =
      if b.negative then -(scaled b places / 10 ^ places : ℚ) else scaled b places / 10 ^ places := by
  rw [Written.number]
  simp only [written, positional_fixed]
  rcases eq_or_ne (scaled b places) 0 with zero | nonzero
  · simp [zero]
  · simp [nonzero]

theorem written_reduced (b : Binary) (places : ℕ) : (written b places).Reduced := by
  refine ⟨NumberText.toDigits_whole _, fraction_digits _ _, fraction_last _ _, ?_⟩
  rw [written_number]
  rcases Nat.eq_zero_or_pos (scaled b places) with zero | positive
  · simp [written, zero]
  · have size : (0 : ℚ) < scaled b places / 10 ^ places := by positivity
    cases sign : b.negative with
    | false => simp [written, sign, size.le]
    | true => simp [written, sign, size, positive.ne']

/-- Rounding a number of either sign rounds its magnitude. -/
theorem roundsTo_scaled (b : Binary) (places : ℕ) : RoundsTo places (number b) (written b places).number := by
  obtain ⟨near, even⟩ := scaled_nearest b places
  rw [written_number, number]
  cases b.negative with
  | false => exact ⟨scaled b places, by simp, by simpa using near, by simpa using even⟩
  | true =>
    have error : |((-(scaled b places : ℤ) : ℤ) : ℚ) - -magnitude b * 10 ^ places| =
        |scaled b places - magnitude b * 10 ^ places| := by
      rw [← abs_neg]
      push_cast
      ring_nf
    simp only [↓reduceIte]
    refine ⟨-scaled b places, by simp [neg_div], by rwa [error], ?_⟩
    rw [error]
    intro tie
    simpa using even tie

/-- A number with no more places than are asked for is rounded to itself. -/
theorem roundsTo_self {places : ℕ} {x : ℚ} {n : ℤ} (whole : x * 10 ^ places = n) : RoundsTo places x x := by
  have nonzero : (10 : ℚ) ^ places ≠ 0 := by positivity
  refine ⟨n, ?_, ?_, ?_⟩
  · rw [← whole, mul_div_cancel_right₀ _ nonzero]
  · rw [whole, sub_self, abs_zero]
    positivity
  · rw [whole, sub_self, abs_zero]
    norm_num

theorem written_exact {b : Binary} {places : ℕ} (exact : scaled b places / 10 ^ places = magnitude b) :
    (written b places).number = number b := by
  rw [written_number, exact, number]

theorem roundsTo_exact {b : Binary} {places more : ℕ} (exact : scaled b places / 10 ^ places = magnitude b)
    (enough : places ≤ more) : RoundsTo more (number b) (number b) := by
  obtain ⟨extra, rfl⟩ := Nat.exists_eq_add_of_le enough
  have nonzero : (10 : ℚ) ^ places ≠ 0 := by positivity
  have whole : magnitude b * 10 ^ (places + extra) = (scaled b places * 10 ^ extra : ℕ) := by
    rw [← exact, pow_add, ← mul_assoc, div_mul_cancel₀ _ nonzero]
    push_cast
    rfl
  rw [number]
  cases b.negative with
  | false => exact roundsTo_self (n := (scaled b places * 10 ^ extra : ℕ)) whole
  | true =>
    refine roundsTo_self (n := -(scaled b places * 10 ^ extra : ℕ)) ?_
    rw [if_pos rfl, neg_mul, whole, Int.cast_neg, Int.cast_natCast]

/-- How many places a number is laid out with. They are all that are asked for, unless fewer show all of it. -/
theorem display_places {settings : Settings} {decimals : Option Int} {v : Float} {b : Binary}
    (finite : Double.ofFloat v = .finite b) (small : magnitude b < 2 ^ 63)
    (shown : (∃ n : ℕ, magnitude b = n) ∨ Fits (decimals.getD settings.places)) :
    ∃ places ≤ (decimals.getD settings.places).toNat,
      Display.value settings decimals v = .ok (written b places).text ∧
      (places = (decimals.getD settings.places).toNat ∨ scaled b places / 10 ^ places = magnitude b) := by
  obtain ⟨decoded, _⟩ := decoded_ofBits finite
  rcases em (∃ n : ℕ, magnitude b = n) with whole | fraction
  · refine ⟨0, Nat.zero_le _, ?_, .inr (Redisplay.written_exact decoded (.inl whole))⟩
    rw [Display.value, finite, ← fixedChars_text]
    simp only [Display.number, plain_iff, not_le_of_gt small, whole_iff.mpr whole, ↓reduceIte]
  · obtain ⟨nonneg, bounded⟩ := shown.resolve_left fraction
    refine ⟨min (decimals.getD settings.places).toNat Display.exactPlaces, Nat.min_le_left _ _, ?_, ?_⟩
    · rw [Redisplay.display_fixed finite small nonneg bounded, fixedChars_text]
    · rcases Nat.le_total (decimals.getD settings.places).toNat Display.exactPlaces with few | many
      · exact .inl (Nat.min_eq_left few)
      · rw [Nat.min_eq_right many]
        exact .inr (Redisplay.written_exact decoded (.inr rfl))

/-- The failures that a number of places can cause. -/
def placesErrors : List DisplayError :=
  [.negativePlaces, .unreadablePlaces, .tooManyPlaces]

theorem checkPlaces_error {places : ℤ} (excluded : ¬ Fits places) :
    ∃ error ∈ placesErrors, Display.checkPlaces places = .error error := by
  have most : Display.maxPlaces = 2147483647 := rfl
  unfold Display.checkPlaces
  split
  next => exact ⟨_, by decide, rfl⟩
  next nonneg =>
    split
    next => exact ⟨_, by decide, rfl⟩
    next =>
      split
      next => exact ⟨_, by decide, rfl⟩
      next bounded => exact absurd ⟨not_lt.mp nonneg, by omega⟩ excluded

theorem display_error {settings : Settings} {decimals : Option Int} {v : Float} {b : Binary}
    (finite : Double.ofFloat v = .finite b) (small : magnitude b < 2 ^ 63) (fraction : ¬ ∃ n : ℕ, magnitude b = n)
    (excluded : ¬ Fits (decimals.getD settings.places)) :
    ∃ error ∈ placesErrors, Display.value settings decimals v = .error error := by
  obtain ⟨error, caused, refused⟩ := checkPlaces_error excluded
  refine ⟨error, caused, ?_⟩
  rw [Display.value, finite]
  simp only [Display.number, plain_iff, not_le_of_gt small, whole_iff, fraction, refused, ↓reduceIte]

/-- A number of magnitude below `2 ^ 63` cannot be displayed if it has a fraction and the places for it are negative or
too many. Otherwise the text is what is written of the number rounded to these places, with nothing that could be left
out, and a number without a fraction is written as it is, whatever the places are. -/
theorem value_reduced (settings : Settings) (decimals : Option Int) {v : Float} {b : Binary}
    (finite : Double.ofFloat v = .finite b) (small : magnitude b < 2 ^ 63) :
    ((∃ error ∈ placesErrors, Display.value settings decimals v = .error error) ↔
      ¬ (∃ n : ℕ, magnitude b = n) ∧ ¬ Fits (decimals.getD settings.places)) ∧
    ((∃ n : ℕ, magnitude b = n) ∨ Fits (decimals.getD settings.places) →
      ∃ written : Written, Display.value settings decimals v = .ok written.text ∧ written.Reduced ∧
        written.fraction.length ≤ (decimals.getD settings.places).toNat ∧
        ((∃ n : ℕ, magnitude b = n) → written.number = number b) ∧
        (0 ≤ decimals.getD settings.places →
          RoundsTo (decimals.getD settings.places).toNat (number b) written.number)) := by
  constructor
  · constructor
    · rintro ⟨error, _, failed⟩
      rw [← not_or]
      intro shown
      obtain ⟨places, _, text, _⟩ := display_places finite small shown
      rw [text] at failed
      cases failed
    · rintro ⟨fraction, excluded⟩
      exact display_error finite small fraction excluded
  · intro shown
    obtain ⟨places, few, text, all⟩ := display_places finite small shown
    obtain ⟨decoded, _⟩ := decoded_ofBits finite
    refine ⟨written b places, text, written_reduced b places, (fraction_length _ _).trans few, ?_, ?_⟩
    · intro whole
      exact written_exact (Redisplay.written_exact decoded (.inl whole))
    · intro nonneg
      rcases all with rfl | exact
      · exact roundsTo_scaled b _
      · rw [written_exact exact]
        exact roundsTo_exact exact few

/-- An eighth, below zero. -/
def minusEighth : Float :=
  Float.ofBits 0xBFC0000000000000

theorem value_reduced_tie :
    Double.ofFloat minusEighth = .finite ⟨true, 0x10000000000000, -55⟩ ∧
    magnitude ⟨true, 0x10000000000000, -55⟩ < 2 ^ 63 ∧ Fits 2 ∧
    Display.value {} (some 2) minusEighth = .ok "-0.12" ∧
    ∃ written : Written, written.text = "-0.12" ∧ written.Reduced ∧ RoundsTo 2 (-1 / 8) written.number := by
  have finite : Double.ofFloat minusEighth = .finite ⟨true, 0x10000000000000, -55⟩ := by decide
  have small : magnitude ⟨true, 0x10000000000000, -55⟩ < 2 ^ 63 := by
    norm_num [magnitude_eq]
  have fits : Fits 2 := by
    norm_num [Fits]
  have shown : Display.value {} (some 2) minusEighth = .ok "-0.12" := by decide +kernel
  have eighth : number ⟨true, 0x10000000000000, -55⟩ = -1 / 8 := by
    norm_num [number, magnitude_eq]
  obtain ⟨written, text, reduced, _, _, rounds⟩ := (value_reduced {} (some 2) finite small).2 (.inr fits)
  rw [eighth] at rounds
  exact ⟨finite, small, fits, shown, written, Except.ok.inj (text.symm.trans shown), reduced, rounds (by decide)⟩

end Reckoner.Proofs.Canonical
