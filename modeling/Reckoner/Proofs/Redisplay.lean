import Reckoner.Outcome
import Reckoner.Proofs.Places
import Reckoner.Proofs.Printing

/-! What is displayed can be typed in again. A displayed number is read as a double that need not be the one that was
displayed, but lies at least as near to what is written, and so rounding it to the same places writes the same. -/

namespace Reckoner.Proofs.Redisplay
open Expression Magnitude Nearest Places

/-- The number after an optional sign. -/
def signedText (negative : Bool) (literal : Literal) : String :=
  String.ofList ((if negative then ['-'] else []) ++ literal.chars)

theorem ofSource_signed (settings : Settings) (negative : Bool) (literal : Literal)
    (short : (signedText negative literal).length ≤ settings.maxLength) :
    Outcome.ofSource settings (some (signedText negative literal)) =
      { ok := true, value := some (signed negative literal.value) } := by
  have read (expr : Expr) (signs : Printing.signsOpen true expr) (same : (signedText negative literal).toList = expr.text) :
      Outcome.ofSource settings (some (signedText negative literal)) = Outcome.ofResult expr.value := by
    have spelled : Spelling.Respelled (signedText negative literal).toList expr.text := by
      rw [same, Spelling.respelled_iff]
    have fits : expr.text.length ≤ settings.maxLength := by
      rwa [← same, String.length_toList]
    rw [Outcome.ofSource, Formula.value, Printing.tokens_spelling signs spelled fits]
    exact congrArg Outcome.ofResult expr.reduce_tokens
  cases negative with
  | false => exact read (.number literal) rfl (by simp [signedText, Expr.text, Expr.pieces, Tiling.texts])
  | true => exact read (.negative literal) rfl (by simp [signedText, Expr.text, Expr.pieces, Tiling.texts])

private theorem written_error (n places : ℕ) (x : ℚ) : |x - n / 10 ^ places| * 10 ^ places = |n - x * 10 ^ places| := by
  have power_pos : (0 : ℚ) < 10 ^ places := by positivity
  rw [abs_sub_comm (n : ℚ), ← abs_of_pos power_pos, ← abs_mul, abs_of_pos power_pos, sub_mul,
    div_mul_cancel₀ _ power_pos.ne']

theorem scaled_of_closer {b b' : Binary} {places : ℕ}
    (closer : |magnitude b' - scaled b places / 10 ^ places| ≤ |magnitude b - scaled b places / 10 ^ places|) :
    scaled b' places = scaled b places := by
  have power_pos : (0 : ℚ) < 10 ^ places := by positivity
  have nearest : NearestEven (scaled b places) (magnitude b' * 10 ^ places) := by
    refine (scaled_nearest b places).of_closer ?_
    rw [← written_error, ← written_error]
    exact mul_le_mul_of_nonneg_right closer power_pos.le
  exact (scaled_nearest b' places).unique nearest

theorem magnitude_near (b : Binary) (places : ℕ) : |magnitude b - scaled b places / 10 ^ places| ≤ 1 / 2 := by
  have one_le : (1 : ℚ) ≤ 10 ^ places := one_le_pow₀ (by norm_num)
  calc |magnitude b - scaled b places / 10 ^ places|
      ≤ |magnitude b - scaled b places / 10 ^ places| * 10 ^ places := le_mul_of_one_le_right (abs_nonneg _) one_le
    _ = |scaled b places - magnitude b * 10 ^ places| := written_error _ _ _
    _ ≤ 1 / 2 := (scaled_nearest b places).near

/-- A number without a fraction, or with places for all of it, is written as it is. -/
theorem written_exact {b : Binary} {bits : ℕ} (decoded : Decoded bits b) {places : ℕ}
    (room : (∃ n : ℕ, magnitude b = n) ∨ places = Display.exactPlaces) :
    scaled b places / 10 ^ places = magnitude b := by
  have power : (10 : ℚ) ^ places ≠ 0 := by positivity
  obtain ⟨n, whole⟩ : ∃ n : ℕ, magnitude b * 10 ^ places = n := by
    rcases room with ⟨n, whole⟩ | rfl
    · exact ⟨n * 10 ^ places, by rw [whole]; norm_cast⟩
    · have tens (n : ℕ) : (10 : ℚ) ^ n = 2 ^ n * 5 ^ n := by
        rw [← mul_pow]
        norm_num
      have halves : (2 : ℚ) ^ Display.exactPlaces ≠ 0 := by positivity
      refine ⟨units bits * 5 ^ Display.exactPlaces, ?_⟩
      rw [decoded.magnitude, value, tens, ← mul_assoc]
      change (units bits : ℚ) / 2 ^ Display.exactPlaces * 2 ^ Display.exactPlaces * 5 ^ Display.exactPlaces = _
      rw [div_mul_cancel₀ _ halves, Nat.cast_mul, Nat.cast_pow, Nat.cast_ofNat]
  rw [scaled_of_exact whole, ← whole, mul_div_cancel_right₀ _ power]

theorem display_fixed {settings : Settings} {decimals : Option Int} {v : Float} {b : Binary}
    (finite : Double.ofFloat v = .finite b) (small : magnitude b < 2 ^ 63)
    (nonneg : 0 ≤ decimals.getD settings.places) (bounded : decimals.getD settings.places ≤ 2147483647) :
    Display.value settings decimals v =
      .ok (String.ofList (b.fixedChars (min (decimals.getD settings.places).toNat Display.exactPlaces))) := by
  have den_pos : (0 : ℚ) < b.denominator := Nat.cast_pos.mpr (denominator_pos b)
  have plain : b.numerator < Display.plainLimit * b.denominator := by
    rw [magnitude, div_lt_iff₀ den_pos] at small
    exact_mod_cast small
  have most : Display.maxPlaces = 2147483647 := rfl
  have limits : Display.maxPlaces ≤ Display.maxReadablePlaces := by decide
  have allowed : Display.checkPlaces (decimals.getD settings.places) = .ok (decimals.getD settings.places).toNat := by
    rw [Display.checkPlaces, if_neg (by omega), if_neg (by omega), if_neg (by omega)]
  rw [Display.value, finite]
  simp only [Display.number, if_neg (Nat.not_le_of_lt plain), allowed]
  split
  next whole => rw [fixedChars_whole whole, fixedChars_whole whole]
  next => rfl

/-- What is read from the text of a number. It is written like the number, and is the number if all of it is
written. -/
structure Reread (b : Binary) (places : ℕ) (b' : Binary) : Prop where
  small : magnitude b' < 2 ^ 63
  same : scaled b' places = scaled b places
  exact : (∃ n : ℕ, magnitude b = n) ∨ places = Display.exactPlaces → magnitude b' = magnitude b

theorem reread_of_closer {b b' : Binary} {bits places : ℕ} (decoded : Decoded bits b) (small : magnitude b < 2 ^ 63)
    (closer : |magnitude b' - scaled b places / 10 ^ places| ≤ |magnitude b - scaled b places / 10 ^ places|) :
    Reread b places b' := by
  have exact : (∃ n : ℕ, magnitude b = n) ∨ places = Display.exactPlaces → magnitude b' = magnitude b := by
    intro room
    rw [written_exact decoded room, sub_self, abs_zero] at closer
    exact sub_eq_zero.mp (abs_nonpos_iff.mp closer)
  refine ⟨?_, scaled_of_closer closer, exact⟩
  rcases eq_or_ne (b.numerator % b.denominator) 0 with whole | fraction
  · rw [exact (.inl ⟨_, magnitude_whole whole⟩)]
    exact small
  · -- A number with a fraction lies so far below the limit that rounding it twice does not reach the limit.
    have below := magnitude_lt decoded.significand fraction
    have near := magnitude_near b places
    have high := (abs_le.mp (closer.trans near)).2
    have low := (abs_le.mp near).1
    linarith

/-- What is read from a literal, of all doubles nearest to the number that is written. -/
theorem exists_reread {b : Binary} {bits places : ℕ} (decoded : Decoded bits b) (small : magnitude b < 2 ^ 63)
    {literal : Literal} (written : amount literal.chars = scaled b places / 10 ^ places) (negative : Bool) :
    ∃ b', Double.ofFloat (signed negative literal.value) = .finite b' ∧ b'.negative = negative ∧
      Reread b places b' := by
  have den_pos : 0 < (Decimal.ofNumeral literal.chars).denominator := Nat.pow_pos (by decide)
  have bounded : amount literal.chars < 2 ^ 1023 := by
    have near := (abs_le.mp (magnitude_near b places)).1
    have low : (scaled b places : ℚ) / 10 ^ places < 2 ^ 64 := by linarith
    rw [written]
    exact low.trans_le (pow_le_pow_right₀ one_le_two (by decide))
  obtain ⟨inside, closest⟩ := nearestBits_closest _ den_pos bounded
  obtain ⟨b', finite, decoded', sign⟩ := decoded_signed negative inside
  refine ⟨b', finite, sign, reread_of_closer decoded small ?_⟩
  have closer := closest bits
  rwa [← decoded.magnitude, ← decoded'.magnitude, ← amount, written] at closer

private theorem ofFloat_zero (negative : Bool) : Double.ofFloat (signed negative 0) = .finite ⟨negative, 0, -1074⟩ := by
  cases negative with
  | false => decide
  | true => decide

private theorem magnitude_zero (negative : Bool) : magnitude ⟨negative, 0, -1074⟩ = 0 := by
  simp [magnitude_eq]

/-- Only what is written as zero loses its sign. -/
theorem eq_of_reread {v w : Float} {b b' : Binary} {places : ℕ} (finite : Double.ofFloat v = .finite b)
    (finite' : Double.ofFloat w = .finite b') (sign : b'.negative = (b.negative && scaled b places ≠ 0))
    (written : scaled b places / 10 ^ places = magnitude b) (size : magnitude b' = magnitude b) :
    w = if v = -0 then 0 else v := by
  rcases eq_or_ne (scaled b places) 0 with zero | nonzero
  · rw [zero, Nat.cast_zero, zero_div] at written
    have unsigned : w = 0 := by
      refine eq_of_magnitude finite' (ofFloat_zero false) ?_ ?_
      · simp [sign, zero]
      · rw [size, ← written, magnitude_zero]
    have ofSign : v = signed b.negative 0 :=
      eq_of_magnitude finite (ofFloat_zero _) rfl (by rw [← written, magnitude_zero])
    rw [unsigned, ofSign]
    cases b.negative with
    | false => decide
    | true => decide
  · have same : w = v := eq_of_magnitude finite' finite (by simp [sign, nonzero]) size
    have notZero : v ≠ -0 := by
      rintro rfl
      obtain rfl := Double.finite.inj (finite.symm.trans (ofFloat_zero true))
      exact nonzero (scaled_of_exact (by simp [magnitude_zero]))
    rw [same, if_neg notZero]

/-- A displayed number of magnitude below `2 ^ 63` can be typed in again and is displayed the same. The number is the
same too if it is whole or all of its places are displayed, but zero has no sign. -/
theorem value_reread (settings : Settings) (decimals : Option Int) {v : Float} {b : Binary}
    (finite : Double.ofFloat v = .finite b) (small : magnitude b < 2 ^ 63)
    (nonneg : 0 ≤ decimals.getD settings.places) (bounded : decimals.getD settings.places ≤ 2147483647) :
    ∃ text, Display.value settings decimals v = .ok text ∧
      (text.length ≤ settings.maxLength →
        ∃ w, Outcome.ofSource settings (some text) = { ok := true, value := some w } ∧
          Display.value settings decimals w = .ok text ∧
          ((∃ n : ℕ, magnitude b = n) ∨ 1074 ≤ decimals.getD settings.places → w = if v = -0 then 0 else v)) := by
  obtain ⟨places, used⟩ : ∃ places, min (decimals.getD settings.places).toNat Display.exactPlaces = places := ⟨_, rfl⟩
  have shown {v : Float} {b : Binary} (finite : Double.ofFloat v = .finite b) (small : magnitude b < 2 ^ 63) :
      Display.value settings decimals v = .ok (String.ofList (b.fixedChars places)) := by
    rw [display_fixed finite small nonneg bounded, used]
  obtain ⟨decoded, _⟩ := decoded_ofBits finite
  obtain ⟨literal, written, chars⟩ := fixedChars_literal b places
  obtain ⟨b', finite', sign, again⟩ := exists_reread decoded small written (b.negative && scaled b places ≠ 0)
  have text : signedText (b.negative && scaled b places ≠ 0) literal = String.ofList (b.fixedChars places) := by
    rw [chars, signedText]
  refine ⟨_, shown finite small, fun short => ⟨signed (b.negative && scaled b places ≠ 0) literal.value, ?_, ?_, ?_⟩⟩
  · rw [← text] at short ⊢
    exact ofSource_signed settings _ literal short
  · have plain : b.fixedChars places = b'.fixedChars places :=
      fixedChars_congr again.same.symm fun nonzero => by simp [sign, nonzero]
    rw [shown finite' again.small, plain]
  · intro room
    have all : (∃ n : ℕ, magnitude b = n) ∨ places = Display.exactPlaces := by
      have fits : Display.exactPlaces = 1074 := rfl
      exact room.imp_right fun many => by omega
    exact eq_of_reread finite finite' sign (written_exact decoded all) (again.exact all)

/-- A little less than -0.3. -/
def belowMinusThreeTenths : Float :=
  Float.ofBits 0xBFD3333333333334

theorem value_reread_tenths :
    Double.ofFloat belowMinusThreeTenths = .finite ⟨true, 0x13333333333334, -54⟩ ∧
    magnitude ⟨true, 0x13333333333334, -54⟩ < 2 ^ 63 ∧
    Display.value {} (some 2) belowMinusThreeTenths = .ok "-0.3" ∧
    ∃ w, Outcome.ofSource {} (some "-0.3") = { ok := true, value := some w } ∧
      Display.value {} (some 2) w = .ok "-0.3" := by
  have finite : Double.ofFloat belowMinusThreeTenths = .finite ⟨true, 0x13333333333334, -54⟩ := by decide
  have shown : Display.value {} (some 2) belowMinusThreeTenths = .ok "-0.3" := by decide +kernel
  have small : magnitude ⟨true, 0x13333333333334, -54⟩ < 2 ^ 63 := by
    norm_num [magnitude_eq]
  obtain ⟨text, shown', read⟩ := value_reread {} (some 2) finite small (by decide) (by decide)
  obtain rfl : text = "-0.3" := Except.ok.inj (shown'.symm.trans shown)
  obtain ⟨w, accepted, again, _⟩ := read (by decide)
  exact ⟨finite, small, shown, w, accepted, again⟩

end Reckoner.Proofs.Redisplay
