import Reckoner.Proofs.Bits
import Reckoner.Proofs.Nearest

/-! Doubles as rational numbers. The magnitude of a double is the value of its bits without the sign, so that magnitude
and sign together tell which double it is. -/

namespace Reckoner.Proofs.Magnitude
open Nearest

def magnitude (b : Binary) : ℚ :=
  b.numerator / b.denominator

theorem denominator_pos (b : Binary) : 0 < b.denominator :=
  Nat.two_pow_pos _

theorem magnitude_eq (b : Binary) : magnitude b = b.significand * 2 ^ b.exponent := by
  obtain ⟨negative, significand, exponent⟩ := b
  obtain ⟨n, rfl | rfl⟩ := exponent.eq_nat_or_neg
  · simp [magnitude, Binary.numerator, Binary.denominator]
  · simp [magnitude, Binary.numerator, Binary.denominator, div_eq_mul_inv]

/-- What a double without sign is decoded to. -/
structure Decoded (bits : ℕ) (b : Binary) : Prop where
  magnitude : magnitude b = value bits
  significand : b.significand < 2 ^ 53

theorem decoded_ofBits {bits : ℕ} {b : Binary} (finite : Double.ofBits bits = .finite b) :
    Decoded (bits % 2 ^ 63) b ∧ b.negative = decide (2 ^ 63 ≤ bits) := by
  have field : bits % 2 ^ 63 / 2 ^ 52 = bits / 2 ^ 52 % 2 ^ 11 := by omega
  have fraction : bits % 2 ^ 63 % 2 ^ 52 = bits % 2 ^ 52 := by omega
  have short : bits % 2 ^ 52 < 2 ^ 52 := Nat.mod_lt _ (by positivity)
  unfold Double.ofBits at finite
  simp only [Nat.pow_eq] at finite
  split at finite
  next => split at finite <;> cases finite
  next =>
    split at finite
    next subnormal =>
      cases finite
      refine ⟨⟨?_, by dsimp only; omega⟩, rfl⟩
      rw [magnitude_eq, value, units, field, fraction, if_pos subnormal, div_eq_mul_inv, zpow_neg]
      rfl
    next normal =>
      cases finite
      refine ⟨⟨?_, by dsimp only; omega⟩, rfl⟩
      obtain ⟨shift, exponent⟩ := Nat.exists_eq_succ_of_ne_zero normal
      have scale : ((bits / 2 ^ 52 % 2 ^ 11 : ℕ) : ℤ) - 1075 = shift - (1074 : ℕ) := by omega
      rw [magnitude_eq, value, units, field, fraction, if_neg normal]
      dsimp only
      rw [scale, exponent, zpow_sub₀ two_ne_zero, zpow_natCast, zpow_natCast, Nat.succ_sub_one, Nat.cast_mul,
        Nat.cast_pow, Nat.cast_ofNat, mul_div_assoc]

theorem ofBits_finite {bits : ℕ} (inside : bits % 2 ^ 63 < infinityBits) : ∃ b, Double.ofBits bits = .finite b := by
  have limit : infinityBits = 2047 * 2 ^ 52 := rfl
  have field : bits / 2 ^ 52 % 2 ^ 11 ≠ 2047 := by omega
  unfold Double.ofBits
  simp only [Nat.pow_eq, field, ↓reduceIte]
  split
  · exact ⟨_, rfl⟩
  · exact ⟨_, rfl⟩

theorem finite_inside {bits : ℕ} {b : Binary} (finite : Double.ofBits bits = .finite b) :
    bits % 2 ^ 63 < infinityBits := by
  have limit : infinityBits = 2047 * 2 ^ 52 := rfl
  unfold Double.ofBits at finite
  simp only [Nat.pow_eq] at finite
  split at finite
  next => split at finite <;> cases finite
  next below => omega

theorem value_injective : Function.Injective value := by
  intro first second same
  have power : (2 : ℚ) ^ 1074 ≠ 0 := by positivity
  exact units_strictMono.injective (Nat.cast_injective ((div_left_inj' power).mp same))

def signed (negative : Bool) (size : Float) : Float :=
  if negative then -size else size

private theorem toNat_signed (negative : Bool) {bits : ℕ} (inside : bits < infinityBits) :
    (signed negative (Float.ofBits (UInt64.ofNat bits))).toBits.toNat = bits + if negative then 2 ^ 63 else 0 := by
  cases negative with
  | false => exact Bits.toNat_ofBits inside.le
  | true => exact (Bits.toNat_neg_ofBits inside.le).trans (Nat.add_comm _ _)

theorem decoded_signed (negative : Bool) {bits : ℕ} (inside : bits < infinityBits) :
    ∃ b, Double.ofFloat (signed negative (Float.ofBits (UInt64.ofNat bits))) = .finite b ∧ Decoded bits b ∧
      b.negative = negative := by
  have limit : infinityBits = 2047 * 2 ^ 52 := rfl
  have word := toNat_signed negative inside
  have low : (signed negative (Float.ofBits (UInt64.ofNat bits))).toBits.toNat % 2 ^ 63 = bits := by
    split at word <;> omega
  obtain ⟨b, finite⟩ := ofBits_finite (low.trans_lt inside)
  obtain ⟨decoded, sign⟩ := decoded_ofBits finite
  rw [low] at decoded
  refine ⟨b, finite, decoded, sign.trans ?_⟩
  rw [word]
  cases negative with
  | false =>
    have small : bits < 2 ^ 63 := by omega
    exact decide_eq_false (Nat.not_le_of_lt small)
  | true => exact decide_eq_true (Nat.le_add_left _ _)

/-- A double is known by its sign and its magnitude. -/
theorem eq_of_magnitude {v w : Float} {b b' : Binary} (first : Double.ofFloat v = .finite b)
    (second : Double.ofFloat w = .finite b') (sign : b.negative = b'.negative) (size : magnitude b = magnitude b') :
    v = w := by
  obtain ⟨decoded, negative⟩ := decoded_ofBits first
  obtain ⟨decoded', negative'⟩ := decoded_ofBits second
  have low : v.toBits.toNat % 2 ^ 63 = w.toBits.toNat % 2 ^ 63 :=
    value_injective (decoded.magnitude.symm.trans (size.trans decoded'.magnitude))
  have high : 2 ^ 63 ≤ v.toBits.toNat ↔ 2 ^ 63 ≤ w.toBits.toNat :=
    decide_eq_decide.mp (negative.symm.trans (sign.trans negative'))
  have range : v.toBits.toNat < 2 ^ 64 := v.toBits.toNat_lt
  have range' : w.toBits.toNat < 2 ^ 64 := w.toBits.toNat_lt
  rw [← Float.toBits_inj, ← UInt64.toNat_inj]
  omega

/-- Doubles with a fraction have no digit of value `2 ^ 53` or more. -/
theorem magnitude_lt {b : Binary} (short : b.significand < 2 ^ 53) (fraction : b.numerator % b.denominator ≠ 0) :
    magnitude b < 2 ^ 53 := by
  have small : b.exponent.toNat = 0 := by
    by_contra large
    have whole : (-b.exponent).toNat = 0 := by omega
    rw [Binary.denominator, whole] at fraction
    exact fraction (Nat.mod_one _)
  have numerator : b.numerator = b.significand := by
    rw [Binary.numerator, small]
    exact Nat.mul_one _
  have one_le : (1 : ℚ) ≤ b.denominator := by exact_mod_cast denominator_pos b
  have below : (b.significand : ℚ) < 2 ^ 53 := by exact_mod_cast short
  calc magnitude b
      = b.significand / b.denominator := by rw [magnitude, numerator]
    _ ≤ b.significand := div_le_self (Nat.cast_nonneg _) one_le
    _ < 2 ^ 53 := below

end Reckoner.Proofs.Magnitude
