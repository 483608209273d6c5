import Mathlib
import Reckoner.Number.Binary
import Reckoner.Number.Nearest

/-! The bits of doubles. A double that is a number has the bits it was made from, and to negate it is to turn its
first bit over. Without this bit they count the doubles in their order. -/

namespace Reckoner.Proofs.Bits
open Float.Model.UnpackedFloat
open Float.Model (Format UnpackedFloat)

abbrev Word : Type :=
  BitVec Format.binary64.numBits

def withSign (sign : Sign) (word : Word) : Word :=
  packComponents Format.binary64 sign (unpackExponent word) (unpackMantissa word)

private theorem exponent_field (word : Word) : (unpackExponent word).toNat = word.toNat / 2 ^ 52 % 2 ^ 11 := by
  change (word.toNat >>> 52) % 2 ^ 11 = _
  rw [Nat.shiftRight_eq_div_pow]

private theorem fraction_field (word : Word) : (unpackMantissa word).toNat = word.toNat % 2 ^ 52 := by
  change (word.toNat >>> 0) % 2 ^ 52 = _
  rw [Nat.shiftRight_zero]

private theorem toNat_withSign (sign : Sign) (word : Word) :
    (withSign sign word).toNat = sign.toBitVec.toNat * 2 ^ 63 + word.toNat % 2 ^ 63 := by
  have exponent := exponent_field word
  have fraction := fraction_field word
  rw [withSign, packComponents, BitVec.toNat_append, BitVec.toNat_append]
  rw [← Nat.shiftLeft_add_eq_or_of_lt (unpackMantissa word).isLt,
    ← Nat.shiftLeft_add_eq_or_of_lt (unpackExponent word).isLt, exponent, fraction]
  change (sign.toBitVec.toNat <<< 11 + word.toNat / 2 ^ 52 % 2 ^ 11) <<< 52 + word.toNat % 2 ^ 52 = _
  rw [Nat.shiftLeft_eq, Nat.shiftLeft_eq]
  omega

/-- Bits that stand for no number come behind those of infinity. -/
private theorem valid_withSign (sign : Sign) {word : Word} (bounded : word.toNat ≤ infinityBits) :
    Format.binary64.Valid (withSign sign word) := by
  have limit : infinityBits = 2047 * 2 ^ 52 := rfl
  have exponent := exponent_field word
  have fraction := fraction_field word
  constructor
  rw [withSign, unpackExponent_packComponents, unpackMantissa_packComponents]
  intro full
  rw [full] at exponent
  change 2047 = _ at exponent
  intro notNumber
  refine absurd (BitVec.eq_of_toNat_eq ?_) notNumber
  change (unpackMantissa word).toNat = 0
  omega

private theorem positive_word {word : Word} (bounded : word.toNat ≤ infinityBits) : withSign .positive word = word := by
  have limit : infinityBits = 2047 * 2 ^ 52 := rfl
  apply BitVec.eq_of_toNat_eq
  rw [toNat_withSign]
  change 0 * 2 ^ 63 + _ = _
  omega

private theorem neg_unpack (sign : Sign) (word : Word) :
    (UnpackedFloat.unpack Format.binary64 (withSign sign word)).neg =
      UnpackedFloat.unpack Format.binary64 (withSign (-sign) word) := by
  unfold UnpackedFloat.unpack
  simp only [withSign, unpackSign_packComponents, unpackExponent_packComponents, unpackMantissa_packComponents,
    Sign.ofBitVec_toBitVec]
  split
  · split <;> rfl
  · split
    · split <;> rfl
    · rfl

theorem toNat_ofBits {bits : Nat} (bounded : bits ≤ infinityBits) :
    (Float.ofBits (UInt64.ofNat bits)).toBits.toNat = bits := by
  have limit : infinityBits = 2047 * 2 ^ 52 := rfl
  have word : (UInt64.ofNat bits).toBitVec.toNat = bits := Nat.mod_eq_of_lt (by omega)
  have small : (UInt64.ofNat bits).toBitVec.toNat ≤ infinityBits := le_of_eq_of_le word bounded
  have valid := valid_withSign .positive small
  rw [positive_word small] at valid
  exact (congrArg BitVec.toNat (pack_unpack_of_valid valid)).trans word

theorem toNat_neg_ofBits {bits : Nat} (bounded : bits ≤ infinityBits) :
    (-Float.ofBits (UInt64.ofNat bits)).toBits.toNat = 2 ^ 63 + bits := by
  have limit : infinityBits = 2047 * 2 ^ 52 := rfl
  have word := toNat_ofBits bounded
  have small : (Float.ofBits (UInt64.ofNat bits)).toBits.toBitVec.toNat ≤ infinityBits := le_of_eq_of_le word bounded
  have packed := congrArg BitVec.toNat (pack_unpack_of_valid (valid_withSign (-.positive) small))
  rw [← neg_unpack, positive_word small, toNat_withSign] at packed
  refine packed.trans ?_
  change 1 * 2 ^ 63 + (Float.ofBits (UInt64.ofNat bits)).toBits.toNat % 2 ^ 63 = _
  omega

/-- What a double without sign consists of. -/
inductive Parts (bits : Nat) : UnpackedFloat → Prop
  | zero (none : bits = 0) : Parts bits (.zero .positive)
  | finite (significand : Nat) (exponent : Int) (present : 0 < significand)
      (whole : (bits : Int) = (exponent + 1074) * 2 ^ 52 + significand) (short : significand < 2 ^ 53)
      (least : -1074 ≤ exponent) (normal : exponent = -1074 ∨ 2 ^ 52 ≤ significand) (inside : bits < infinityBits) :
      Parts bits (.finite .positive significand exponent present)
  | infinity (full : bits = infinityBits) : Parts bits (.infinity .positive)

theorem le_iff_compare {a b : Float} : a ≤ b ↔ (a.toModel.unpack.compare b.toModel.unpack).any (·.isLE) = true := by
  change a.le b = true ↔ _
  unfold Float.le
  rw [decide_eq_true_iff]
  rfl

private theorem sign_field {word : Word} (bounded : word.toNat ≤ infinityBits) :
    Sign.ofBitVec (unpackSign word) = .positive := by
  have packed := congrArg (fun word => Sign.ofBitVec (unpackSign word)) (positive_word bounded)
  simpa only [withSign, unpackSign_packComponents, Sign.ofBitVec_toBitVec] using packed.symm

theorem unpack_parts {word : Word} (bounded : word.toNat ≤ infinityBits) :
    Parts word.toNat (UnpackedFloat.unpack Format.binary64 word) := by
  have limit : infinityBits = 2047 * 2 ^ 52 := rfl
  have exponent := exponent_field word
  have fraction := fraction_field word
  unfold UnpackedFloat.unpack
  simp only [sign_field bounded]
  split
  next full =>
    rw [full] at exponent
    change 2047 = _ at exponent
    have none : (unpackMantissa word).toNat = 0 := by omega
    rw [if_pos (BitVec.eq_of_toNat_eq none)]
    exact .infinity (by omega)
  next below =>
    have small : (unpackExponent word).toNat ≠ 2047 := fun full => below (BitVec.eq_of_toNat_eq full)
    split
    next subnormal =>
      rw [subnormal] at exponent
      change 0 = _ at exponent
      split
      next none =>
        rw [none] at fraction
        change 0 = _ at fraction
        exact .zero (by omega)
      next some =>
        have scale : ((unpackExponent word).toNat : Int) - (Format.binary64.exponentBias + 52 : Nat) + 1 = -1074 := by
          rw [subnormal]
          rfl
        refine .finite _ _ _ ?_ ?_ scale.ge (.inl scale) (by omega)
        · change (word.toNat : Int) =
            ((unpackExponent word).toNat - (Format.binary64.exponentBias + 52 : Nat) + 1 + 1074) * _ + _
          rw [scale]
          omega
        · omega
    next normal =>
      have bias : ((Format.binary64.exponentBias + 52 : Nat) : Int) = 1075 := rfl
      have digits : (1#1 ++ unpackMantissa word).toNat = 2 ^ 52 + word.toNat % 2 ^ 52 := by
        rw [BitVec.toNat_append, ← Nat.shiftLeft_add_eq_or_of_lt (unpackMantissa word).isLt, fraction]
        rfl
      have positive : (unpackExponent word).toNat ≠ 0 := fun zero => normal (BitVec.eq_of_toNat_eq zero)
      refine .finite _ _ _ ?_ ?_ ?_ (.inr ?_) (by omega)
      · change (word.toNat : Int) =
          ((unpackExponent word).toNat - (Format.binary64.exponentBias + 52 : Nat) + 1074) * _ + _
        rw [bias, digits]
        omega
      · rw [digits]
        omega
      · change -1074 ≤ ((unpackExponent word).toNat : Int) - (Format.binary64.exponentBias + 52 : Nat)
        omega
      · rw [digits]
        omega

/-- The parts of doubles without sign are in the order of their bits, the exponents first. -/
theorem Parts.le {first second : Nat} {a b : UnpackedFloat} (one : Parts first a) (other : Parts second b)
    (order : first ≤ second) : (a.compare b).any (·.isLE) = true := by
  cases one with
  | zero none => cases other <;> rfl
  | finite significand exponent present whole short least normal inside =>
    cases other with
    | zero none => omega
    | infinity full => rfl
    | finite significand' exponent' present' whole' short' least' normal' inside' =>
      have lexicographic : exponent < exponent' ∨ exponent = exponent' ∧ significand ≤ significand' := by omega
      change ((compare exponent exponent').then (compare significand significand')).isLE = true
      rcases lexicographic with less | ⟨rfl, le⟩
      · rw [compare_lt_iff_lt.mpr less]
        rfl
      · rw [compare_eq_iff_eq.mpr rfl]
        exact Nat.isLE_compare.mpr le
  | infinity full =>
    cases other with
    | zero none =>
      have limit : infinityBits = 2047 * 2 ^ 52 := rfl
      omega
    | finite significand' exponent' present' whole' short' least' normal' inside' => omega
    | infinity full' => rfl

/-- Doubles without sign are in the order of their bits. -/
theorem ofBits_le {first second : Nat} (order : first ≤ second) (bounded : second ≤ infinityBits) :
    Float.ofBits (UInt64.ofNat first) ≤ Float.ofBits (UInt64.ofNat second) := by
  have parts {bits : Nat} (bounded : bits ≤ infinityBits) :
      Parts bits (Float.ofBits (UInt64.ofNat bits)).toModel.unpack := by
    have word := toNat_ofBits bounded
    have small : (Float.ofBits (UInt64.ofNat bits)).toBits.toBitVec.toNat ≤ infinityBits := le_of_eq_of_le word bounded
    exact cast (congrArg (Parts · _) word) (unpack_parts small)
  rw [le_iff_compare]
  exact (parts (order.trans bounded)).le (parts bounded) order

end Reckoner.Proofs.Bits
