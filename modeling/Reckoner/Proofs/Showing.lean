import Reckoner.Outcome
import Reckoner.Proofs.Places

/-! Which values can be shown. The number of places matters only to a number that has some, and then it must not be
negative nor beyond what can be laid out. -/

namespace Reckoner.Proofs.Showing
open Magnitude Places

/-- A number that is shown with places: not whole, and too small for an exponent. -/
def Fractional (v : Float) : Prop :=
  ∃ b, Double.ofFloat v = .finite b ∧ magnitude b < 2 ^ 63 ∧ ¬ ∃ n : ℕ, magnitude b = n

def Fits (places : Int) : Prop :=
  0 ≤ places ∧ places ≤ 2147483647

theorem checkPlaces_ok_iff {places : Int} : (∃ count, Display.checkPlaces places = .ok count) ↔ Fits places := by
  have most : Display.maxPlaces = 2147483647 := rfl
  have readable : Display.maxReadablePlaces = 9223372036854775807 := rfl
  unfold Display.checkPlaces Fits
  split
  next negative => simp only [reduceCtorEq, exists_false, false_iff]; omega
  next =>
    split
    next unreadable => simp only [reduceCtorEq, exists_false, false_iff]; omega
    next =>
      split
      next many => simp only [reduceCtorEq, exists_false, false_iff]; omega
      next => exact iff_of_true ⟨_, rfl⟩ (by omega)

theorem plain_iff {b : Binary} : Display.plainLimit * b.denominator ≤ b.numerator ↔ 2 ^ 63 ≤ magnitude b := by
  have den_pos : (0 : ℚ) < b.denominator := Nat.cast_pos.mpr (denominator_pos b)
  rw [magnitude, le_div_iff₀ den_pos]
  exact_mod_cast Iff.rfl

theorem whole_iff {b : Binary} : b.numerator % b.denominator = 0 ↔ ∃ n : ℕ, magnitude b = n := by
  constructor
  · exact fun whole => ⟨_, magnitude_whole whole⟩
  · rintro ⟨n, whole⟩
    have nonzero : (b.denominator : ℚ) ≠ 0 := Nat.cast_ne_zero.mpr (denominator_pos b).ne'
    rw [magnitude, div_eq_iff nonzero] at whole
    have product : b.numerator = n * b.denominator := by exact_mod_cast whole
    rw [product, Nat.mul_mod_left]

theorem value_ok_iff {settings : Settings} {decimals : Option Int} {v : Float} :
    (∃ text, Display.value settings decimals v = .ok text) ↔
      (Fractional v → Fits (decimals.getD settings.places)) := by
  unfold Display.value Fractional
  cases Double.ofFloat v with
  | nan => simp
  | infinite negative => simp
  | finite b =>
    simp only [Double.finite.injEq, exists_eq_left', ← not_le, ← plain_iff, ← whole_iff, Display.number]
    split
    next large => simp [large]
    next =>
      split
      next whole => simp [whole]
      next fraction =>
        rw [← checkPlaces_ok_iff]
        cases Display.checkPlaces (decimals.getD settings.places) with
        | ok count => simp
        | error error => simp_all

/-- The literal of a value, which is `null` if there is none for a number. -/
def literal (v : Float) : Json :=
  match Double.ofFloat v with
  | .finite number => .number number
  | _ => .null

theorem members_success (settings : Settings) (decimals : Option Int) (v : Float) (error code : Option String) :
    Outcome.members settings decimals ⟨true, some v, error, code⟩ =
      (Display.value settings decimals v).map fun text =>
        ("ok", .bool true) :: ("value", literal v) :: Outcome.textMember "error" error ++
          Outcome.textMember "code" code ++ [("result", .text text)] := by
  have value : Outcome.valueMember ⟨true, some v, error, code⟩ v = .ok (literal v) := by
    unfold Outcome.valueMember literal
    cases Double.ofFloat v <;> rfl
  unfold Outcome.members
  simp only [value]
  cases Display.value settings decimals v <;> rfl

theorem members_failure (settings : Settings) (decimals : Option Int) (error code : Option String) :
    Outcome.members settings decimals ⟨false, none, error, code⟩ =
      .ok (("ok", .bool false) :: Outcome.textMember "error" error ++ Outcome.textMember "code" code) := by
  unfold Outcome.members
  change Except.ok _ = Except.ok _
  simp [Outcome.textMember]

end Reckoner.Proofs.Showing
