import Reckoner.Proofs.Fewest
import Reckoner.Proofs.JsonOutput
import Reckoner.Proofs.Places

/-! Large numbers are displayed with an exponent and lose nothing. The text is read as the number that it was made from
and as no other one, in as few digits as that takes, and of the decimals with so few digits it is the nearest one. -/

namespace Reckoner.Proofs.Scientific
open JsonGrammar (Whole)
open Fewest JsonOutput Magnitude Places Rounding Shortest

/-- A decimal with an exponent as it is written: a sign or none, a digit, more digits behind a point if there are any,
and the digits of the exponent behind its sign. -/
structure Written where
  negative : Bool
  leading : Char
  fraction : List Char
  exponent : List Char

namespace Written

def chars (written : Written) : List Char :=
  written.leading :: ((if written.fraction.isEmpty then [] else '.' :: written.fraction) ++
    'e' :: '+' :: written.exponent)

def text (written : Written) : String :=
  String.ofList ((if written.negative then ['-'] else []) ++ written.chars)

/-- The number without its sign. -/
def size (written : Written) : ℚ :=
  positional [written.leading] written.fraction * 10 ^ Nat.ofDigitChars 10 written.exponent 0

/-- How many digits stand before the exponent. -/
def digits (written : Written) : ℕ :=
  written.fraction.length + 1

/-- The leading digit is not zero, and neither is the last one of a fraction. -/
structure Normal (written : Written) : Prop where
  leading : written.leading.isDigit
  nonzero : written.leading ≠ '0'
  fraction : ∀ c ∈ written.fraction, c.isDigit
  last : written.fraction.getLast? ≠ some '0'
  exponent : ∀ c ∈ written.exponent, c.isDigit
  wide : 2 ≤ written.exponent.length

end Written

/-- The number of this sign and size is rounded to `v`. -/
def ReadAs (negative : Bool) (size : ℚ) (v : Float) : Prop :=
  negative = decide (2 ^ 63 ≤ v.toBits.toNat) ∧ Rounded (v.toBits.toNat % 2 ^ 63) size

theorem ReadAs.unique {negative : Bool} {size : ℚ} {v w : Float} (first : ReadAs negative size v)
    (second : ReadAs negative size w) : v = w := by
  have low : v.toBits.toNat % 2 ^ 63 = w.toBits.toNat % 2 ^ 63 := first.2.unique second.2
  have high : 2 ^ 63 ≤ v.toBits.toNat ↔ 2 ^ 63 ≤ w.toBits.toNat :=
    decide_eq_decide.mp (first.1.symm.trans second.1)
  have range : v.toBits.toNat < 2 ^ 64 := v.toBits.toNat_lt
  have range' : w.toBits.toNat < 2 ^ 64 := w.toBits.toNat_lt
  rw [← Float.toBits_inj, ← UInt64.toNat_inj]
  omega

private theorem getLast?_toDigits (n : ℕ) : (Nat.toDigits 10 n).getLast? = some (Nat.digitChar (n % 10)) := by
  rw [Nat.toDigits_eq_if (by decide)]
  split
  next small => rw [Nat.mod_eq_of_lt small, List.getLast?_singleton]
  next => rw [List.getLast?_concat]

private theorem digitChar_ne_zero {n : ℕ} (last : n % 10 ≠ 0) : Nat.digitChar (n % 10) ≠ '0' := by
  have all : ∀ d < 10, d ≠ 0 → Nat.digitChar d ≠ '0' := by decide
  exact all _ (Nat.mod_lt _ (by decide)) last

/-- A number of this size has its leading digit left of where numbers are written without an exponent. -/
theorem leading_ge {d : Decimal} (present : d.digits ≠ 0) (large : 10 ^ 16 ≤ size d) :
    16 ≤ d.exponent + length d - 1 := by
  have short := (toDigits_bounds (Nat.pos_of_ne_zero present)).2
  have below : (10 : ℚ) ^ (16 : ℤ) < 10 ^ (length d + d.exponent) := lt_of_le_of_lt large (size_lt_iff.mpr short)
  have order := (zpow_lt_zpow_iff_right₀ (by norm_num)).mp below
  omega

/-- The exponent has at least two digits, with a zero in front of one. -/
private theorem exponent_written (m : ℕ) :
    ∃ es, Decimal.exponentChars m = 'e' :: '+' :: es ∧ (∀ c ∈ es, c.isDigit) ∧ 2 ≤ es.length ∧
      Nat.ofDigitChars 10 es 0 = m := by
  have unsigned : ¬ (m : ℤ) < 0 := by omega
  refine ⟨List.replicate (2 - (Nat.toDigits 10 m).length) '0' ++ Nat.toDigits 10 m, ?_, ?_, ?_, ?_⟩
  · rw [Decimal.exponentChars, if_neg unsigned, Int.natAbs_natCast]
  · intro c member
    rcases List.mem_append.mp member with zero | digit
    · rw [List.eq_of_mem_replicate zero]
      rfl
    · exact (NumberText.toDigits_whole m).all c digit
  · rw [List.length_append, List.length_replicate]
    omega
  · rw [Nat.ofDigitChars_append, Nat.ofDigitChars_replicate_zero, Nat.mul_zero, Nat.ofDigitChars_ten_toDigits]

/-- The digits of a decimal with the point behind the first of them. -/
private theorem size_cut {d : Decimal} {c : Char} {fraction : List Char} {m : ℕ}
    (cut : Nat.toDigits 10 d.digits = c :: fraction) (power : d.exponent = m - (fraction.length : ℕ)) :
    positional [c] fraction * 10 ^ m = Shortest.size d := by
  have nonzero : (10 : ℚ) ^ fraction.length ≠ 0 := by positivity
  have value := Nat.ofDigitChars_ten_toDigits (n := d.digits)
  have whole : d.digits = 10 ^ fraction.length * Nat.ofDigitChars 10 [c] 0 + Nat.ofDigitChars 10 fraction 0 := by
    rw [← value, cut, ← Nat.ofDigitChars_eq_ofDigitChars_zero, ← Nat.ofDigitChars_append, List.singleton_append]
  rw [positional, Shortest.size, power, zpow_sub₀ (by norm_num), zpow_natCast, zpow_natCast, whole]
  push_cast
  field_simp

theorem chars_written {d : Decimal} (last : d.digits % 10 ≠ 0) (large : 10 ^ 16 ≤ size d) (negative : Bool) :
    ∃ written : Written, written.negative = negative ∧ written.chars = d.chars ∧ written.Normal ∧
      written.size = size d ∧ written.digits = length d := by
  have present : d.digits ≠ 0 := by
    intro zero
    rw [zero] at last
    contradiction
  have leading := leading_ge present large
  obtain ⟨m, power⟩ := Int.eq_ofNat_of_zero_le (show 0 ≤ d.exponent + length d - 1 by omega)
  obtain ⟨es, exponent, powers, wide, read⟩ := exponent_written m
  obtain ⟨⟨_, all⟩, first⟩ := NumberText.toDigits_whole d.digits
  have back := getLast?_toDigits d.digits
  have value := Nat.ofDigitChars_ten_toDigits (n := d.digits)
  obtain ⟨c, fraction, cut⟩ := List.exists_cons_of_ne_nil (Nat.toDigits_ne_nil (b := 10) (n := d.digits))
  have count : length d = fraction.length + 1 := by rw [length, cut, List.length_cons]
  rw [cut] at all first back value
  have nonzero : c ≠ '0' := by
    rintro rfl
    rw [first rfl] at value
    exact present value.symm
  refine ⟨⟨negative, c, fraction, es⟩, rfl, ?_, ⟨?_, nonzero, ?_, ?_, powers, wide⟩, ?_, count.symm⟩
  · have shift : d.exponent + ((c :: fraction).length : ℕ) - 1 = m := by rw [List.length_cons, ← count, power]
    have scientific : Decimal.leastScientific ≤ m := power ▸ leading
    simp only [Decimal.chars, cut, shift, scientific, decide_true, Bool.or_true, ↓reduceIte, exponent]
    rfl
  · exact all c List.mem_cons_self
  · exact fun c member => all c (List.mem_cons_of_mem _ member)
  · intro zero
    rw [List.getLast?_cons, zero] at back
    exact digitChar_ne_zero last (Option.some.inj back).symm
  · have places : d.exponent = m - (fraction.length : ℕ) := by omega
    rw [Written.size, read]
    exact size_cut cut places

theorem shortest_readAs {v : Float} {b : Binary} (finite : Double.ofFloat v = .finite b) :
    ReadAs b.negative (size b.shortest) v := by
  obtain ⟨decoded, negative⟩ := decoded_ofBits finite
  exact ⟨negative, (shortest_shortened decoded (finite_inside finite)).rounded⟩

/-- Different doubles are different when they are written in full. -/
theorem eq_of_text {v w : Float} {b b' : Binary} (finite : Double.ofFloat v = .finite b)
    (finite' : Double.ofFloat w = .finite b') (same : b.text = b'.text) : v = w := by
  have document {v : Float} {b : Binary} (finite : Double.ofFloat v = .finite b) :
      JsonGrammar.Document b.text (meaning (.number b)) := by
    obtain ⟨decoded, _⟩ := decoded_ofBits finite
    have none : JsonGrammar.Spaces [] := by simp [JsonGrammar.Spaces]
    have plain : Plain (.number b) := (shortest_shortened decoded (finite_inside finite)).plain
    have reads := render_reads plain (show JsonGrammar.Ends [] by simp [JsonGrammar.Ends])
    rw [List.append_nil] at reads
    exact ⟨[], _, [], none, none, rfl, reads⟩
  obtain ⟨sign, number⟩ := JsonGrammar.Value.number.inj ((document finite).unique (same ▸ document finite'))
  have read := shortest_readAs finite
  rw [sign, number] at read
  exact read.unique (shortest_readAs finite')

theorem display_large (settings : Settings) (decimals : Option Int) {v : Float} {b : Binary}
    (finite : Double.ofFloat v = .finite b) (large : 2 ^ 63 ≤ magnitude b) :
    Display.value settings decimals v = .ok b.text := by
  rw [Display.value, finite]
  exact if_pos (Showing.plain_iff.mpr large)

/-- What a large double is rounded from is not much smaller. -/
private theorem size_large {bits : ℕ} {d : Decimal} (rounded : Rounded bits (size d))
    (large : 2 ^ 63 ≤ Nearest.value bits) : 10 ^ 16 ≤ size d := by
  have zero : Nearest.value 0 = 0 := by simp [Nearest.value, Nearest.units]
  have nonneg : 0 ≤ size d := by
    unfold size
    positivity
  have near := rounded.closest 0 (Nat.zero_le _)
  rw [zero, zero_sub, abs_neg, abs_of_nonneg nonneg] at near
  have half := (abs_le.mp near).2
  linarith

/-- A number of magnitude `2 ^ 63` or more is displayed with an exponent, whatever the places are. The text is read as
this number and no other, no decimal with fewer digits is read as it, and each other one with as few digits that is
read as it is farther from it. So no other such number is displayed like it. -/
theorem value_scientific (settings : Settings) (decimals : Option Int) {v : Float} {b : Binary}
    (finite : Double.ofFloat v = .finite b) (large : 2 ^ 63 ≤ magnitude b) :
    (∃ written : Written, Display.value settings decimals v = .ok written.text ∧ written.Normal ∧
      (∀ w, ReadAs written.negative written.size w ↔ w = v) ∧
      (∀ negative (n : ℕ) (k : ℤ) count, n < 10 ^ count → ReadAs negative (n * 10 ^ k) v → written.digits ≤ count) ∧
      ∀ negative (n : ℕ) (k : ℤ), n < 10 ^ written.digits → ReadAs negative (n * 10 ^ k) v →
        n * 10 ^ k ≠ written.size → |written.size - magnitude b| < |n * 10 ^ k - magnitude b|) ∧
    ∀ settings' decimals' w b', Double.ofFloat w = .finite b' → 2 ^ 63 ≤ magnitude b' →
      Display.value settings' decimals' w = Display.value settings decimals v → w = v := by
  have shown := display_large settings decimals finite large
  obtain ⟨decoded, _⟩ := decoded_ofBits finite
  have exact : (2 : ℚ) ^ 53 ≤ magnitude b := by linarith
  obtain ⟨unbeaten, last⟩ := shortest_unbeaten decoded (finite_inside finite) exact
  have whole : 10 ^ 16 ≤ size b.shortest := size_large unbeaten.rounded (decoded.magnitude ▸ large)
  obtain ⟨written, negative, chars, normal, size, digits⟩ := chars_written last whole b.negative
  have text : written.text = b.text := by
    rw [Written.text, negative, chars]
    rfl
  have read := shortest_readAs finite
  refine ⟨⟨written, ?_, normal, ?_, ?_, ?_⟩, ?_⟩
  · rw [shown, text]
  · intro w
    rw [negative, size]
    constructor
    · exact fun other => other.unique read
    · rintro rfl
      exact read
  · intro sign n k count short other
    rw [digits]
    exact unbeaten.fewest n k count short other.2
  · intro sign n k short other different
    rw [digits] at short
    rw [size] at different ⊢
    exact unbeaten.nearest n k short other.2 different
  · intro settings' decimals' w b' finite' large' same
    rw [shown, display_large settings' decimals' finite' large'] at same
    exact eq_of_text finite' finite (Except.ok.inj same)

/-- The least number that is displayed with an exponent. -/
def leastLarge : Float :=
  Float.ofBits 0x43E0000000000000

theorem value_scientific_least :
    Double.ofFloat leastLarge = .finite ⟨false, 0x10000000000000, 11⟩ ∧
    2 ^ 63 ≤ magnitude ⟨false, 0x10000000000000, 11⟩ ∧
    Display.value {} none leastLarge = .ok "9.223372036854776e+18" ∧
    ∃ written : Written, written.text = "9.223372036854776e+18" ∧ written.Normal ∧
      ∀ w, ReadAs written.negative written.size w ↔ w = leastLarge := by
  have finite : Double.ofFloat leastLarge = .finite ⟨false, 0x10000000000000, 11⟩ := by decide
  have large : 2 ^ 63 ≤ magnitude ⟨false, 0x10000000000000, 11⟩ := by
    norm_num [magnitude_eq]
  have shown : Display.value {} none leastLarge = .ok "9.223372036854776e+18" := by decide +kernel
  obtain ⟨⟨written, text, normal, read, _⟩, _⟩ := value_scientific {} none finite large
  exact ⟨finite, large, shown, written, Except.ok.inj (text.symm.trans shown), normal, read⟩

end Reckoner.Proofs.Scientific
