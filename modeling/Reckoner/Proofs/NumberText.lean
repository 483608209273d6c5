import Reckoner.Proofs.JsonGrammar
import Reckoner.Proofs.Shortest

/-! The text of a number is a number of JSON in each of its layouts, and no layout changes what it stands for. -/

namespace Reckoner.Proofs.NumberText
open JsonGrammar Shortest

theorem toDigits_all (n : ℕ) : ∀ c ∈ Nat.toDigits 10 n, c.isDigit := fun _ member =>
  Nat.isDigit_of_mem_toDigits (by decide) (by decide) member

/-- No number but zero begins with a zero. -/
private theorem toDigits_first {n : ℕ} (zero : (Nat.toDigits 10 n).head? = some '0') : n = 0 := by
  induction n using Nat.strongRecOn with
  | ind n ih =>
    rw [Nat.toDigits_eq_if (by decide)] at zero
    split at zero
    next small =>
      interval_cases n <;> first | rfl | exact absurd zero (by decide)
    next large =>
      rw [List.head?_append_of_ne_nil _ Nat.toDigits_ne_nil] at zero
      have none := ih (n / 10) (by omega) zero
      omega

private theorem toDigits_zero {n : ℕ} (zero : (Nat.toDigits 10 n).head? = some '0') : Nat.toDigits 10 n = ['0'] := by
  rw [toDigits_first zero]
  rfl

theorem toDigits_whole (n : ℕ) : Whole (Nat.toDigits 10 n) :=
  ⟨⟨Nat.toDigits_ne_nil, toDigits_all n⟩, toDigits_zero⟩

/-- A text that is a number without sign, with its parts and its size. -/
def Numeral (cs : List Char) (x : ℚ) : Prop :=
  ∃ w f ds p k, Whole w ∧ Fraction f ds ∧ Power p k ∧ cs = w ++ (f ++ p) ∧ amount w ds k = x

private theorem digits_append {cs ds : List Char} (all : ∀ c ∈ cs, c.isDigit) (digits : Digits ds) :
    Digits (cs ++ ds) :=
  ⟨List.append_ne_nil_of_right_ne_nil _ digits.present, fun _ member =>
    (List.mem_append.mp member).elim (all _) (digits.all _)⟩

private theorem zeros_all (n : ℕ) : ∀ c ∈ List.replicate n '0', c.isDigit := by
  intro c member
  rw [List.eq_of_mem_replicate member]
  rfl

private theorem exponentChars_power (k : ℤ) : Power (Decimal.exponentChars k) k := by
  obtain ⟨zeros, padding⟩ : ∃ zeros, 2 - (Nat.toDigits 10 k.natAbs).length = zeros := ⟨_, rfl⟩
  have digits : Digits (List.replicate zeros '0' ++ Nat.toDigits 10 k.natAbs) :=
    digits_append (zeros_all zeros) ⟨Nat.toDigits_ne_nil, toDigits_all _⟩
  have read : Nat.ofDigitChars 10 (List.replicate zeros '0' ++ Nat.toDigits 10 k.natAbs) 0 = k.natAbs := by
    rw [Nat.ofDigitChars_append, Nat.ofDigitChars_replicate_zero, Nat.mul_zero, Nat.ofDigitChars_ten_toDigits]
  simp only [Decimal.exponentChars, padding]
  split
  next negative =>
    have signed := Signed.minus digits
    rw [read, Int.natCast_natAbs, abs_of_neg negative, neg_neg] at signed
    exact .some (.inl rfl) signed
  next nonneg =>
    have signed := Signed.plus digits
    rw [read, Int.natCast_natAbs, abs_of_nonneg (not_lt.mp nonneg)] at signed
    exact .some (.inl rfl) signed

private theorem whole_take {ds : List Char} (digits : Digits ds) (n : ℕ) (first : ds.head? = some '0' → n = 0) :
    Whole (ds.take (n + 1)) := by
  obtain ⟨c, tail, rfl⟩ := List.exists_cons_of_ne_nil digits.present
  refine ⟨⟨by simp, fun c member => digits.all c (List.mem_of_mem_take member)⟩, fun zero => ?_⟩
  obtain rfl : c = '0' := by simpa using zero
  rw [first rfl]
  rfl

/-- Digits on both sides of a point. -/
private theorem pointed_numeral {w ds : List Char} {n : ℕ} {e : ℤ} (whole : Whole w) (digits : Digits ds)
    (read : Nat.ofDigitChars 10 (w ++ ds) 0 = n) (places : -(ds.length : ℤ) = e) :
    Numeral (w ++ '.' :: ds) (size ⟨n, e⟩) := by
  refine ⟨w, '.' :: ds, ds, [], 0, whole, .some digits, .none, by rw [List.append_nil], ?_⟩
  rw [amount, read, zero_sub, places, size]

/-- One digit, the others behind a point if there are any, and a power of ten. -/
private theorem scientific_numeral {ds : List Char} (digits : Digits ds) (k : ℤ) :
    Numeral (ds.take 1 ++ (if (ds.drop 1).isEmpty then [] else '.' :: ds.drop 1) ++ Decimal.exponentChars k)
      (size ⟨Nat.ofDigitChars 10 ds 0, k - (ds.length - 1 : ℕ)⟩) := by
  rw [List.append_assoc]
  refine ⟨_, _, ds.drop 1, _, k, whole_take digits 0 fun _ => rfl, ?_, exponentChars_power k, rfl, ?_⟩
  · split
    next none =>
      rw [List.isEmpty_iff.mp none]
      exact .none
    next some =>
      exact .some ⟨fun none => some (List.isEmpty_iff.mpr none), fun c member =>
        digits.all c (List.mem_of_mem_drop member)⟩
  · rw [amount, zero_add, List.take_append_drop, List.length_drop, size]

theorem chars_numeral {d : Decimal} (plain : d.digits = 0 → d.exponent = 0) : Numeral d.chars (size d) := by
  obtain ⟨digits, exponent⟩ := d
  obtain ⟨ds, written⟩ : ∃ ds, Nat.toDigits 10 digits = ds := ⟨_, rfl⟩
  have run : Digits ds := written ▸ ⟨Nat.toDigits_ne_nil, toDigits_all _⟩
  have ds_pos : 0 < ds.length := List.length_pos_iff.mpr run.present
  have read : Nat.ofDigitChars 10 ds 0 = digits := written ▸ Nat.ofDigitChars_ten_toDigits
  have zero (first : ds.head? = some '0') : ds = ['0'] ∧ exponent = 0 :=
    ⟨written ▸ toDigits_zero (written ▸ first), plain (toDigits_first (written ▸ first))⟩
  simp only [Decimal.chars, written]
  split
  next scientific =>
    have numeral := scientific_numeral run (exponent + ds.length - 1)
    have places : exponent + ds.length - 1 - (ds.length - 1 : ℕ) = exponent := by omega
    rwa [read, places] at numeral
  next =>
    split
    next large =>
      obtain ⟨e, rfl⟩ := Int.eq_ofNat_of_zero_le large
      have same : size ⟨digits * 10 ^ (e + 1), -1⟩ = size ⟨digits, e⟩ := by
        rw [size, size, zpow_neg_one, zpow_natCast, Nat.cast_mul, Nat.cast_pow, pow_succ]
        push_cast
        ring
      rw [Int.toNat_natCast, ← same]
      refine pointed_numeral ⟨⟨?_, ?_⟩, fun first => ?_⟩ ⟨by simp, by simp⟩ ?_ rfl
      · exact List.append_ne_nil_of_left_ne_nil run.present _
      · exact fun c member => (List.mem_append.mp member).elim (run.all c) (zeros_all e c)
      · rw [List.head?_append_of_ne_nil _ run.present] at first
        obtain ⟨rfl, none⟩ := zero first
        obtain rfl : e = 0 := by omega
        rfl
      · rw [List.append_assoc, ← List.replicate_succ', Nat.ofDigitChars_append, Nat.ofDigitChars_replicate_zero, read,
          mul_comm]
    next small =>
      split
      next inside =>
        obtain ⟨m, leading⟩ := Int.eq_ofNat_of_zero_le inside
        rw [leading, Int.toNat_natCast]
        have cut : (ds.drop (m + 1)).length = ds.length - (m + 1) := List.length_drop
        refine pointed_numeral (whole_take run m fun first => ?_) ⟨?_, ?_⟩ ?_ ?_
        · have := zero first
          omega
        · exact List.length_pos_iff.mp (by omega)
        · exact fun c member => run.all c (List.mem_of_mem_drop member)
        · rw [List.take_append_drop, read]
        · omega
      next below =>
        obtain ⟨z, zeros⟩ : ∃ z, (-(exponent + ds.length - 1) - 1).toNat = z := ⟨_, rfl⟩
        rw [zeros]
        refine pointed_numeral (w := ['0']) ⟨⟨by simp, by simp⟩, fun _ => rfl⟩ (digits_append (zeros_all z) run) ?_ ?_
        · rw [List.singleton_append, ← List.cons_append, ← List.replicate_succ, Nat.ofDigitChars_append,
            Nat.ofDigitChars_replicate_zero, mul_zero, read]
        · rw [List.length_append, List.length_replicate]
          omega

/-- The characters of numbers, whatever their layout. -/
def numeric : List Char :=
  ['0', '1', '2', '3', '4', '5', '6', '7', '8', '9', '.', 'e', '+', '-']

theorem isDigit_numeric {c : Char} (digit : c.isDigit) : c ∈ numeric := by
  have all : ∀ n < 58, 48 ≤ n → Char.ofNat n ∈ numeric := by decide
  have bounds : 48 ≤ c.toNat ∧ c.toNat ≤ 57 := Char.isDigit_iff_toNat.mp digit
  rw [← Char.ofNat_toNat c]
  exact all _ (Nat.lt_succ_of_le bounds.2) bounds.1

theorem toDigits_numeric (n : ℕ) : Nat.toDigits 10 n ⊆ numeric :=
  fun c member => isDigit_numeric (toDigits_all n c member)

private theorem zeros_numeric (n : ℕ) : List.replicate n '0' ⊆ numeric := by
  intro c member
  rw [List.eq_of_mem_replicate member]
  decide

private theorem exponentChars_numeric (k : ℤ) : Decimal.exponentChars k ⊆ numeric := by
  have sign : (if k < 0 then '-' else '+') ∈ numeric := by
    split <;> decide
  exact List.cons_subset.mpr ⟨by decide, List.cons_subset.mpr ⟨sign,
    List.append_subset.mpr ⟨zeros_numeric _, toDigits_numeric _⟩⟩⟩

theorem chars_numeric (d : Decimal) : d.chars ⊆ numeric := by
  have digits := toDigits_numeric d.digits
  have fewer (n : ℕ) : (Nat.toDigits 10 d.digits).take n ⊆ numeric := List.Subset.trans (List.take_subset _ _) digits
  have others (n : ℕ) : (Nat.toDigits 10 d.digits).drop n ⊆ numeric := List.Subset.trans (List.drop_subset _ _) digits
  have point : '.' ∈ numeric := by decide
  have zero : '0' ∈ numeric := by decide
  unfold Decimal.chars
  dsimp only
  split_ifs <;>
    simp only [List.append_subset, List.cons_subset, List.nil_subset, digits, fewer, others, point, zero, zeros_numeric,
      exponentChars_numeric, and_self]

theorem text_numeric (b : Binary) : b.text.toList ⊆ numeric := by
  rw [Binary.text, String.toList_ofList, List.append_subset]
  refine ⟨?_, chars_numeric _⟩
  split <;> decide

theorem int_numeric (n : ℤ) : (toString n).toList ⊆ numeric := by
  rw [Int.toString_eq_repr, Int.repr_eq_if, Nat.repr_eq_ofList_toDigits, Nat.repr_eq_ofList_toDigits]
  split
  · simpa using toDigits_numeric _
  · rw [String.toList_append, String.toList_ofList, String.toList_ofList, List.append_subset]
    exact ⟨by decide, toDigits_numeric _⟩

end Reckoner.Proofs.NumberText
