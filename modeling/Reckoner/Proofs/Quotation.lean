import Mathlib.Algebra.Ring.Nat
import Mathlib.Data.List.Basic
import Reckoner.Text.Quoted

/-! Quoted texts are read back as they were, whatever follows them. The mark that opens a quoted text closes it too, and
inside it stands behind a backslash only. The letter of an escape says how many digits belong to it, so that nothing
needs to stand between two escapes. -/

namespace Reckoner.Proofs.Quotation
open Text

def hexValue (c : Char) : ℕ :=
  if c.isDigit then c.toNat - 48 else c.toNat - 87

def hexNumber (cs : List Char) : ℕ :=
  cs.foldl (fun value c => 16 * value + hexValue c) 0

/-- How many digits follow the letter of an escape that is written as a number. -/
def width? (letter : Char) : Option ℕ :=
  if letter = 'x' then some 2 else if letter = 'u' then some 4 else if letter = 'U' then some 8 else none

/-- What any other character behind a backslash stands for. -/
def plainEscape (c : Char) : Char :=
  if c = 'n' then '\n' else if c = 'r' then '\r' else if c = 't' then '\t' else c

/-- One character of a quoted text, and what follows it. -/
def readUnit (c : Char) (rest : List Char) : Option (Char × List Char) :=
  if c ≠ '\\' then some (c, rest)
  else
    match rest with
    | [] => none
    | letter :: rest =>
      match width? letter with
      | some width => some (.ofNat (hexNumber (rest.take width)), rest.drop width)
      | none => some (plainEscape letter, rest)

theorem readUnit_length {c meant : Char} {rest after : List Char} (found : readUnit c rest = some (meant, after)) :
    after.length < (c :: rest).length := by
  unfold readUnit at found
  split at found
  next =>
    cases found
    exact Nat.lt_succ_self _
  next =>
    cases rest with
    | nil => cases found
    | cons letter rest =>
      dsimp only at found
      split at found
      next width _ =>
        cases found
        have fewer := (List.drop_sublist width rest).length_le
        simp only [List.length_cons]
        omega
      next =>
        cases found
        simp only [List.length_cons]
        omega

/-- The text up to the mark, and what follows that. -/
def readText (mark : Char) : List Char → Option (List Char × List Char)
  | [] => none
  | c :: rest =>
    if c = mark then some ([], rest)
    else
      match _found : readUnit c rest with
      | none => none
      | some (meant, after) => (readText mark after).map fun (cs, last) => (meant :: cs, last)
termination_by cs => cs.length
decreasing_by exact readUnit_length _found

theorem length_numeral (width n : ℕ) : (numeral 16 width n).length = width := by
  induction width generalizing n with
  | zero => rfl
  | succ width ih => rw [numeral, List.length_append, ih, List.length_singleton]

theorem hexNumber_numeral (width n : ℕ) : hexNumber (numeral 16 width n) = n % 16 ^ width := by
  induction width generalizing n with
  | zero => exact (Nat.mod_one n).symm
  | succ width ih =>
    have digit : hexValue (Nat.digitChar (n % 16)) = n % 16 := by
      have all : ∀ d < 16, hexValue (Nat.digitChar d) = d := by decide
      exact all _ (Nat.mod_lt _ (by decide))
    have step : hexNumber (numeral 16 (width + 1) n) =
        16 * hexNumber (numeral 16 width (n / 16)) + hexValue (Nat.digitChar (n % 16)) := by
      simp [numeral, hexNumber]
    rw [step, ih, digit, Nat.pow_succ', Nat.mod_mul, Nat.add_comm]

/-- The two marks that are used. -/
def IsMark (mark : Char) : Prop :=
  mark = '\'' ∨ mark = '"'

theorem isMark_quoteMark (cs : List Char) : IsMark (quoteMark cs) := by
  unfold quoteMark
  split
  · exact .inr rfl
  · exact .inl rfl

theorem readUnit_number {letter c : Char} {width : ℕ} (known : width? letter = some width)
    (small : c.toNat < 16 ^ width) (rest : List Char) :
    readUnit '\\' (letter :: (numeral 16 width c.toNat ++ rest)) = some (c, rest) := by
  have first : (numeral 16 width c.toNat ++ rest).take width = numeral 16 width c.toNat :=
    List.take_left' (length_numeral _ _)
  have last : (numeral 16 width c.toNat ++ rest).drop width = rest := List.drop_left' (length_numeral _ _)
  simp only [readUnit, ne_eq, not_true_eq_false, ↓reduceIte, known, first, last, hexNumber_numeral,
    Nat.mod_eq_of_lt small, Char.ofNat_toNat]

/-- An escaped character does not begin with the mark, and is read back with what follows it left over. -/
theorem escape_read {mark : Char} (isMark : IsMark mark) (c : Char) (rest : List Char) :
    ∃ first others, escape mark c ++ rest = first :: others ∧ first ≠ mark ∧ readUnit first others = some (c, rest) := by
  have back : '\\' ≠ mark := by
    rintro rfl
    rcases isMark with same | same <;> cases same
  unfold escape
  split_ifs with special newline start tab printable byte short
  · -- A mark or a backslash is no letter of an escape.
    have same : c = mark ∨ c = '\\' := by simpa using special
    rcases same with rfl | rfl
    · rcases isMark with rfl | rfl <;> exact ⟨'\\', _, rfl, back, rfl⟩
    · exact ⟨'\\', _, rfl, back, rfl⟩
  · exact ⟨'\\', _, rfl, back, newline ▸ rfl⟩
  · exact ⟨'\\', _, rfl, back, start ▸ rfl⟩
  · exact ⟨'\\', _, rfl, back, tab ▸ rfl⟩
  · simp only [Bool.or_eq_true, decide_eq_true_eq, not_or] at special
    exact ⟨c, rest, rfl, special.1, if_pos special.2⟩
  · exact ⟨'\\', _, rfl, back, readUnit_number rfl byte rest⟩
  · exact ⟨'\\', _, rfl, back, readUnit_number rfl short rest⟩
  · have long : c.toNat < 16 ^ 8 := by
      have valid := c.valid
      simp only [UInt32.isValidChar, Nat.isValidChar] at valid
      simp only [Char.toNat]
      omega
    exact ⟨'\\', _, rfl, back, readUnit_number rfl long rest⟩

theorem readText_escape {mark : Char} (isMark : IsMark mark) (cs rest : List Char) :
    readText mark (cs.flatMap (escape mark) ++ mark :: rest) = some (cs, rest) := by
  induction cs with
  | nil => rw [List.flatMap_nil, List.nil_append, readText, if_pos rfl]
  | cons c cs ih =>
    obtain ⟨first, others, shape, other, read⟩ := escape_read isMark c (cs.flatMap (escape mark) ++ mark :: rest)
    rw [List.flatMap_cons, List.append_assoc, shape, readText, if_neg other]
    split
    next none => cases read.symm.trans none
    next meant after some =>
      cases read.symm.trans some
      rw [ih]
      rfl

end Reckoner.Proofs.Quotation
