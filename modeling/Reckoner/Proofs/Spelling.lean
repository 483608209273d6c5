import Mathlib.Data.Bool.AllAny
import Mathlib.Tactic.MkIffOfInductiveProp
import Reckoner.Formula

/-! Neither blanks nor the case of letters matter. Lower case depends on what stands around a letter, so it is not
enough to look at single letters: what a letter shows to its neighbours is the same in both its cases too. -/

namespace Reckoner.Proofs.Spelling
open Text

/-- The same text but for blanks anywhere and the case of ASCII letters. -/
inductive Respelled : List Char → List Char → Prop
  | nil : Respelled [] []
  | blankLeft (blank : isBlank c) (rest : Respelled source text) : Respelled (c :: source) text
  | blankRight (blank : isBlank c) (rest : Respelled source text) : Respelled source (c :: text)
  | letter {c d : Char} (same : c.toLower = d.toLower) (rest : Respelled source text) :
    Respelled (c :: source) (d :: text)

/-- A view of single characters does not see their case if it does not see it in the capitals. -/
private theorem toLower_invariant (view : Char → α)
    (capitals : ∀ n < 26, view (Char.ofNat (65 + n)).toLower = view (Char.ofNat (65 + n))) (c : Char) :
    view c.toLower = view c := by
  by_cases capital : 65 ≤ c.toNat ∧ c.toNat ≤ 90
  · have shape : c = Char.ofNat (65 + (c.toNat - 65)) := by
      rw [Nat.add_sub_cancel' capital.1, Char.ofNat_toNat]
    rw [shape]
    exact capitals _ (by omega)
  · have kept : c.toLower = c := dif_neg capital
    rw [kept]

@[simp]
theorem isBlank_toLower (c : Char) : isBlank c.toLower = isBlank c :=
  toLower_invariant isBlank (by decide) c

private theorem meetsCased_toLower (cs : List Char) : meetsCased (cs.map Char.toLower) = meetsCased cs := by
  have ignored : (fun c : Char => caseIgnorables.contains c.toLower.toNat) =
      fun c => caseIgnorables.contains c.toNat :=
    funext (toLower_invariant (fun c => caseIgnorables.contains c.toNat) (by decide))
  have cased := toLower_invariant (fun c => casedLetters.contains c.toNat) (by decide)
  simp only [meetsCased, List.dropWhile_map, Function.comp_def, ignored]
  cases cs.dropWhile fun c => caseIgnorables.contains c.toNat with
  | nil => rfl
  | cons c rest => exact cased c

private theorem lowerAt_toLower (before : List Char) (c : Char) (after : List Char) :
    lowerAt (before.map Char.toLower) c.toLower (after.map Char.toLower) = lowerAt before c after := by
  have dotted : (c.toLower = 'İ') = (c = 'İ') := toLower_invariant (· = 'İ') (by decide) c
  have sigma : (c.toLower = 'Σ') = (c = 'Σ') := toLower_invariant (· = 'Σ') (by decide) c
  have small := toLower_invariant (fun c => smallForm c.toNat capitalRuns) (by decide) c
  have final : isFinalSigma (before.map Char.toLower) (after.map Char.toLower) = isFinalSigma before after := by
    simp only [isFinalSigma, meetsCased_toLower]
  exact ite_congr dotted (fun _ => rfl) fun _ =>
    ite_congr sigma (fun _ => by rw [final]) fun _ => by rw [small]

theorem lower_toLower (cs : List Char) : lower (cs.map Char.toLower) = lower cs := by
  have step : ∀ cs before, lowerAfter (before.map Char.toLower) (cs.map Char.toLower) = lowerAfter before cs := by
    intro cs
    induction cs with
    | nil => exact fun _ => rfl
    | cons c rest ih =>
      intro before
      simp only [List.map_cons, lowerAfter, lowerAt_toLower]
      rw [← List.map_cons, ih]
  exact step cs []

theorem Respelled.withoutBlanks {source text : List Char} (respelled : Respelled source text) :
    (Text.withoutBlanks source).map Char.toLower = (Text.withoutBlanks text).map Char.toLower := by
  induction respelled with
  | nil => rfl
  | blankLeft blank _ ih | blankRight blank _ ih => simpa [Text.withoutBlanks, blank] using ih
  | @letter source text c d same _ ih =>
    have blank : isBlank c = isBlank d := by rw [← isBlank_toLower c, same, isBlank_toLower]
    cases seen : isBlank d <;> simpa [Text.withoutBlanks, blank, seen, same] using ih

private theorem Respelled.of_letters : (source text : List Char) →
    (Text.withoutBlanks source).map Char.toLower = (Text.withoutBlanks text).map Char.toLower → Respelled source text
  | [], [], _ => .nil
  | c :: source, text, same => by
    by_cases blank : isBlank c
    · exact .blankLeft blank (of_letters source text (by simpa [Text.withoutBlanks, blank] using same))
    · cases text with
      | nil => simp [Text.withoutBlanks, blank] at same
      | cons d text =>
        by_cases blank' : isBlank d
        · exact .blankRight blank' (of_letters (c :: source) text (by simpa [Text.withoutBlanks, blank'] using same))
        · obtain ⟨letter, rest⟩ : c.toLower = d.toLower ∧ _ := by
            simpa [Text.withoutBlanks, blank, blank'] using same
          exact .letter letter (of_letters source text rest)
  | [], d :: text, same => by
    by_cases blank : isBlank d
    · exact .blankRight blank (of_letters [] text (by simpa [Text.withoutBlanks, blank] using same))
    · simp [Text.withoutBlanks, blank] at same
termination_by source text => source.length + text.length

theorem respelled_iff {source text : List Char} :
    Respelled source text ↔
      (Text.withoutBlanks source).map Char.toLower = (Text.withoutBlanks text).map Char.toLower :=
  ⟨Respelled.withoutBlanks, Respelled.of_letters source text⟩

instance (source text : List Char) : Decidable (Respelled source text) :=
  decidable_of_iff _ respelled_iff.symm

theorem Respelled.compact {source text : List Char} (respelled : Respelled source text) :
    lower (Text.withoutBlanks source) = lower (Text.withoutBlanks text) := by
  rw [← lower_toLower, respelled.withoutBlanks, lower_toLower]

/-- The characters that lexemes are made of. -/
def alphabet : List Char :=
  ['0', '1', '2', '3', '4', '5', '6', '7', '8', '9', '.', '+', '-', '*', '/', '^', '(', ')',
    'a', 'c', 'e', 'g', 'i', 'l', 'n', 'o', 'p', 'q', 'r', 's', 't']

/-- A character that stays as it is, whatever stands around it. -/
@[mk_iff]
structure Settled (c : Char) : Prop where
  solid : isBlank c = false
  undotted : c ≠ 'İ'
  notSigma : c ≠ 'Σ'
  small : smallForm c.toNat capitalRuns = c.toNat

instance (c : Char) : Decidable (Settled c) :=
  decidable_of_iff _ (settled_iff c).symm

theorem compact_settled {cs : List Char} (settled : ∀ c ∈ cs, Settled c) : lower (Text.withoutBlanks cs) = cs := by
  have kept : Text.withoutBlanks cs = cs :=
    List.filter_eq_self.mpr fun c member => by simp [(settled c member).solid]
  have step : ∀ cs before, (∀ c ∈ cs, Settled c) → lowerAfter before cs = cs := by
    intro cs
    induction cs with
    | nil => exact fun _ _ => rfl
    | cons c rest ih =>
      intro before settled
      obtain ⟨_, undotted, notSigma, small⟩ := settled c List.mem_cons_self
      simp only [lowerAfter, lowerAt, undotted, notSigma, small, ↓reduceIte, Char.ofNat_toNat, List.singleton_append]
      rw [ih _ fun d member => settled d (List.mem_cons_of_mem _ member)]
  rw [kept]
  exact step cs [] settled

theorem alphabet_settled : ∀ c ∈ alphabet, Settled c := by
  refine List.all_iff_forall_prop.mp ?_
  decide

theorem compact_alphabet {cs : List Char} (plain : ∀ c ∈ cs, c ∈ alphabet) : lower (Text.withoutBlanks cs) = cs :=
  compact_settled fun c member => alphabet_settled c (plain c member)

end Reckoner.Proofs.Spelling
