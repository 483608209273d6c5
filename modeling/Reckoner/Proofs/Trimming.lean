import Mathlib.Data.List.DropRight
import Reckoner.Proofs.Tiling

/-! Blanks at the ends of a text. A text is its trimmed form with blanks around it, and this is the only way to take
it apart like that. A formula does not see them. -/

namespace Reckoner.Proofs.Trimming
open Text

/-- There is no blank at either end. -/
structure Trimmed (cs : List Char) : Prop where
  first : ¬ cs.head?.any isBlank
  last : ¬ cs.getLast?.any isBlank

theorem trimmed_of_forall {core : List Char} (plain : ∀ c ∈ core, ¬ isBlank c) : Trimmed core := by
  constructor
  · cases first : core.head? with
    | none => simp
    | some c => simpa using plain c (List.mem_of_head? first)
  · cases last : core.getLast? with
    | none => simp
    | some c => simpa using plain c (List.mem_of_getLast? last)

theorem trimLeft_append {before core : List Char} (blank : ∀ c ∈ before, isBlank c) (first : ¬ core.head?.any isBlank) :
    trimLeft (before ++ core) = core := by
  rw [trimLeft, List.dropWhile_append_of_pos blank]
  cases core with
  | nil => rfl
  | cons c rest => exact List.dropWhile_cons_of_neg (by simpa using first)

theorem trim_append {before core after : List Char} (left : ∀ c ∈ before, isBlank c) (right : ∀ c ∈ after, isBlank c)
    (trimmed : Trimmed core) : trim (before ++ core ++ after) = core := by
  rcases eq_or_ne core [] with rfl | present
  · have nothing : trimLeft (before ++ [] ++ after) = [] := by
      apply List.dropWhile_eq_nil_iff.mpr
      intro c member
      rw [List.append_nil] at member
      exact (List.mem_append.mp member).elim (left c) (right c)
    rw [trim, nothing]
    rfl
  · have first : ¬ (core ++ after).head?.any isBlank := by
      rw [List.head?_append_of_ne_nil _ present]
      exact trimmed.first
    have last : ¬ core.reverse.head?.any isBlank := by
      rw [List.head?_reverse]
      exact trimmed.last
    have back : ∀ c ∈ after.reverse, isBlank c := fun c member => right c (List.mem_reverse.mp member)
    rw [trim, List.append_assoc, trimLeft_append left first, List.reverse_append, trimLeft_append back last,
      List.reverse_reverse]

private theorem head_dropWhile (cs : List Char) : ¬ (cs.dropWhile isBlank).head?.any isBlank := by
  have plain := List.head?_dropWhile_not isBlank cs
  cases first : (cs.dropWhile isBlank).head? with
  | none => simp
  | some c => simpa [first] using plain

/-- What is taken off at the ends is blank. -/
theorem exists_trim (cs : List Char) :
    ∃ before after, cs = before ++ trim cs ++ after ∧ (∀ c ∈ before, isBlank c) ∧ (∀ c ∈ after, isBlank c) ∧
      Trimmed (trim cs) := by
  have front : trim cs ++ (trimLeft cs).rtakeWhile isBlank = trimLeft cs := List.rdropWhile_append_rtakeWhile
  refine ⟨cs.takeWhile isBlank, (trimLeft cs).rtakeWhile isBlank, ?_, ?_, ?_, ?_⟩
  · rw [List.append_assoc, front]
    exact List.takeWhile_append_dropWhile.symm
  · exact fun c member => List.mem_takeWhile_imp member
  · exact fun c member => List.mem_rtakeWhile_imp member
  · constructor
    · have first := head_dropWhile cs
      rw [← trimLeft, ← front] at first
      intro blank
      cases core : trim cs with
      | nil => simp [core] at blank
      | cons c rest =>
        rw [core] at first blank
        exact first blank
    · rw [trim, List.getLast?_reverse]
      exact head_dropWhile _

theorem withoutBlanks_trim (cs : List Char) : withoutBlanks (trim cs) = withoutBlanks cs := by
  obtain ⟨before, after, whole, left, right, _⟩ := exists_trim cs
  have none {blanks : List Char} (all : ∀ c ∈ blanks, isBlank c) : withoutBlanks blanks = [] :=
    List.filter_eq_nil_iff.mpr fun c member => by simp [all c member]
  conv_rhs => rw [whole]
  simp only [withoutBlanks, List.filter_append] at none ⊢
  rw [none left, none right, List.nil_append, List.append_nil]

theorem trim_eq_nil_iff {cs : List Char} : trim cs = [] ↔ ∀ c ∈ cs, isBlank c := by
  constructor
  · intro empty
    obtain ⟨before, after, whole, left, right, _⟩ := exists_trim cs
    intro c member
    rw [whole, empty, List.append_nil] at member
    exact (List.mem_append.mp member).elim (left c) (right c)
  · intro blank
    have trimmed : Trimmed [] := ⟨by simp, by simp⟩
    have whole : cs = cs ++ [] ++ [] := by simp
    rw [whole]
    exact trim_append blank nofun trimmed

theorem value_trim (settings : Settings) (source : String) :
    Formula.value settings (some (String.ofList (trim source.toList))) = Formula.value settings (some source) := by
  have same : Formula.compact (String.ofList (trim source.toList)) = Formula.compact source := by
    rw [Formula.compact, String.toList_ofList, withoutBlanks_trim]
    rfl
  rw [Formula.value, Tiling.tokens_congr same]
  rfl

end Reckoner.Proofs.Trimming
