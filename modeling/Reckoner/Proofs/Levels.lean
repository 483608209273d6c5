import Mathlib.Data.List.Forall2
import Reckoner.Log.Level
import Reckoner.Proofs.Trimming

/-! The level that a request stands for, by a table of names. A name is known in any case and with blanks around it,
and a name that is not in the table asks for warnings. -/

namespace Reckoner.Proofs.Levels
open Log Trimming

/-- The names of levels, in capitals. -/
def names : List (String × Int) :=
  [("CRITICAL", 50), ("FATAL", 50), ("ERROR", 40), ("WARNING", 30), ("WARN", 30), ("INFO", 20), ("DEBUG", 10),
    ("NOTSET", 0)]

/-- A character that counts for a capital letter: the letter, its small form, or a character beyond ASCII of which it
is the capital. -/
def Cased (c letter : Char) : Prop :=
  c = letter ∨ c.toNat = letter.toNat + 32 ∨ c = 'ı' ∧ letter = 'I' ∨ c = 'ſ' ∧ letter = 'S'

/-- A text that is a name in some case, with blanks around it. -/
def Spelled (text name : String) : Prop :=
  ∃ before core after, text.toList = before ++ core ++ after ∧ (∀ c ∈ before, Text.isBlank c) ∧
    (∀ c ∈ after, Text.isBlank c) ∧ List.Forall₂ Cased core name.toList

/-- The level that a request stands for, where `standard` is the name that stands for no request. -/
inductive Stands (standard : String) : LevelRequest → Int → Prop
  | numbered (level : Int) : Stands standard (.numbered level) level
  | named {text name : String} {level : Int} (known : (name, level) ∈ names) (spelled : Spelled text name) :
    Stands standard (.named text) level
  | unknown {text : String} (unknown : ∀ entry ∈ names, ¬ Spelled text entry.1) : Stands standard (.named text) 30
  | standard {level : Int} (named : Stands standard (.named standard) level) : Stands standard .standard level

theorem levelOf?_eq_some_iff {name : String} {level : Int} : levelOf? name = some level ↔ (name, level) ∈ names := by
  constructor
  · intro found
    unfold levelOf? at found
    split at found <;> cases found <;> decide
  · have all : ∀ entry ∈ names, levelOf? entry.1 = some entry.2 := by decide
    exact all (name, level)

/-- What the letters of the names have in common. -/
def IsCapital (c : Char) : Prop :=
  65 ≤ c.toNat ∧ c.toNat ≤ 90

theorem names_capital : ∀ entry ∈ names, ∀ c ∈ entry.1.toList, IsCapital c := by
  have all : names.all fun entry => entry.1.toList.all fun c => 65 ≤ c.toNat && c.toNat ≤ 90 := by decide
  intro entry known c member
  simpa [IsCapital] using List.all_eq_true.mp (List.all_eq_true.mp all entry known) c member

private theorem toNat_toUpper (c : Char) :
    c.toUpper.toNat = if 97 ≤ c.toNat ∧ c.toNat ≤ 122 then c.toNat - 32 else c.toNat := by
  have small : 'a'.val ≤ c.val ∧ c.val ≤ 'z'.val ↔ 97 ≤ c.toNat ∧ c.toNat ≤ 122 := by
    simp [UInt32.le_iff_toNat_le]
  unfold Char.toUpper
  split
  next letter =>
    have bounds := small.mp letter
    rw [if_pos bounds]
    -- Going back by 32 is written as adding `2 ^ 32 - 32`.
    change (c.val + 4294967264).toNat = _
    rw [UInt32.toNat_add]
    change (c.toNat + 4294967264) % 4294967296 = _
    omega
  next other => rw [if_neg (small.not.mp other)]

section
variable {c letter : Char} {core : List Char} {text name : String} {level : Int}

theorem capital_eq_iff (capital : IsCapital letter) : Log.capital c = letter ↔ Cased c letter := by
  have codes : 'ı'.toNat = 305 ∧ 'ſ'.toNat = 383 ∧ 'I'.toNat = 73 ∧ 'S'.toNat = 83 := ⟨rfl, rfl, rfl, rfl⟩
  unfold IsCapital at capital
  unfold Log.capital Cased
  simp only [← Char.toNat_inj, codes]
  split
  next dotless => simp only [codes]; omega
  next =>
    split
    next long => simp only [codes]; omega
    next =>
      rw [toNat_toUpper]
      split <;> omega

theorem Cased.not_blank (cased : Cased c letter) (capital : IsCapital letter) : ¬ Text.isBlank c := by
  have codes : 'ı'.toNat = 305 ∧ 'ſ'.toNat = 383 := ⟨rfl, rfl⟩
  unfold IsCapital at capital
  unfold Cased at cased
  simp only [← Char.toNat_inj, codes] at cased
  simp only [Text.isBlank, Text.blanks, Text.CodeSet.contains]
  grind

/-- The letters of a text are those of a name in some case if their capitals are the name. -/
theorem map_capital_iff {letters : List Char} (capitals : ∀ letter ∈ letters, IsCapital letter) :
    core.map Log.capital = letters ↔ List.Forall₂ Cased core letters := by
  induction core generalizing letters with
  | nil => cases letters <;> simp
  | cons c core ih =>
    cases letters with
    | nil => simp
    | cons letter letters =>
      rw [List.forall_mem_cons] at capitals
      rw [List.map_cons, List.cons.injEq, List.forall₂_cons, capital_eq_iff capitals.1, ih capitals.2]

theorem spelled_iff (known : (name, level) ∈ names) :
    Spelled text name ↔ String.ofList ((Text.trim text.toList).map Log.capital) = name := by
  have capitals := names_capital _ known
  rw [← String.toList_inj, String.toList_ofList]
  constructor
  · rintro ⟨before, core, after, whole, left, right, cased⟩
    have same := (map_capital_iff capitals).mpr cased
    have plain (c : Char) (member : c ∈ core) : ¬ Text.isBlank c := by
      have capital : IsCapital (Log.capital c) := capitals _ (same ▸ List.mem_map_of_mem member)
      exact ((capital_eq_iff capital).mp rfl).not_blank capital
    rw [whole, trim_append left right (trimmed_of_forall plain), same]
  · intro same
    obtain ⟨before, after, whole, left, right, -⟩ := exists_trim text.toList
    exact ⟨before, _, after, whole, left, right, (map_capital_iff capitals).mp same⟩

theorem stands_named_iff {standard : String} : Stands standard (.named text) level ↔ namedLevel text = level := by
  obtain ⟨upper, capitals⟩ : ∃ upper, String.ofList ((Text.trim text.toList).map Log.capital) = upper := ⟨_, rfl⟩
  have spells {entry : String × Int} (known : entry ∈ names) : Spelled text entry.1 ↔ upper = entry.1 := by
    rw [spelled_iff known, capitals]
  rw [namedLevel, capitals]
  cases found : levelOf? upper with
  | none =>
    have unknown (entry : String × Int) (known : entry ∈ names) : ¬ Spelled text entry.1 := by
      rw [spells known]
      rintro rfl
      cases found.symm.trans (levelOf?_eq_some_iff.mpr known)
    constructor
    · intro stands
      cases stands with
      | named known spelled => exact absurd spelled (unknown _ known)
      | unknown => rfl
    · rintro rfl
      exact .unknown unknown
  | some other =>
    have known := levelOf?_eq_some_iff.mp found
    constructor
    · intro stands
      cases stands with
      | named known spelled =>
        obtain rfl := (spells known).mp spelled
        exact Option.some.inj (found.symm.trans (levelOf?_eq_some_iff.mpr known))
      | unknown unknown => exact absurd ((spells known).mpr rfl) (unknown _ known)
    · rintro rfl
      exact .named known ((spells known).mpr rfl)

end

/-- The level of a request is the only one that it stands for. -/
theorem stands_iff {standard : String} {request : LevelRequest} {level : Int} :
    Stands standard request level ↔ request.resolve standard = level := by
  cases request with
  | named text => exact stands_named_iff
  | numbered number =>
    constructor
    · rintro ⟨⟩
      rfl
    · rintro rfl
      exact .numbered _
  | standard =>
    rw [LevelRequest.resolve, ← stands_named_iff]
    constructor
    · intro stands
      cases stands with
      | standard named => exact named
    · exact .standard

end Reckoner.Proofs.Levels
