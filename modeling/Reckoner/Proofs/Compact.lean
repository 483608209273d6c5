import Reckoner.Outcome
import Reckoner.Proofs.Spelling
import Reckoner.Proofs.Tiling

/-! What becomes of single characters when a text is made compact. Nothing that comes out is blank or has another small
form, so a second time changes nothing. And the characters of lexemes come from ASCII alone, although some letters
beyond it have small forms that are ASCII, or begin with it. -/

namespace Reckoner.Proofs.Compact
open Text Spelling

/-- The run pairs the capital `n` with the small form `m`. -/
structure Pairs (run : CapitalRun) (n m : Nat) : Prop where
  first : run.first ≤ n
  last : n ≤ run.last
  every : (n - run.first) % run.step = 0
  image : m = run.image + (n - run.first)

theorem smallForm_cases (n : Nat) (runs : List CapitalRun) :
    smallForm n runs = n ∨ ∃ run ∈ runs, Pairs run n (smallForm n runs) := by
  induction runs with
  | nil => exact .inl rfl
  | cons run rest ih =>
    rw [smallForm]
    split
    next => exact .inl rfl
    next above =>
      split
      next below =>
        split
        next every => exact .inr ⟨run, List.mem_cons_self, Nat.le_of_not_lt above, below, every, rfl⟩
        next => exact .inl rfl
      next =>
        rcases ih with same | ⟨run, member, pairs⟩
        · exact .inl same
        · exact .inr ⟨run, List.mem_cons_of_mem _ member, pairs⟩

/-- All small forms of the run lie outside the range. -/
def avoids (run : CapitalRun) (first last : Nat) : Bool :=
  (run.image + (run.last - run.first)).blt first || last.blt run.image

/-- All small forms of the one run fall between two capitals of the other. -/
def between (run other : CapitalRun) : Bool :=
  (run.step = 2 || run.first = run.last) && other.step = 2 && (run.image + other.first) % 2 = 1

/-- What no small form may be: a blank, one of the two letters that the table alone does not settle, or a code point that
is no character. -/
def reserved : CodeSet :=
  blanks ++ [(0x130, 0x130), (0x3A3, 0x3A3), (0xD800, 0xDFFF)]

/-- The small forms of the run are plain characters without small forms of their own. Those in the alphabet belong to
the letters of ASCII. -/
@[mk_iff]
structure Final (run : CapitalRun) : Prop where
  bounded : run.image + (run.last - run.first) < 0x110000
  plain : reserved.all fun range => avoids run range.1 range.2
  small : capitalRuns.all fun other => avoids run other.first other.last || between run other
  ascii : run.first = 0x41 ∧ run.last = 0x5A ∧ run.image = 0x61 ∨ alphabet.all fun c => avoids run c.toNat c.toNat

instance (run : CapitalRun) : Decidable (Final run) :=
  decidable_of_iff _ (final_iff run).symm

private theorem capitalRuns_final : ∀ run ∈ capitalRuns, Final run := by
  refine List.all_iff_forall_prop.mp ?_
  decide +kernel

section
variable {run other : CapitalRun} {n m : Nat}

theorem Pairs.outside (pairs : Pairs run n m) {first last : Nat} (avoided : avoids run first last) :
    ¬ (first ≤ m ∧ m ≤ last) := by
  obtain ⟨_, _, _, rfl⟩ := pairs
  simp only [avoids, Bool.or_eq_true, Nat.blt_eq] at avoided
  omega

theorem Pairs.unpaired (pairs : Pairs run n m) (between : between run other) (m' : Nat) : ¬ Pairs other m m' := by
  rintro ⟨above, _, every', _⟩
  obtain ⟨first, last, every, rfl⟩ := pairs
  simp only [Compact.between, Bool.and_eq_true, Bool.or_eq_true, decide_eq_true_eq] at between
  obtain ⟨⟨single, step'⟩, odd⟩ := between
  rw [step'] at every'
  rcases single with step | same
  · rw [step] at every
    omega
  · omega

private theorem exists_range {set : CodeSet} (inside : set.contains n) :
    ∃ range ∈ set, range.1 ≤ n ∧ n ≤ range.2 := by
  induction set with
  | nil => cases inside
  | cons range rest ih =>
    rw [CodeSet.contains] at inside
    split at inside
    next => cases inside
    next above =>
      rcases (Bool.or_eq_true _ _).mp inside with below | later
      · exact ⟨range, List.mem_cons_self, Nat.le_of_not_lt above, of_decide_eq_true below⟩
      · obtain ⟨range, member, bounds⟩ := ih later
        exact ⟨range, List.mem_cons_of_mem _ member, bounds⟩

/-- A small form has no small form of its own. -/
theorem Pairs.fixed (pairs : Pairs run n m) (final : Final run) : smallForm m capitalRuns = m := by
  rcases smallForm_cases m capitalRuns with same | ⟨other, member, again⟩
  · exact same
  · rcases (Bool.or_eq_true _ _).mp (List.all_eq_true.mp final.small other member) with avoided | between
    · exact absurd ⟨again.first, again.last⟩ (pairs.outside avoided)
    · exact absurd again (pairs.unpaired between _)

theorem Pairs.valid (pairs : Pairs run n m) (final : Final run) : (Char.ofNat m).toNat = m := by
  have noSurrogate : ¬ (0xD800 ≤ m ∧ m ≤ 0xDFFF) :=
    pairs.outside (List.all_eq_true.mp final.plain (0xD800, 0xDFFF) (by decide))
  have bounded := final.bounded
  obtain ⟨_, last, _, image⟩ := pairs
  have valid : m.isValidChar := by
    unfold Nat.isValidChar
    omega
  rw [Char.ofNat, dif_pos valid]
  rfl

theorem Pairs.settled (pairs : Pairs run n m) (final : Final run) : Settled (Char.ofNat m) := by
  have valid := pairs.valid final
  have special (code : Nat) (member : (code, code) ∈ reserved) : m ≠ code := by
    rintro rfl
    exact pairs.outside (List.all_eq_true.mp final.plain _ member) ⟨Nat.le_refl _, Nat.le_refl _⟩
  refine ⟨?_, ?_, ?_, ?_⟩
  · apply Bool.eq_false_iff.mpr
    intro blank
    rw [isBlank, valid] at blank
    obtain ⟨range, member, inside⟩ := exists_range blank
    exact pairs.outside (List.all_eq_true.mp final.plain range (List.mem_append_left _ member)) inside
  · intro same
    exact special 0x130 (by decide) (valid.symm.trans (congrArg Char.toNat same))
  · intro same
    exact special 0x3A3 (by decide) (valid.symm.trans (congrArg Char.toNat same))
  · rw [valid]
    exact pairs.fixed final

end

theorem lowerAt_cases {before after : List Char} {c d : Char} (member : d ∈ lowerAt before c after) :
    c = 'İ' ∧ (d = 'i' ∨ d = '\u0307') ∨ c = 'Σ' ∧ (d = 'ς' ∨ d = 'σ') ∨
      c ≠ 'İ' ∧ c ≠ 'Σ' ∧ d = Char.ofNat (smallForm c.toNat capitalRuns) := by
  unfold lowerAt at member
  split at member
  next dotted => simpa [dotted] using member
  next undotted =>
    split at member
    next sigma =>
      refine .inr (.inl ⟨sigma, ?_⟩)
      split at member
      · exact .inl (List.mem_singleton.mp member)
      · exact .inr (List.mem_singleton.mp member)
    next notSigma => exact .inr (.inr ⟨undotted, notSigma, List.mem_singleton.mp member⟩)

theorem lowerAt_settled {before after : List Char} {c d : Char} (solid : isBlank c = false)
    (member : d ∈ lowerAt before c after) : Settled d := by
  rcases lowerAt_cases member with ⟨_, rfl | rfl⟩ | ⟨_, rfl | rfl⟩ | ⟨undotted, notSigma, rfl⟩
  · decide
  · decide
  · decide
  · decide
  · rcases smallForm_cases c.toNat capitalRuns with same | ⟨run, inside, pairs⟩
    · rw [same, Char.ofNat_toNat]
      exact ⟨solid, undotted, notSigma, same⟩
    · exact pairs.settled (capitalRuns_final run inside)

theorem exists_lowerAt {before cs : List Char} {d : Char} (member : d ∈ lowerAfter before cs) :
    ∃ c ∈ cs, ∃ before after, d ∈ lowerAt before c after := by
  induction cs generalizing before with
  | nil => cases member
  | cons c rest ih =>
    rcases List.mem_append.mp member with first | later
    · exact ⟨c, List.mem_cons_self, before, rest, first⟩
    · obtain ⟨c', inside, found⟩ := ih later
      exact ⟨c', List.mem_cons_of_mem _ inside, found⟩

theorem lowerAt_subset {before cs : List Char} {c : Char} (member : c ∈ cs) :
    ∃ before' after, lowerAt before' c after ⊆ lowerAfter before cs := by
  induction cs generalizing before with
  | nil => cases member
  | cons d rest ih =>
    rcases List.mem_cons.mp member with rfl | later
    · exact ⟨before, rest, List.subset_append_left _ _⟩
    · obtain ⟨before', after, inside⟩ := ih later
      exact ⟨before', after, List.Subset.trans inside (List.subset_append_right _ _)⟩

theorem settled_compact (source : String) : ∀ c ∈ Formula.compact source, Settled c := by
  intro d member
  obtain ⟨c, inside, before, after, found⟩ := exists_lowerAt member
  have solid : isBlank c = false := by simpa using (List.mem_filter.mp inside).2
  exact lowerAt_settled solid found

theorem compact_compact (source : String) :
    Formula.compact (String.ofList (Formula.compact source)) = Formula.compact source := by
  rw [Formula.compact, String.toList_ofList]
  exact compact_settled (settled_compact source)

/-- Nothing that is asked about a formula sees blanks or the case of letters. A compact formula is its own compact
form, and is worth as much as the formula it comes from. -/
theorem ofSource_respelled (settings : Settings) :
    (∀ source text : String, Respelled source.toList text.toList →
      Formula.compact text = Formula.compact source ∧
      Outcome.ofSource settings (some text) = Outcome.ofSource settings (some source) ∧
      Formula.objection settings (some text) = Formula.objection settings (some source)) ∧
    ∀ source : String,
      Formula.compact (String.ofList (Formula.compact source)) = Formula.compact source ∧
      Outcome.ofSource settings (some (String.ofList (Formula.compact source))) =
        Outcome.ofSource settings (some source) ∧
      Formula.objection settings (some (String.ofList (Formula.compact source))) =
        Formula.objection settings (some source) := by
  have alike {source text : String} (same : Formula.compact text = Formula.compact source) :
      Outcome.ofSource settings (some text) = Outcome.ofSource settings (some source) ∧
      Formula.objection settings (some text) = Formula.objection settings (some source) := by
    have tokens : Formula.tokens settings (some text) = Formula.tokens settings (some source) :=
      Tiling.tokens_congr same
    simp only [Outcome.ofSource, Formula.value, Formula.objection, tokens, and_self]
  constructor
  · intro source text respelled
    have same : Formula.compact text = Formula.compact source := respelled.compact.symm
    exact ⟨same, alike same⟩
  · intro source
    exact ⟨compact_compact source, alike (compact_compact source)⟩

theorem ofSource_respelled_root :
    Respelled "2 + Sqrt( 16 )".toList "2+s qRT(1\t6)".toList ∧
    Formula.compact "2+s qRT(1\t6)" = Formula.compact "2 + Sqrt( 16 )" ∧
    Outcome.ofSource {} (some "2+s qRT(1\t6)") = Outcome.ofSource {} (some "2 + Sqrt( 16 )") := by
  have respelled : Respelled "2 + Sqrt( 16 )".toList "2+s qRT(1\t6)".toList := by decide +kernel
  obtain ⟨same, outcome, _⟩ := (ofSource_respelled {}).1 _ _ respelled
  exact ⟨respelled, same, outcome⟩

/-- The characters that formulas with tokens are made of, blanks apart. -/
def inventory : List Char :=
  alphabet ++ ['A', 'C', 'E', 'G', 'I', 'L', 'N', 'O', 'P', 'Q', 'R', 'S', 'T']

/-- Among all characters with small forms only those of ASCII have one in the alphabet. -/
theorem mem_inventory {c : Char} (small : Char.ofNat (smallForm c.toNat capitalRuns) ∈ alphabet) : c ∈ inventory := by
  rcases smallForm_cases c.toNat capitalRuns with same | ⟨run, member, pairs⟩
  · rw [same, Char.ofNat_toNat] at small
    exact List.mem_append_left _ small
  · have final := capitalRuns_final run member
    have valid := pairs.valid final
    rcases final.ascii with ⟨first, last, image⟩ | avoided
    · have letters : ∀ k < 26, Char.ofNat (0x61 + k) ∈ alphabet → Char.ofNat (0x41 + k) ∈ inventory := by decide
      obtain ⟨above, below, _, form⟩ := pairs
      rw [first] at above form
      rw [last] at below
      rw [form, image] at small
      have capital := letters (c.toNat - 0x41) (by omega) small
      rwa [Nat.add_sub_cancel' above, Char.ofNat_toNat] at capital
    · have outside := pairs.outside (List.all_eq_true.mp avoided _ small)
      rw [valid] at outside
      exact absurd ⟨Nat.le_refl _, Nat.le_refl _⟩ outside

theorem lowerAt_inventory {before after : List Char} {c : Char} (plain : lowerAt before c after ⊆ alphabet) :
    c ∈ inventory := by
  unfold lowerAt at plain
  split at plain
  next =>
    have mark : '\u0307' ∉ alphabet := by decide
    exact absurd (plain (List.mem_cons_of_mem _ List.mem_cons_self)) mark
  next =>
    split at plain
    next =>
      have sigma : (if isFinalSigma before after then 'ς' else 'σ') ∉ alphabet := by
        split <;> decide
      exact absurd (plain List.mem_cons_self) sigma
    next => exact mem_inventory (plain List.mem_cons_self)

theorem lexeme_alphabet {before text after : List Char} {token : Token}
    (lexeme : Tiling.Lexeme before text token after) : text ⊆ alphabet := by
  have numeric {c : Char} (numeric : Scan.isNumeral c) : c ∈ alphabet := by
    have inside : Scan.digits ++ [Scan.point] ⊆ alphabet := by decide
    exact inside (by simpa [Scan.isNumeral] using numeric)
  cases lexeme with
  | number numeral => exact fun c member => numeric (numeral.numeric c member)
  | signed _ numeral =>
    apply List.cons_subset.mpr
    exact ⟨by decide, fun c member => numeric (numeral.numeric c member)⟩
  | function f => cases f <;> decide
  | operator op => cases op <;> decide
  | _ => decide

theorem texts_alphabet {before after : List Char} {pieces : List Tiling.Piece}
    (tiles : Tiling.Tiles before pieces after) : Tiling.texts pieces ⊆ alphabet := by
  induction pieces generalizing before with
  | nil => exact List.nil_subset _
  | cons piece pieces ih =>
    obtain ⟨isLexeme, following⟩ := tiles
    exact List.append_subset.mpr ⟨lexeme_alphabet isLexeme, ih following⟩

theorem tokens_inventory {settings : Settings} {source : String} {found : List Token}
    (scanned : Formula.tokens settings (some source) = .ok found) :
    ∀ c ∈ source.toList, isBlank c = false → c ∈ inventory := by
  obtain ⟨_, _, _, cut⟩ := Tiling.tokens_ok_iff.mp scanned
  obtain ⟨pieces, ⟨whole, tiles⟩, _⟩ := Tiling.scan_ok_iff_cut.mp cut
  have plain : Formula.compact source ⊆ alphabet := whole ▸ texts_alphabet tiles
  intro c member solid
  have kept : c ∈ withoutBlanks source.toList := List.mem_filter.mpr ⟨member, by simp [solid]⟩
  have shown : ∃ before after, lowerAt before c after ⊆ Formula.compact source := lowerAt_subset kept
  obtain ⟨before, after, inside⟩ := shown
  exact lowerAt_inventory (List.Subset.trans inside plain)

/-- No look-alike goes through: a formula with tokens consists of blanks and of digits, points, signs, parentheses and
those letters of ASCII, in either case, that keywords are made of. With any other character it has no tokens. -/
theorem tokens_ok_inventory (settings : Settings) (source : String) :
    (∀ found, Formula.tokens settings (some source) = .ok found →
      ∀ c ∈ source.toList, isBlank c = false → c ∈ inventory) ∧
    ∀ c ∈ source.toList, isBlank c = false → c ∉ inventory →
      ∃ failure, Formula.tokens settings (some source) = .error failure := by
  constructor
  · intro found scanned
    exact tokens_inventory scanned
  · intro c member solid strange
    cases scanned : Formula.tokens settings (some source) with
    | error failure => exact ⟨failure, rfl⟩
    | ok found => exact absurd (tokens_inventory scanned c member solid) strange

theorem tokens_ok_inventory_dotted :
    Formula.compact "pİ" = ['p', 'i', '\u0307'] ∧
    (∃ failure, Formula.tokens {} (some "pİ") = .error failure) ∧
    (∃ found, Formula.tokens {} (some "p I") = .ok found) ∧
    ∀ c ∈ "p I".toList, isBlank c = false → c ∈ inventory := by
  have scanned : ∃ found, Formula.tokens {} (some "p I") = .ok found := ⟨[.number pi], by decide +kernel⟩
  refine ⟨by decide +kernel, ?_, scanned, ?_⟩
  · exact (tokens_ok_inventory {} "pİ").2 'İ' (by decide) (by decide) (by decide)
  · obtain ⟨found, scanned⟩ := scanned
    exact (tokens_ok_inventory {} "p I").1 found scanned

end Reckoner.Proofs.Compact
