import Reckoner.Proofs.Postfix
import Reckoner.Proofs.Tiling

/-! Why a formula has no tokens. What is checked before the scan is reported first. The scan itself stops at the end of
the longest stretch of lexemes from the left, and what stands there decides the failure. -/

namespace Reckoner.Proofs.Refusal
open Scan Tiling
open Postfix (bind_error)

/-- A number stands here, well-formed or not, maybe with its sign. Its run of digits and points comes last. -/
inductive Literal (before : List Char) : List Char → List Char → Prop
  | plain (isRun : Run run after) : Literal before (run ++ after) run
  | signed (opening : Opening before) (isRun : Run run after) : Literal before ('-' :: (run ++ after)) run

/-- What is reported of a place where no lexeme stands. -/
inductive Stuck (before : List Char) : List Char → Fault → Prop
  | points (literal : Literal before after run) (many : 2 ≤ run.count point) :
      Stuck before after ⟨.lexical, "Invalid number format: multiple decimal points", "INVALID_NUMBER"⟩
  | trailing (literal : Literal before after run) (few : run.count point < 2) :
      Stuck before after ⟨.lexical, "Invalid number format: ends with decimal point", "INVALID_NUMBER"⟩
  | character (strange : ∀ run, ¬ Literal before (c :: rest) run) :
      Stuck before (c :: rest) ⟨.lexical, "Invalid character: " ++ c.toString, "INVALID_CHARACTER"⟩

/-- Lexemes without a gap from the start of the text, up to where `after` begins. -/
structure Reached (cs : List Char) (pieces : List Piece) (after : List Char) : Prop where
  whole : texts pieces ++ after = cs
  tiles : Tiles [] pieces after

structure Farthest (cs : List Char) (pieces : List Piece) (after : List Char) : Prop extends Reached cs pieces after where
  longest : ∀ others rest, Reached cs others rest → (texts others).length ≤ (texts pieces).length

/-- Why a formula has no tokens, in the order in which it is found out. -/
inductive Offence (settings : Settings) (source : String) : Fault → Prop
  | blank (blank : Formula.isBlank source = true) :
      Offence settings source ⟨.empty, "Expression cannot be empty", "EMPTY_EXPRESSION"⟩
  | long (present : Formula.isBlank source = false) (long : settings.maxLength < (Formula.compact source).length) :
      Offence settings source
        ⟨.lexical, "Expression too long (max " ++ toString settings.maxLength ++ " characters)", "TOO_LONG"⟩
  | unequal (present : Formula.isBlank source = false) (short : (Formula.compact source).length ≤ settings.maxLength)
      (unequal : (Formula.compact source).count '(' ≠ (Formula.compact source).count ')') :
      Offence settings source ⟨.lexical, "Mismatched parentheses", "MISMATCHED_PARENTHESES"⟩
  | stuck (present : Formula.isBlank source = false) (short : (Formula.compact source).length ≤ settings.maxLength)
      (equal : (Formula.compact source).count '(' = (Formula.compact source).count ')')
      (gap : ¬ ∃ pieces, Cut (Formula.compact source) pieces) (farthest : Farthest (Formula.compact source) pieces after)
      (stuck : Stuck (texts pieces) after fault) : Offence settings source fault

variable {before after cs : List Char}

theorem literal_plain (starts : cs.head?.any isNumeral) : Literal before cs (cs.takeWhile isNumeral) := by
  have literal : Literal before (cs.takeWhile isNumeral ++ cs.dropWhile isNumeral) (cs.takeWhile isNumeral) :=
    .plain (run_takeWhile starts)
  rwa [List.takeWhile_append_dropWhile] at literal

theorem literal_signed (opening : Opening before) (starts : cs.head?.any isNumeral) :
    Literal before ('-' :: cs) (cs.takeWhile isNumeral) := by
  have literal : Literal before ('-' :: (cs.takeWhile isNumeral ++ cs.dropWhile isNumeral)) (cs.takeWhile isNumeral) :=
    .signed opening (run_takeWhile starts)
  rwa [List.takeWhile_append_dropWhile] at literal

theorem Literal.starts {c : Char} {rest run : List Char} (literal : Literal before (c :: rest) run) :
    isNumeral c ∨ c = '-' ∧ Opening before ∧ rest.head?.any isNumeral := by
  generalize shape : c :: rest = cs at literal
  cases literal with
  | plain isRun =>
    have first := isRun.first
    rw [← shape] at first
    exact .inl first
  | signed opening isRun =>
    obtain ⟨rfl, rfl⟩ := List.cons.inj shape
    exact .inr ⟨rfl, opening, isRun.first⟩

theorem Literal.unique {run other : List Char} (first : Literal before cs run) (second : Literal before cs other) :
    run = other := by
  have sign {run after : List Char} (isRun : Run run after) (rest : List Char) : '-' :: rest ≠ run ++ after := by
    intro same
    have numeric := isRun.first
    rw [← same] at numeric
    exact minus_not_numeral numeric
  cases first with
  | plain isRun =>
    generalize shape : run ++ _ = cs at second
    cases second with
    | plain isRun' => exact isRun.unique isRun' shape
    | signed _ isRun' => exact absurd shape.symm (sign isRun _)
  | signed _ isRun =>
    generalize shape : '-' :: (run ++ _) = cs at second
    cases second with
    | plain isRun' => exact absurd shape (sign isRun' _)
    | signed _ isRun' => exact isRun.unique isRun' (List.cons.inj shape).2

theorem Stuck.unique {fault other : Fault} (first : Stuck before after fault) (second : Stuck before after other) :
    fault = other := by
  cases first with
  | points literal many =>
    cases second with
    | points _ _ => rfl
    | trailing literal' few =>
      rw [literal.unique literal'] at many
      omega
    | character strange => exact absurd literal (strange _)
  | trailing literal few =>
    cases second with
    | points literal' many =>
      rw [literal.unique literal'] at few
      omega
    | trailing _ _ => rfl
    | character strange => exact absurd literal (strange _)
  | character strange =>
    cases second with
    | points literal _ => exact absurd literal (strange _)
    | trailing literal _ => exact absurd literal (strange _)
    | character _ => rfl

theorem numeral_stuck {run : List Char} {failure : Failure} (literal : Literal before after run)
    (failed : numeral run = .error failure) : Stuck before after failure.fault := by
  unfold numeral at failed
  split at failed
  next many =>
    cases failed
    exact .points literal many
  next few =>
    split at failed
    next =>
      cases failed
      exact .trailing literal (Nat.lt_succ_of_le (Nat.le_of_not_lt few))
    next => cases failed

theorem lexeme_stuck {c : Char} {rest : List Char} {failure : Failure}
    (failed : lexeme (decide (Opening before)) c rest = .error failure) : Stuck before (c :: rest) failure.fault := by
  unfold lexeme at failed
  split at failed
  next numeric =>
    rcases bind_error failed with read | ⟨_, _, returned⟩
    · exact numeral_stuck (literal_plain numeric) read
    · cases returned
  next noRun =>
    split at failed
    next sign =>
      simp only [Bool.and_eq_true, decide_eq_true_eq] at sign
      obtain ⟨⟨rfl, opening⟩, starts⟩ := sign
      rcases bind_error failed with read | ⟨_, _, returned⟩
      · exact numeral_stuck (literal_signed opening starts) read
      · cases returned
    next noSign =>
      split at failed
      next => cases failed
      next =>
        split at failed
        next => cases failed
        next =>
          cases failed
          refine .character fun run literal => ?_
          rcases literal.starts with numeric | ⟨rfl, opening, starts⟩
          · exact noRun numeric
          · exact noSign (by simp [opening, starts])

/-- Where the scan fails, it has passed over lexemes only. -/
theorem scan_error {before : List Char} {failure : Failure} :
    (cs : List Char) → Parted before cs → tokens (decide (Opening before)) cs = .error failure →
      ∃ pieces c rest, texts pieces ++ c :: rest = cs ∧ Tiles before pieces (c :: rest) ∧
        lexeme (decide (Opening (before ++ texts pieces))) c rest = .error failure
  | [], _, failed => by
    rw [tokens_nil] at failed
    cases failed
  | c :: rest, parted, failed => by
    rw [tokens_cons] at failed
    rcases bind_error failed with first | ⟨⟨token, after⟩, found, failed⟩
    · refine ⟨[], c, rest, rfl, trivial, ?_⟩
      rwa [texts_nil, List.append_nil]
    · obtain ⟨text, whole, isLexeme⟩ := lexeme_sound parted found
      rcases bind_error failed with later | ⟨_, _, returned⟩
      · rw [isLexeme.opens] at later
        obtain ⟨pieces, d, remaining, rfl, tiles, stops⟩ := scan_error after isLexeme.parted later
        refine ⟨⟨text, token⟩ :: pieces, d, remaining, ?_, ⟨isLexeme, tiles⟩, ?_⟩
        · rw [whole, texts_cons, List.append_assoc]
        · rwa [texts_cons, ← List.append_assoc]
      · cases returned
termination_by cs => cs.length
decreasing_by exact lexeme_length found

/-- There is one way only to go on from lexeme to lexeme, so none gets past a place where no lexeme stands. -/
theorem Tiles.length_le {before after rest : List Char} {pieces others : List Piece} (tiles : Tiles before pieces after)
    (stops : ∀ text token following, Lexeme (before ++ texts pieces) text token following → after ≠ text ++ following)
    (tiles' : Tiles before others rest) (same : texts pieces ++ after = texts others ++ rest) :
    (texts others).length ≤ (texts pieces).length := by
  induction pieces generalizing before others with
  | nil =>
    cases others with
    | nil => exact Nat.le_refl _
    | cons piece others =>
      obtain ⟨isLexeme, _⟩ := tiles'
      rw [texts_nil, List.append_nil] at stops
      rw [texts_cons, List.append_assoc] at same
      exact absurd same (stops _ _ _ isLexeme)
  | cons piece pieces ih =>
    cases others with
    | nil => exact Nat.zero_le _
    | cons other others =>
      obtain ⟨isLexeme, following⟩ := tiles
      obtain ⟨isLexeme', following'⟩ := tiles'
      simp only [texts_cons, List.append_assoc] at same stops
      obtain ⟨text, _, rest⟩ := isLexeme.unique isLexeme' same
      rw [← text] at following'
      have shorter := ih following (by simpa only [List.append_assoc] using stops) following' rest
      rw [texts_cons, texts_cons, List.length_append, List.length_append, text]
      exact Nat.add_le_add_left shorter _

theorem scan_stuck {failure : Failure} (failed : tokens true cs = .error failure) :
    ∃ pieces after, Farthest cs pieces after ∧ Stuck (texts pieces) after failure.fault := by
  have parted : Parted [] cs := nofun
  obtain ⟨pieces, c, rest, whole, tiles, stops⟩ := scan_error cs parted failed
  refine ⟨pieces, c :: rest, ⟨⟨whole, tiles⟩, ?_⟩, lexeme_stuck stops⟩
  intro others remaining reached
  apply Tiles.length_le tiles ?_ reached.tiles (whole.trans reached.whole.symm)
  intro text token following isLexeme same
  rw [isLexeme.complete same] at stops
  cases stops

theorem Farthest.unique {pieces others : List Piece} {rest : List Char} (first : Farthest cs pieces after)
    (second : Farthest cs others rest) : texts pieces = texts others ∧ after = rest := by
  have same : texts pieces ++ after = texts others ++ rest := first.whole.trans second.whole.symm
  have length := Nat.le_antisymm (second.longest _ _ first.toReached) (first.longest _ _ second.toReached)
  exact List.append_inj same length

theorem scan_ok_iff : (∃ found, tokens true cs = .ok found) ↔ ∃ pieces, Cut cs pieces := by
  simp only [scan_ok_iff_cut]
  exact ⟨fun ⟨_, pieces, cut, _⟩ => ⟨pieces, cut⟩, fun ⟨pieces, cut⟩ => ⟨_, pieces, cut, rfl⟩⟩

theorem tokens_eq_scan {settings : Settings} {source : String} (present : Formula.isBlank source = false)
    (short : (Formula.compact source).length ≤ settings.maxLength)
    (equal : (Formula.compact source).count '(' = (Formula.compact source).count ')') :
    Formula.tokens settings (some source) = tokens true (Formula.compact source) := by
  simp [Formula.tokens, present, Int.not_lt.mpr short, equal]

theorem tokens_offence {settings : Settings} {source : String} {failure : Failure}
    (failed : Formula.tokens settings (some source) = .error failure) : Offence settings source failure.fault := by
  by_cases blank : Formula.isBlank source
  · simp only [Formula.tokens, blank, ↓reduceIte] at failed
    cases failed
    exact .blank blank
  have present : Formula.isBlank source = false := Bool.eq_false_iff.mpr blank
  by_cases long : settings.maxLength < (Formula.compact source).length
  · simp only [Formula.tokens, present, long, Bool.false_eq_true, ↓reduceIte] at failed
    cases failed
    exact .long present long
  have short := Int.not_lt.mp long
  by_cases equal : (Formula.compact source).count '(' = (Formula.compact source).count ')'
  · rw [tokens_eq_scan present short equal] at failed
    obtain ⟨pieces, after, farthest, stuck⟩ := scan_stuck failed
    refine .stuck present short equal ?_ farthest stuck
    intro cut
    obtain ⟨found, scanned⟩ := scan_ok_iff.mpr cut
    rw [scanned] at failed
    cases failed
  · simp only [Formula.tokens, present, long, Bool.false_eq_true, ne_eq, equal, not_false_eq_true, ↓reduceIte] at failed
    cases failed
    exact .unequal present short equal

theorem Offence.refused {settings : Settings} {source : String} {fault : Fault}
    (offence : Offence settings source fault) :
    ∃ failure, Formula.tokens settings (some source) = .error failure ∧ failure.fault = fault := by
  cases offence with
  | blank blank =>
    refine ⟨.blank, ?_, rfl⟩
    simp [Formula.tokens, blank]
  | long present long =>
    refine ⟨.tooLong settings.maxLength, ?_, rfl⟩
    simp [Formula.tokens, present, long]
  | unequal present short unequal =>
    refine ⟨.unbalanced, ?_, rfl⟩
    simp [Formula.tokens, present, Int.not_lt.mpr short, unequal]
  | stuck present short equal gap farthest stuck =>
    rw [tokens_eq_scan present short equal]
    cases scanned : tokens true (Formula.compact source) with
    | ok found => exact absurd (scan_ok_iff.mp ⟨found, scanned⟩) gap
    | error failure =>
      -- the scan stops at a farthest place too, and there is only one
      obtain ⟨others, rest, farthest', stuck'⟩ := scan_stuck scanned
      obtain ⟨same, rfl⟩ := farthest.unique farthest'
      rw [← same] at stuck'
      exact ⟨failure, rfl, stuck'.unique stuck⟩

/-- A formula has no tokens for exactly one reason. What is checked first comes first. If the scan fails, it is for what
stands where the longest stretch of lexemes ends, and for nothing before or after. -/
theorem tokens_error_iff (settings : Settings) (source : String) (fault : Fault) :
    (∃ failure, Formula.tokens settings (some source) = .error failure ∧ failure.fault = fault) ↔
      Offence settings source fault := by
  constructor
  · rintro ⟨failure, failed, rfl⟩
    exact tokens_offence failed
  · exact Offence.refused

end Reckoner.Proofs.Refusal
