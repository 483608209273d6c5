import Mathlib.Data.List.Basic
import Reckoner.Formula

/-! The language of the scan. A compact text has tokens exactly if it can be cut into lexemes without a gap, where
each lexeme is judged by the text on both sides of it alone. The scan knows less, for it never looks back further
than one token, so each cut also has to say what the next lexeme may rely on. -/

namespace Reckoner.Proofs.Tiling
open Scan

/-- The text before a place where a minus is a sign. -/
def Opening (before : List Char) : Prop :=
  before = [] ∨ before.getLast? = some '('

instance (before : List Char) : Decidable (Opening before) :=
  inferInstanceAs (Decidable (_ ∨ _))

/-- A run of digits and points that no neighbour can join. It has at most one point, and that not at its end. -/
structure Numeral (before run after : List Char) : Prop where
  nonempty : run ≠ []
  numeric : ∀ c ∈ run, isNumeral c
  begins : ¬ before.getLast?.any isNumeral
  ends : ¬ after.head?.any isNumeral
  points : run.count point ≤ 1
  closed : run.getLast? ≠ some point

def reading (run : List Char) : Float :=
  (Decimal.ofNumeral run).toFloat

inductive Lexeme (before : List Char) : List Char → Token → List Char → Prop
  | number (numeral : Numeral before run after) : Lexeme before run (.number (reading run)) after
  | signed (opening : Opening before) (numeral : Numeral ['-'] run after) :
      Lexeme before ('-' :: run) (.number (-reading run)) after
  | pi : Lexeme before ['p', 'i'] (.number pi) after
  | euler (alone : ¬ after.head?.any Text.isLetter) : Lexeme before ['e'] (.number euler) after
  | function (f : Func) : Lexeme before f.name.toList (.function f) after
  | operator (op : Operator) (unsigned : op = .sub → ¬ (Opening before ∧ after.head?.any isNumeral)) :
      Lexeme before [op.sign] (.operator op) after
  | leftParen : Lexeme before ['('] .leftParen after
  | rightParen : Lexeme before [')'] .rightParen after

structure Piece where
  text : List Char
  token : Token
  deriving DecidableEq

def texts (pieces : List Piece) : List Char :=
  pieces.flatMap Piece.text

theorem texts_nil : texts [] = [] :=
  rfl

theorem texts_cons (piece : Piece) (pieces : List Piece) : texts (piece :: pieces) = piece.text ++ texts pieces :=
  rfl

/-- Every piece is a lexeme where it stands: after the pieces to its left and before those to its right. -/
def Tiles (before : List Char) : List Piece → List Char → Prop
  | [], _ => True
  | piece :: pieces, after =>
    Lexeme before piece.text piece.token (texts pieces ++ after) ∧ Tiles (before ++ piece.text) pieces after

/-- No run of digits and points reaches over the cut. -/
def Parted (before after : List Char) : Prop :=
  before.getLast?.any isNumeral → ¬ after.head?.any isNumeral

/-- All the digits and points from here on. -/
structure Run (run after : List Char) : Prop where
  nonempty : run ≠ []
  numeric : ∀ c ∈ run, isNumeral c
  ends : ¬ after.head?.any isNumeral

namespace Run
variable {run after : List Char}

theorem takeWhile (isRun : Run run after) : (run ++ after).takeWhile isNumeral = run := by
  rw [List.takeWhile_append_of_pos isRun.numeric]
  have ends := isRun.ends
  cases after with
  | nil => simp
  | cons c rest => rw [List.takeWhile_cons_of_neg (by simpa using ends), List.append_nil]

theorem dropWhile (isRun : Run run after) : (run ++ after).dropWhile isNumeral = after := by
  rw [List.dropWhile_append_of_pos isRun.numeric]
  have ends := isRun.ends
  cases after with
  | nil => rfl
  | cons c rest => exact List.dropWhile_cons_of_neg ends

theorem first (isRun : Run run after) : (run ++ after).head?.any isNumeral := by
  obtain ⟨nonempty, numeric, _⟩ := isRun
  cases run with
  | nil => contradiction
  | cons c run => exact numeric c List.mem_cons_self

theorem unique {other rest : List Char} (first : Run run after) (second : Run other rest)
    (same : run ++ after = other ++ rest) : run = other := by
  rw [← first.takeWhile, same, second.takeWhile]

end Run

private theorem dropWhile_ends (cs : List Char) : ¬ (cs.dropWhile isNumeral).head?.any isNumeral := by
  have stops := List.head?_dropWhile_not isNumeral cs
  cases found : (cs.dropWhile isNumeral).head? with
  | none => simp
  | some c => simpa [found] using stops

/-- A run begins wherever a digit or a point stands. -/
theorem run_takeWhile {cs : List Char} (starts : cs.head?.any isNumeral) :
    Run (cs.takeWhile isNumeral) (cs.dropWhile isNumeral) := by
  refine ⟨?_, fun c => ?_, dropWhile_ends cs⟩
  · cases cs with
    | nil => cases starts
    | cons c rest =>
      rw [List.takeWhile_cons_of_pos (by simpa using starts)]
      exact nofun
  · exact List.all_eq_true.mp List.all_takeWhile c

theorem minus_not_numeral : ¬ isNumeral '-' := by decide

theorem numeral_ok_iff {run : List Char} {value : Float} :
    numeral run = .ok value ↔ run.count point ≤ 1 ∧ run.getLast? ≠ some point ∧ value = reading run := by
  unfold numeral
  split
  next many => simp only [reduceCtorEq, false_iff]; omega
  next few =>
    split
    next trailing => simp [trailing]
    next closed => simp [closed, Nat.le_of_not_lt few, reading, eq_comm]

theorem Numeral.last {before run after : List Char} (numeral : Numeral before run after) :
    ∃ c, run.getLast? = some c ∧ isNumeral c :=
  ⟨_, List.getLast?_eq_some_getLast numeral.nonempty, numeral.numeric _ (List.getLast_mem _)⟩

theorem Numeral.run {before run after : List Char} (numeral : Numeral before run after) : Run run after :=
  ⟨numeral.nonempty, numeral.numeric, numeral.ends⟩

theorem Numeral.read {before run after : List Char} (numeral : Numeral before run after) :
    Scan.numeral run = .ok (reading run) :=
  numeral_ok_iff.mpr ⟨numeral.points, numeral.closed, rfl⟩

namespace Lexeme
variable {before text after : List Char} {token : Token}

theorem nonempty (lexeme : Lexeme before text token after) : text ≠ [] := by
  cases lexeme with
  | number numeral => exact numeral.nonempty
  | function f => cases f <;> decide
  | _ => exact nofun

theorem getLast? (lexeme : Lexeme before text token after) : (before ++ text).getLast? = text.getLast? :=
  List.getLast?_append_of_ne_nil _ lexeme.nonempty

theorem parted (lexeme : Lexeme before text token after) : Parted (before ++ text) after := by
  intro joins
  rw [lexeme.getLast?] at joins
  cases lexeme with
  | number numeral | signed _ numeral => exact numeral.ends
  | pi | euler | leftParen | rightParen => simp [isNumeral, digits, point] at joins
  | function f => cases f <;> simp [Func.name, isNumeral, digits, point] at joins
  | operator op => cases op <;> simp [Operator.sign, isNumeral, digits, point] at joins

/-- The token before a minus tells as much as the character before it. -/
theorem opens (lexeme : Lexeme before text token after) : Scan.opens token = decide (Opening (before ++ text)) := by
  have inside : before ++ text ≠ [] := List.append_ne_nil_of_right_ne_nil _ lexeme.nonempty
  have opening : Opening (before ++ text) ↔ text.getLast? = some '(' := by
    simp only [Opening, inside, lexeme.getLast?, false_or]
  simp only [opening]
  have noParen : ¬ isNumeral '(' := by decide
  cases lexeme with
  | number numeral =>
    obtain ⟨c, last, numeric⟩ := numeral.last
    have other : c ≠ '(' := fun same => noParen (same ▸ numeric)
    simp [Scan.opens, last, other]
  | signed _ numeral =>
    obtain ⟨c, last, numeric⟩ := numeral.last
    have other : c ≠ '(' := fun same => noParen (same ▸ numeric)
    simp [Scan.opens, List.getLast?_cons_of_ne_nil numeral.nonempty, last, other]
  | function f => cases f <;> rfl
  | operator op => cases op <;> rfl
  | _ => rfl

theorem complete {c : Char} {rest : List Char} (lexeme : Lexeme before text token after)
    (whole : c :: rest = text ++ after) :
    Scan.lexeme (decide (Opening before)) c rest = .ok (token, after) := by
  cases lexeme with
  | number numeral =>
    have numeric : isNumeral c := by simpa [← whole] using numeral.run.first
    rw [Scan.lexeme, if_pos numeric, whole, numeral.run.takeWhile, numeral.run.dropWhile, numeral.read]
    rfl
  | @signed run after opening numeral =>
    rw [List.cons_append, List.cons.injEq] at whole
    obtain ⟨rfl, rfl⟩ := whole
    have sign : ('-' = '-' && decide (Opening before) && (run ++ after).head?.any isNumeral) = true := by
      simp only [opening, numeral.run.first, decide_true, Bool.and_self]
    rw [Scan.lexeme, if_neg minus_not_numeral, if_pos sign, numeral.run.takeWhile, numeral.run.dropWhile, numeral.read]
    rfl
  | pi =>
    obtain ⟨rfl, rfl⟩ := List.cons.inj whole
    rfl
  | euler alone =>
    obtain ⟨rfl, rfl⟩ := List.cons.inj whole
    simp [Scan.lexeme, isNumeral, digits, point, word?, alone]
  | function f =>
    cases f <;> obtain ⟨rfl, rfl⟩ := List.cons.inj whole
    all_goals rfl
  | operator op unsigned =>
    obtain ⟨rfl, rfl⟩ := List.cons.inj whole
    cases op with
    | sub =>
      have noSign : ¬ ('-' = '-' && decide (Opening before) && rest.head?.any isNumeral) = true := by
        simpa using unsigned rfl
      exact (if_neg minus_not_numeral).trans ((if_neg noSign).trans rfl)
    | _ => rfl
  | leftParen | rightParen =>
    obtain ⟨rfl, rfl⟩ := List.cons.inj whole
    rfl

theorem unique {other rest : List Char} {token' : Token} (first : Lexeme before text token after)
    (second : Lexeme before other token' rest) (same : text ++ after = other ++ rest) :
    text = other ∧ token = token' ∧ after = rest := by
  obtain ⟨c, tail, rfl⟩ := List.exists_cons_of_ne_nil first.nonempty
  have one := first.complete rfl
  have two := second.complete same
  obtain ⟨rfl, rfl⟩ := Prod.mk.inj (Except.ok.inj (one.symm.trans two))
  exact ⟨List.append_cancel_right same, rfl, rfl⟩

end Lexeme

private theorem word_sound {before cs after : List Char} {token : Token} (found : word? cs = some (token, after)) :
    ∃ text, cs = text ++ after ∧ Lexeme before text token after := by
  unfold word? at found
  split at found
  case h_1 => cases found; exact ⟨_, rfl, .pi⟩
  case h_2 =>
    split at found
    next => cases found
    next alone => cases found; exact ⟨_, rfl, .euler alone⟩
  case h_3 => cases found; exact ⟨_, rfl, .function .sin⟩
  case h_4 => cases found; exact ⟨_, rfl, .function .cos⟩
  case h_5 => cases found; exact ⟨_, rfl, .function .tan⟩
  case h_6 => cases found; exact ⟨_, rfl, .function .sqrt⟩
  case h_7 => cases found; exact ⟨_, rfl, .function .log⟩
  case h_8 => cases found; exact ⟨_, rfl, .function .ln⟩
  case h_9 => cases found

private theorem symbol_sound {before rest : List Char} {c : Char} {token : Token}
    (unsigned : c = '-' → ¬ (Opening before ∧ rest.head?.any isNumeral)) (found : symbol? c = some token) :
    Lexeme before [c] token rest := by
  unfold symbol? at found
  split at found
  all_goals cases found
  · exact .operator .add nofun
  · exact .operator .sub fun _ => unsigned rfl
  · exact .operator .mul nofun
  · exact .operator .div nofun
  · exact .operator .pow nofun
  · exact .leftParen
  · exact .rightParen

private theorem read_sound {before cs after : List Char} {token : Token} {made : Float → Token}
    (begins : ¬ before.getLast?.any isNumeral) (starts : cs.head?.any isNumeral)
    (found : (do
      let value ← numeral (cs.takeWhile isNumeral)
      return (made value, cs.dropWhile isNumeral)) = .ok (token, after)) :
    token = made (reading (cs.takeWhile isNumeral)) ∧ after = cs.dropWhile isNumeral ∧
      Numeral before (cs.takeWhile isNumeral) (cs.dropWhile isNumeral) := by
  cases read : numeral (cs.takeWhile isNumeral) with
  | error failure => simp [read, bind, Except.bind] at found
  | ok value =>
    obtain ⟨points, closed, rfl⟩ := numeral_ok_iff.mp read
    rw [read] at found
    obtain ⟨rfl, rfl⟩ := Prod.mk.inj (Except.ok.inj found)
    have isRun := run_takeWhile starts
    exact ⟨rfl, rfl, isRun.nonempty, isRun.numeric, begins, isRun.ends, points, closed⟩

/-- What the scan finds is a lexeme, provided that no run of digits and points was cut in two to get there. -/
theorem lexeme_sound {before rest after : List Char} {c : Char} {token : Token} (parted : Parted before (c :: rest))
    (found : lexeme (decide (Opening before)) c rest = .ok (token, after)) :
    ∃ text, c :: rest = text ++ after ∧ Lexeme before text token after := by
  unfold lexeme at found
  split at found
  next numeric =>
    have starts : (c :: rest).head?.any isNumeral := numeric
    obtain ⟨rfl, rfl, run⟩ := read_sound (fun joins => parted joins starts) starts found
    exact ⟨_, List.takeWhile_append_dropWhile.symm, .number run⟩
  next noRun =>
    split at found
    next sign =>
      simp only [Bool.and_eq_true, decide_eq_true_eq] at sign
      obtain ⟨⟨rfl, opening⟩, starts⟩ := sign
      have begins : ¬ ['-'].getLast?.any isNumeral := minus_not_numeral
      obtain ⟨rfl, rfl, run⟩ := read_sound begins starts found
      refine ⟨'-' :: rest.takeWhile isNumeral, ?_, .signed opening run⟩
      rw [List.cons_append, List.takeWhile_append_dropWhile]
    next noSign =>
      split at found
      next pair word =>
        cases found
        exact word_sound word
      next =>
        split at found
        next symbol =>
          cases found
          refine ⟨[c], rfl, symbol_sound ?_ symbol⟩
          rintro rfl signed
          exact noSign (by simpa using signed)
        next => cases found

theorem tokens_complete {before : List Char} {pieces : List Piece} (tiles : Tiles before pieces []) :
    tokens (decide (Opening before)) (texts pieces) = .ok (pieces.map Piece.token) := by
  induction pieces generalizing before with
  | nil => exact tokens_nil _
  | cons piece pieces ih =>
    obtain ⟨isLexeme, following⟩ := tiles
    rw [List.append_nil] at isLexeme
    obtain ⟨c, tail, shape⟩ := List.exists_cons_of_ne_nil isLexeme.nonempty
    have whole : texts (piece :: pieces) = c :: (tail ++ texts pieces) := by
      rw [texts, List.flatMap_cons, shape, List.cons_append, ← texts]
    have found : lexeme (decide (Opening before)) c (tail ++ texts pieces) = .ok (piece.token, texts pieces) :=
      isLexeme.complete (by rw [shape]; rfl)
    have rest := ih following
    rw [← isLexeme.opens] at rest
    rw [whole, tokens_cons, found]
    simp only [bind, Except.bind, rest]
    rfl

theorem tokens_sound {before : List Char} {found : List Token} :
    (cs : List Char) → Parted before cs → tokens (decide (Opening before)) cs = .ok found →
      ∃ pieces, texts pieces = cs ∧ Tiles before pieces [] ∧ pieces.map Piece.token = found
  | [], _, scanned => by
    rw [tokens_nil] at scanned
    cases scanned
    exact ⟨[], rfl, trivial, rfl⟩
  | c :: rest, parted, scanned => by
    rw [tokens_cons] at scanned
    cases head : lexeme (decide (Opening before)) c rest with
    | error failure => simp [head, bind, Except.bind] at scanned
    | ok pair =>
      obtain ⟨token, after⟩ := pair
      obtain ⟨text, whole, isLexeme⟩ := lexeme_sound parted head
      simp only [head, isLexeme.opens, bind, Except.bind] at scanned
      cases tail : tokens (decide (Opening (before ++ text))) after with
      | error failure => simp [tail] at scanned
      | ok following =>
        rw [tail] at scanned
        cases scanned
        obtain ⟨pieces, rfl, tiles, rfl⟩ := tokens_sound after isLexeme.parted tail
        refine ⟨⟨text, token⟩ :: pieces, whole.symm, ⟨?_, tiles⟩, rfl⟩
        rwa [List.append_nil]
termination_by cs => cs.length
decreasing_by exact lexeme_length head

theorem tiles_unique {before : List Char} {first second : List Piece} (one : Tiles before first [])
    (two : Tiles before second []) (same : texts first = texts second) : first = second := by
  induction first generalizing before second with
  | nil =>
    cases second with
    | nil => rfl
    | cons piece pieces => exact absurd (List.append_eq_nil_iff.mp same.symm).1 two.1.nonempty
  | cons piece pieces ih =>
    cases second with
    | nil => exact absurd (List.append_eq_nil_iff.mp same).1 one.1.nonempty
    | cons other others =>
      obtain ⟨lexeme, following⟩ := one
      obtain ⟨lexeme', following'⟩ := two
      rw [List.append_nil] at lexeme lexeme'
      obtain ⟨text, token, rest⟩ := lexeme.unique lexeme' same
      obtain ⟨_, _⟩ := piece
      obtain ⟨_, _⟩ := other
      subst text token
      rw [ih following following' rest]

structure Cut (cs : List Char) (pieces : List Piece) : Prop where
  whole : texts pieces = cs
  tiles : Tiles [] pieces []

theorem scan_ok_iff_cut {cs : List Char} {found : List Token} :
    tokens true cs = .ok found ↔ ∃ pieces, Cut cs pieces ∧ pieces.map Piece.token = found := by
  constructor
  · intro scanned
    have parted : Parted [] cs := nofun
    obtain ⟨pieces, whole, tiles, same⟩ := tokens_sound cs parted scanned
    exact ⟨pieces, ⟨whole, tiles⟩, same⟩
  · rintro ⟨pieces, ⟨rfl, tiles⟩, rfl⟩
    exact tokens_complete tiles

private theorem lower_eq_nil_iff {cs : List Char} : Text.lower cs = [] ↔ cs = [] := by
  constructor
  · intro empty
    cases cs with
    | nil => rfl
    | cons c rest =>
      have kept : Text.lowerAt [] c rest ≠ [] := by
        unfold Text.lowerAt
        split
        · exact nofun
        · split <;> exact nofun
      exact absurd (List.append_eq_nil_iff.mp empty).1 kept
  · rintro rfl
    rfl

theorem compact_eq_nil_iff {source : String} : Formula.compact source = [] ↔ Formula.isBlank source = true := by
  rw [Formula.compact, lower_eq_nil_iff]
  simp [Text.withoutBlanks, Formula.isBlank]

theorem compact_ne_nil {source : String} (present : Formula.isBlank source = false) :
    Formula.compact source ≠ [] := by
  intro empty
  rw [compact_eq_nil_iff.mp empty] at present
  cases present

/-- Tokens depend on the compact text alone. -/
theorem tokens_congr {settings : Settings} {first second : String}
    (same : Formula.compact first = Formula.compact second) :
    Formula.tokens settings (some first) = Formula.tokens settings (some second) := by
  have blank : Formula.isBlank first = Formula.isBlank second := by
    rw [Bool.eq_iff_iff, ← compact_eq_nil_iff, ← compact_eq_nil_iff, same]
  rw [Formula.tokens, Formula.tokens, same, blank]

theorem tokens_ok_iff {settings : Settings} {source : String} {found : List Token} :
    Formula.tokens settings (some source) = .ok found ↔
      Formula.isBlank source = false ∧ (Formula.compact source).length ≤ settings.maxLength ∧
      (Formula.compact source).count '(' = (Formula.compact source).count ')' ∧
      tokens true (Formula.compact source) = .ok found := by
  unfold Formula.tokens
  dsimp only
  split
  next blank => simp [blank]
  next present =>
    split
    next long => simp [Int.not_le.mpr long]
    next short =>
      split
      next unequal => simp [unequal]
      next equal => simp [present, Int.not_lt.mp short, not_not.mp equal]

theorem Lexeme.count_parens {before text after : List Char} {token : Token} (lexeme : Lexeme before text token after) :
    text.count '(' = [token].count .leftParen ∧ text.count ')' = [token].count .rightParen := by
  have numeric {run : List Char} (numbers : ∀ c ∈ run, isNumeral c) : '(' ∉ run ∧ ')' ∉ run :=
    ⟨fun member => absurd (numbers _ member) (by decide), fun member => absurd (numbers _ member) (by decide)⟩
  cases lexeme with
  | number numeral =>
    obtain ⟨left, right⟩ := numeric numeral.numeric
    exact ⟨List.count_eq_zero.mpr left, List.count_eq_zero.mpr right⟩
  | @signed run _ _ numeral =>
    obtain ⟨left, right⟩ := numeric numeral.numeric
    have apart : '(' ∉ '-' :: run ∧ ')' ∉ '-' :: run := by simp [left, right]
    exact ⟨List.count_eq_zero.mpr apart.1, List.count_eq_zero.mpr apart.2⟩
  | function f => cases f <;> exact ⟨rfl, rfl⟩
  | operator op => cases op <;> exact ⟨rfl, rfl⟩
  | _ => exact ⟨rfl, rfl⟩

theorem Tiles.count_parens {before after : List Char} {pieces : List Piece} (tiles : Tiles before pieces after) :
    (texts pieces).count '(' = (pieces.map Piece.token).count .leftParen ∧
      (texts pieces).count ')' = (pieces.map Piece.token).count .rightParen := by
  induction pieces generalizing before with
  | nil => exact ⟨rfl, rfl⟩
  | cons piece pieces ih =>
    obtain ⟨left, right⟩ := tiles.1.count_parens
    obtain ⟨left', right'⟩ := ih tiles.2
    rw [texts_cons, List.map_cons, ← List.singleton_append]
    simp only [List.count_append, left, right, left', right', and_self]

/-- A formula with tokens has as many of one parenthesis as of the other among them. -/
theorem tokens_balanced {settings : Settings} {source : Option String} {found : List Token}
    (scanned : Formula.tokens settings source = .ok found) : found.count .leftParen = found.count .rightParen := by
  cases source with
  | none => cases scanned
  | some source =>
    obtain ⟨_, _, equal, cut⟩ := tokens_ok_iff.mp scanned
    obtain ⟨pieces, ⟨whole, tiles⟩, rfl⟩ := scan_ok_iff_cut.mp cut
    rw [← whole, tiles.count_parens.1, tiles.count_parens.2] at equal
    exact equal

/-- A formula has tokens exactly if it is not blank, is not too long, has as many parentheses of one kind as of the
other, and can be cut into lexemes. It can be cut in one way only. -/
theorem tokens_ok_iff_cut (settings : Settings) (source : String) :
    (∀ found, Formula.tokens settings (some source) = .ok found ↔
      Formula.isBlank source = false ∧ (Formula.compact source).length ≤ settings.maxLength ∧
      (Formula.compact source).count '(' = (Formula.compact source).count ')' ∧
      ∃ pieces, pieces ≠ [] ∧ Cut (Formula.compact source) pieces ∧ pieces.map Piece.token = found) ∧
    ∀ first second, Cut (Formula.compact source) first → Cut (Formula.compact source) second → first = second := by
  constructor
  · intro found
    rw [tokens_ok_iff, scan_ok_iff_cut]
    refine and_congr_right fun present => and_congr_right fun _ => and_congr_right fun _ => ?_
    have nonempty : ∀ pieces, Cut (Formula.compact source) pieces → pieces ≠ [] := by
      rintro pieces cut rfl
      exact compact_ne_nil present cut.whole.symm
    constructor
    · rintro ⟨pieces, cut, same⟩
      exact ⟨pieces, nonempty pieces cut, cut, same⟩
    · rintro ⟨pieces, _, cut, same⟩
      exact ⟨pieces, cut, same⟩
  · intro first second one two
    exact tiles_unique one.tiles two.tiles (one.whole.trans two.whole.symm)

end Reckoner.Proofs.Tiling
