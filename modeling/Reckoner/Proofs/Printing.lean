import Reckoner.Outcome
import Reckoner.Proofs.Expression
import Reckoner.Proofs.Spelling

/-! Written expressions are read back. The lexemes that an expression is written with tile its text, provided that
signs stand only where the scan takes them for signs, and so every spelling of the text is evaluated to the value of
the expression. -/

namespace Reckoner.Proofs.Printing
open Tiling Expression Spelling
open Scan (isNumeral)

private theorem digit_facts (d : Fin 10) : isNumeral (digit d) ∧ digit d ≠ Scan.point ∧ digit d ∈ alphabet ∧
    digit d ≠ '(' ∧ digit d ≠ ')' := by
  revert d
  decide

private theorem mem_chars {literal : Literal} {c : Char} (member : c ∈ literal.chars) :
    c = Scan.point ∨ ∃ d, c = digit d := by
  unfold Literal.chars at member
  split at member
  · obtain ⟨d, _, rfl⟩ := List.mem_map.mp (by simpa using member)
    exact .inr ⟨d, rfl⟩
  · rcases List.mem_append.mp member with member | member
    · obtain ⟨d, _, rfl⟩ := List.mem_map.mp member
      exact .inr ⟨d, rfl⟩
    · rcases List.mem_cons.mp member with rfl | member
      · exact .inl rfl
      · obtain ⟨d, _, rfl⟩ := List.mem_map.mp member
        exact .inr ⟨d, rfl⟩

private theorem digits_no_point (ds : List (Fin 10)) : (ds.map digit).count Scan.point = 0 := by
  apply List.count_eq_zero.mpr
  intro member
  obtain ⟨d, _, same⟩ := List.mem_map.mp member
  exact (digit_facts d).2.1 same

private theorem digits_last {ds : List (Fin 10)} (present : ds ≠ []) :
    (ds.map digit).getLast? = some (digit (ds.getLast present)) := by
  rw [List.getLast?_map, List.getLast?_eq_some_getLast present]
  rfl

private theorem literal_last (literal : Literal) : ∃ d, literal.chars.getLast? = some (digit d) := by
  unfold Literal.chars
  split
  next whole =>
    have present : literal.whole ≠ [] := literal.inhabited.resolve_right (absurd whole)
    exact ⟨_, by rw [List.append_nil, digits_last present]⟩
  next fraction =>
    exact ⟨_, by rw [List.getLast?_append_cons, List.getLast?_cons_of_ne_nil (by simpa using fraction),
      digits_last fraction]⟩

theorem numeral_literal (literal : Literal) {before after : List Char} (begins : ¬ before.getLast?.any isNumeral)
    (ends : ¬ after.head?.any isNumeral) : Numeral before literal.chars after := by
  obtain ⟨d, last⟩ := literal_last literal
  refine ⟨?_, ?_, begins, ends, ?_, ?_⟩
  · rintro empty
    simp [empty] at last
  · intro c member
    rcases mem_chars member with rfl | ⟨d, rfl⟩
    · decide
    · exact (digit_facts d).1
  · unfold Literal.chars
    split
    · simp [digits_no_point]
    · simp [digits_no_point, List.count_append]
  · rw [last]
    exact fun same => (digit_facts d).2.1 (Option.some.inj same)

theorem texts_append (first second : List Piece) : texts (first ++ second) = texts first ++ texts second :=
  List.flatMap_append

theorem tiles_append {before after : List Char} {first second : List Piece} :
    Tiles before (first ++ second) after ↔
      Tiles before first (texts second ++ after) ∧ Tiles (before ++ texts first) second after := by
  induction first generalizing before with
  | nil => simp [Tiles, texts]
  | cons piece pieces ih =>
    simp only [List.cons_append, Tiles, ih, texts_append, and_assoc, List.append_assoc]
    simp [texts]

/-- Signs stand only where the text or a group opens. Whether the expression itself stands in such a place is given
by `opening`. -/
def signsOpen (opening : Bool) : Expr → Bool
  | .negative _ => opening
  | .number _ | .pi | .euler => true
  | .group body => signsOpen true body
  | .call _ argument => signsOpen true argument
  | .binary op left right =>
    signsOpen (opening || left.rank < op.rank) left && signsOpen (right.rank < op.rank + 1) right

/-- The neighbours of an expression are no part of a number or word in it. -/
structure Between (before after : List Char) : Prop where
  begins : ¬ before.getLast?.any isNumeral
  ends : ¬ after.head?.any isNumeral
  alone : ¬ after.head?.any Text.isLetter

private theorem sign_facts (op : Operator) : ¬ isNumeral op.sign ∧ ¬ Text.isLetter op.sign ∧
    op.sign ∈ alphabet ∧ op.sign ≠ '(' ∧ op.sign ≠ ')' := by
  cases op <;> decide

private theorem ends_with (before : List Char) {c : Char} (other : ¬ isNumeral c) :
    ¬ (before ++ [c]).getLast?.any isNumeral := by
  simpa using other

private theorem tiles_parenthesized {pieces : List Piece}
    (tiles : ∀ {before after}, Opening before → Between before after → Tiles before pieces after)
    (before after : List Char) : Tiles before (Expr.parenthesized pieces) after := by
  have opening : Opening (before ++ ['(']) := .inr (by simp)
  have numeral : ¬ isNumeral ')' := by decide
  have letter : ¬ Text.isLetter ')' := by decide
  have inside : Between (before ++ ['(']) (')' :: after) := ⟨ends_with before (by decide), numeral, letter⟩
  have body : Tiles (before ++ ['(']) pieces (texts [⟨[')'], .rightParen⟩] ++ after) := tiles opening inside
  exact ⟨.leftParen, tiles_append.mpr ⟨body, .rightParen, trivial⟩⟩

private theorem tiles_operand {expr : Expr} {before after : List Char} {least : Nat}
    (tiles : ∀ {before after}, signsOpen (decide (Opening before)) expr → Between before after →
      Tiles before expr.pieces after)
    (signs : signsOpen (decide (Opening before) || decide (expr.rank < least)) expr) (between : Between before after) :
    Tiles before (Expr.operand least expr.rank expr.pieces) after := by
  unfold Expr.operand
  split
  next loose =>
    apply tiles_parenthesized
    intro before after opening between
    exact tiles (by simpa [loose, opening] using signs) between
  next tight => exact tiles (by simpa [tight] using signs) between

/-- A minus behind such a text is no sign. -/
def Closing (cs : List Char) : Prop :=
  ∃ first c, cs = first ++ [c] ∧ c ≠ '('

private theorem Closing.append {cs : List Char} (closing : Closing cs) (before : List Char) :
    Closing (before ++ cs) := by
  obtain ⟨first, c, rfl, other⟩ := closing
  exact ⟨before ++ first, c, by rw [List.append_assoc], other⟩

private theorem Closing.not_opening {cs : List Char} (closing : Closing cs) : ¬ Opening cs := by
  obtain ⟨first, c, rfl, other⟩ := closing
  simpa [Opening] using other

private theorem closing_parenthesized (pieces : List Piece) : Closing (texts (Expr.parenthesized pieces)) :=
  ⟨'(' :: texts pieces, ')', by simp [Expr.parenthesized, texts], by decide⟩

private theorem closing_operand {expr : Expr} (closing : Closing expr.text) (least : Nat) :
    Closing (texts (Expr.operand least expr.rank expr.pieces)) := by
  unfold Expr.operand
  split
  · exact closing_parenthesized _
  · exact closing

private theorem closing_literal (literal : Literal) : Closing literal.chars := by
  obtain ⟨d, last⟩ := literal_last literal
  obtain ⟨first, whole⟩ := List.getLast?_eq_some_iff.mp last
  exact ⟨first, digit d, whole, (digit_facts d).2.2.2.1⟩

private theorem closing_text (expr : Expr) : Closing expr.text := by
  induction expr with
  | number literal => simpa [Expr.text, Expr.pieces, texts] using closing_literal literal
  | negative literal => simpa [Expr.text, Expr.pieces, texts] using (closing_literal literal).append ['-']
  | pi => exact ⟨['p'], 'i', rfl, by decide⟩
  | euler => exact ⟨[], 'e', rfl, by decide⟩
  | group body => exact closing_parenthesized _
  | call f argument => exact (closing_parenthesized _).append f.name.toList
  | binary op left right _ ihRight =>
    rw [Expr.text, Expr.pieces, texts_append]
    exact ((closing_operand ihRight _).append [op.sign]).append _

theorem tiles_pieces (expr : Expr) {before after : List Char} (signs : signsOpen (decide (Opening before)) expr)
    (between : Between before after) : Tiles before expr.pieces after := by
  induction expr generalizing before after with
  | number literal => exact ⟨.number (numeral_literal literal between.begins between.ends), trivial⟩
  | negative literal =>
    have opening : Opening before := of_decide_eq_true signs
    exact ⟨.signed opening (numeral_literal literal (by decide) between.ends), trivial⟩
  | pi => exact ⟨.pi, trivial⟩
  | euler => exact ⟨.euler between.alone, trivial⟩
  | group body ih =>
    apply tiles_parenthesized
    intro before after opening between
    exact ih (by rwa [decide_eq_true opening]) between
  | call f argument ih =>
    refine ⟨.function f, ?_⟩
    apply tiles_parenthesized
    intro before after opening between
    exact ih (by rwa [decide_eq_true opening]) between
  | binary op left right ihLeft ihRight =>
    obtain ⟨signsLeft, signsRight⟩ := Bool.and_eq_true_iff.mp signs
    obtain ⟨numeral, letter, _⟩ := sign_facts op
    have binary := ((closing_operand (closing_text left) op.rank).append before).not_opening
    have behind : ¬ Opening (before ++ texts (Expr.operand op.rank left.rank left.pieces) ++ [op.sign]) := by
      simpa [Opening] using (sign_facts op).2.2.2.1
    apply tiles_append.mpr
    refine ⟨?_, .operator op fun _ sign => binary sign.1, ?_⟩
    · exact tiles_operand ihLeft signsLeft ⟨between.begins, numeral, letter⟩
    · refine tiles_operand ihRight ?_ ⟨ends_with _ numeral, between.ends, between.alone⟩
      rwa [decide_eq_false behind, Bool.false_or]

private theorem text_induction (P : List Char → Prop) (expr : Expr)
    (lexeme : ∀ cs, (∀ c ∈ cs, c ∈ alphabet ∧ c ≠ '(' ∧ c ≠ ')') → P cs)
    (append : ∀ first second, P first → P second → P (first ++ second))
    (enclosed : ∀ cs, P cs → P ('(' :: cs ++ [')'])) : P expr.text := by
  have parenthesized : ∀ pieces, P (texts pieces) → P (texts (Expr.parenthesized pieces)) := by
    intro pieces holds
    have shape : texts (Expr.parenthesized pieces) = '(' :: texts pieces ++ [')'] := by
      simp [texts, Expr.parenthesized]
    rw [shape]
    exact enclosed _ holds
  have operand : ∀ expr : Expr, ∀ least, P expr.text → P (texts (Expr.operand least expr.rank expr.pieces)) := by
    intro expr least holds
    unfold Expr.operand
    split
    · exact parenthesized _ holds
    · exact holds
  have literal : ∀ literal : Literal, P literal.chars := by
    intro literal
    apply lexeme
    intro c member
    rcases mem_chars member with rfl | ⟨d, rfl⟩
    · decide
    · exact (digit_facts d).2.2
  have word : ∀ cs : List Char, (cs.all fun c => c ∈ alphabet ∧ c ≠ '(' ∧ c ≠ ')') → P cs :=
    fun cs plain => lexeme cs (List.all_iff_forall_prop.mp plain)
  have single : ∀ text token, texts [⟨text, token⟩] = text := by simp [texts]
  have cons : ∀ piece pieces, texts (piece :: pieces) = piece.text ++ texts pieces := fun _ _ => rfl
  induction expr with
  | number number =>
    rw [Expr.text, Expr.pieces, single]
    exact literal number
  | negative number =>
    rw [Expr.text, Expr.pieces, single]
    exact append ['-'] _ (word _ (by decide)) (literal number)
  | pi => exact word _ (by decide)
  | euler => exact word _ (by decide)
  | group body ih => exact parenthesized _ ih
  | call f argument ih =>
    rw [Expr.text, Expr.pieces, cons]
    exact append _ _ (word _ (by cases f <;> decide)) (parenthesized _ ih)
  | binary op left right ihLeft ihRight =>
    rw [Expr.text, Expr.pieces, texts_append, cons]
    exact append _ _ (operand left _ ihLeft)
      (append _ _ (lexeme _ (by simpa using (sign_facts op).2.2)) (operand right _ ihRight))

theorem text_alphabet (expr : Expr) : ∀ c ∈ expr.text, c ∈ alphabet := by
  apply text_induction (fun cs => ∀ c ∈ cs, c ∈ alphabet)
  · exact fun cs plain c member => (plain c member).1
  · intro first second left right c member
    exact (List.mem_append.mp member).elim (left c) (right c)
  · intro cs inside c member
    simp only [List.cons_append, List.mem_cons, List.mem_append, List.not_mem_nil, or_false] at member
    rcases member with rfl | member | rfl
    · decide
    · exact inside c member
    · decide

theorem text_balanced (expr : Expr) : expr.text.count '(' = expr.text.count ')' := by
  apply text_induction (fun cs => cs.count '(' = cs.count ')')
  · intro cs plain
    rw [List.count_eq_zero.mpr fun member => (plain _ member).2.1 rfl,
      List.count_eq_zero.mpr fun member => (plain _ member).2.2 rfl]
  · intro first second left right
    rw [List.count_append, List.count_append, left, right]
  · intro cs inside
    simp [inside]

theorem text_ne_nil (expr : Expr) : expr.text ≠ [] := by
  obtain ⟨first, c, whole, _⟩ := closing_text expr
  simp [whole]

theorem tokens_spelling {settings : Settings} {expr : Expr} {source : String} (signs : signsOpen true expr)
    (spelled : Respelled source.toList expr.text) (short : expr.text.length ≤ settings.maxLength) :
    Formula.tokens settings (some source) = .ok expr.tokens := by
  have compact : Formula.compact source = expr.text :=
    spelled.compact.trans (compact_alphabet (text_alphabet expr))
  have present : Formula.isBlank source = false := by
    rw [← Bool.not_eq_true]
    intro blank
    have nothing : Text.withoutBlanks source.toList = [] := by
      simpa [Text.withoutBlanks, Formula.isBlank] using blank
    rw [Formula.compact, nothing] at compact
    exact text_ne_nil expr compact.symm
  have tiles : Tiles [] expr.pieces [] := tiles_pieces expr signs ⟨by decide, by decide, by decide⟩
  rw [tokens_ok_iff, compact, scan_ok_iff_cut]
  exact ⟨present, short, text_balanced expr, expr.pieces, ⟨rfl, tiles⟩, rfl⟩

end Reckoner.Proofs.Printing
