import Reckoner.Proofs.Tiling
import Reckoner.Proofs.TwoPhase

/-! Expression trees, what they are worth, and how they are written. A written expression has parentheses where the
ranks of its operators ask for them, and all operators group to the left. Its tokens reduce to its value: they are
translated to its postfix form, which an evaluation runs. -/

namespace Reckoner.Proofs.Expression
open Postfix Tiling

/-- An unsigned number: digits, or a point with a digit behind it. -/
structure Literal where
  whole : List (Fin 10)
  fraction : List (Fin 10)
  inhabited : whole ≠ [] ∨ fraction ≠ []

def digit (d : Fin 10) : Char :=
  Nat.digitChar d

namespace Literal

def chars (literal : Literal) : List Char :=
  literal.whole.map digit ++ if literal.fraction = [] then [] else Scan.point :: literal.fraction.map digit

def value (literal : Literal) : Float :=
  reading literal.chars

end Literal

/-- A sign can only stand before a number. A group has parentheses of its own, needed or not. -/
inductive Expr
  | number (literal : Literal)
  | negative (literal : Literal)
  | pi
  | euler
  | group (body : Expr)
  | call (f : Func) (argument : Expr)
  | binary (op : Operator) (left right : Expr)

namespace Expr

/-- The value, or the failure that is met first if operands are evaluated from left to right and before what is
applied to them. -/
def value : Expr → Except Failure Float
  | .number literal => pure literal.value
  | .negative literal => pure (-literal.value)
  | .pi => pure Reckoner.pi
  | .euler => pure Reckoner.euler
  | .group body => body.value
  | .call f argument => do
    let x ← argument.value
    f.apply x
  | .binary op left right => do
    let x ← left.value
    let y ← right.value
    op.apply x y

/-- How tightly an expression holds together. What has no operator outside of parentheses is not torn apart by
any. -/
def rank : Expr → Nat
  | .binary op _ _ => op.rank
  | _ => 4

def parenthesized (pieces : List Piece) : List Piece :=
  ⟨['('], .leftParen⟩ :: pieces ++ [⟨[')'], .rightParen⟩]

/-- An operand of rank `rank` where one of rank `least` or more needs no parentheses. -/
def operand (least rank : Nat) (pieces : List Piece) : List Piece :=
  if rank < least then parenthesized pieces else pieces

/-- The written expression, with the token that each lexeme stands for. A left operand needs parentheses if it binds
less tightly than the operator, a right one also if it binds equally. -/
def pieces : Expr → List Piece
  | .number literal => [⟨literal.chars, .number literal.value⟩]
  | .negative literal => [⟨'-' :: literal.chars, .number (-literal.value)⟩]
  | .pi => [⟨['p', 'i'], .number Reckoner.pi⟩]
  | .euler => [⟨['e'], .number Reckoner.euler⟩]
  | .group body => parenthesized body.pieces
  | .call f argument => ⟨f.name.toList, .function f⟩ :: parenthesized argument.pieces
  | .binary op left right =>
    operand op.rank left.rank left.pieces ++ ⟨[op.sign], .operator op⟩ ::
      operand (op.rank + 1) right.rank right.pieces

def text (expr : Expr) : List Char :=
  texts expr.pieces

def tokens (expr : Expr) : List Token :=
  expr.pieces.map Piece.token

def code : Expr → List Instruction
  | .number literal => [.push literal.value]
  | .negative literal => [.push (-literal.value)]
  | .pi => [.push Reckoner.pi]
  | .euler => [.push Reckoner.euler]
  | .group body => body.code
  | .call f argument => argument.code ++ [.apply (.function f)]
  | .binary op left right => left.code ++ right.code ++ [.apply (.operator op)]

theorem run_code (expr : Expr) (operands : List Float) :
    run expr.code operands = (· :: operands) <$> expr.value := by
  induction expr generalizing operands with
  | number _ | negative _ | pi | euler => rfl
  | group body ih => exact ih operands
  | call f argument ih =>
    simp only [code, value, run_append, ih, bind_map_left, map_bind, run_singleton]
    rfl
  | binary op left right ihLeft ihRight =>
    simp only [code, value, run_append, ihLeft, ihRight, bind_map_left, map_bind, run_singleton, bind_assoc]
    rfl

end Expr

def emit (held : List Operator) : List Instruction :=
  held.map fun op => .apply (.operator op)

theorem release_held {rank : Nat} {held : List Operator} (tight : ∀ op ∈ held, rank ≤ op.rank) (marks : List Mark) :
    release rank (held.map .operator ++ marks) = (emit held ++ (release rank marks).1, (release rank marks).2) := by
  induction held with
  | nil => rfl
  | cons op held ih =>
    rw [List.forall_mem_cons] at tight
    simp only [List.map_cons, List.cons_append, release, tight.1, ih tight.2, ↓reduceIte, emit]

/-- The mark on top is no operator of rank `rank` or more. -/
def Loose (rank : Nat) (marks : List Mark) : Prop :=
  ∀ op, marks.head? = some (.operator op) → op.rank < rank

theorem Loose.release {rank : Nat} {marks : List Mark} (loose : Loose rank marks) :
    Postfix.release rank marks = ([], marks) := by
  match marks with
  | [] | .group _ :: _ => rfl
  | .operator op :: below =>
    have less := loose op rfl
    rw [Postfix.release, if_neg (by omega)]

/-- Tokens translate to `code`, of which operators at the end may still be held back. All of these bind at least as
tightly as `least`, so that an operator of lower rank releases them. -/
def Translates (least : Nat) (tokens : List Token) (code : List Instruction) : Prop :=
  ∀ marks rest, Loose least marks →
    ∃ first held, first ++ emit held = code ∧ (∀ op ∈ held, least ≤ op.rank) ∧
      translateFrom marks (tokens ++ rest) = (translateFrom (held.map .operator ++ marks) rest).prepend first

namespace Translates
variable {least : Nat} {tokens : List Token} {code : List Instruction}

theorem mono {lower : Nat} (translates : Translates least tokens code) (le : lower ≤ least) :
    Translates lower tokens code := by
  intro marks rest loose
  obtain ⟨first, held, whole, tight, translated⟩ :=
    translates marks rest fun op top => Nat.lt_of_lt_of_le (loose op top) le
  exact ⟨first, held, whole, fun op member => Nat.le_trans le (tight op member), translated⟩

theorem number (least : Nat) (value : Float) : Translates least [.number value] [.push value] :=
  fun _ _ _ => ⟨[.push value], [], rfl, nofun, rfl⟩

private theorem closed (translates : Translates least tokens code) (f : Option Func) (marks : List Mark)
    (rest : List Token) :
    translateFrom (.group f :: marks) (tokens ++ .rightParen :: rest) =
      (translateFrom marks rest).prepend (code ++ applied f) := by
  -- The parenthesis at the end releases all that the group has held back.
  obtain ⟨first, held, rfl, _, translated⟩ := translates (.group f :: marks) (.rightParen :: rest) nofun
  have released : release 0 (held.map .operator ++ .group f :: marks) = (emit held, .group f :: marks) := by
    rw [release_held fun op _ => Nat.zero_le _]
    simp [release]
  rw [translated, translateFrom, released]
  simp [Translation.prepend]

theorem group (translates : Translates least tokens code) (any : Nat) :
    Translates any (.leftParen :: tokens ++ [.rightParen]) code := by
  intro marks rest _
  refine ⟨code, [], List.append_nil _, nofun, ?_⟩
  rw [List.append_assoc, List.cons_append, translateFrom]
  simpa [applied] using translates.closed none marks rest

theorem call (translates : Translates least tokens code) (f : Func) (any : Nat) :
    Translates any (.function f :: .leftParen :: tokens ++ [.rightParen]) (code ++ [.apply (.function f)]) := by
  intro marks rest _
  refine ⟨code ++ [.apply (.function f)], [], List.append_nil _, nofun, ?_⟩
  rw [List.append_assoc, List.cons_append, List.cons_append, translateFrom]
  exact translates.closed (some f) marks rest

theorem binary {op : Operator} {right : List Token} {rightCode : List Instruction}
    (translates : Translates op.rank tokens code) (follows : Translates (op.rank + 1) right rightCode) :
    Translates op.rank (tokens ++ .operator op :: right) (code ++ rightCode ++ [.apply (.operator op)]) := by
  intro marks rest loose
  obtain ⟨first, held, rfl, tight, translated⟩ := translates marks (.operator op :: (right ++ rest)) loose
  -- The operator has released what its left operand held back, and waits below what its right operand holds back.
  have below : Loose (op.rank + 1) (.operator op :: marks) := by
    intro top same
    cases same
    exact Nat.lt_succ_self _
  obtain ⟨second, later, rfl, tighter, continued⟩ := follows (.operator op :: marks) rest below
  refine ⟨first ++ emit held ++ second, later ++ [op], ?_, ?_, ?_⟩
  · simp [emit]
  · intro kept member
    rcases List.mem_append.mp member with member | member
    · exact Nat.le_of_succ_le (tighter kept member)
    · exact Nat.le_of_eq (congrArg Operator.rank (List.mem_singleton.mp member).symm)
  · rw [List.append_assoc, List.cons_append, translated, translateFrom, release_held tight, loose.release, continued]
    simp [Translation.prepend]

end Translates

namespace Expr

private theorem tokens_parenthesized (pieces : List Piece) :
    (parenthesized pieces).map Piece.token = .leftParen :: pieces.map Piece.token ++ [.rightParen] := by
  simp [parenthesized]

private theorem translates_operand {expr : Expr} (translates : Translates expr.rank expr.tokens expr.code)
    (least : Nat) : Translates least ((operand least expr.rank expr.pieces).map Piece.token) expr.code := by
  unfold operand
  split
  · rw [tokens_parenthesized]
    exact translates.group least
  next tight => exact translates.mono (Nat.not_lt.mp tight)

theorem translates_tokens (expr : Expr) : Translates expr.rank expr.tokens expr.code := by
  induction expr with
  | number _ | negative _ | pi | euler => exact .number _ _
  | group body ih =>
    rw [tokens, pieces, tokens_parenthesized]
    exact ih.group _
  | call f argument ih =>
    rw [tokens, pieces, List.map_cons, tokens_parenthesized]
    exact ih.call f _
  | binary op left right ihLeft ihRight =>
    rw [tokens, pieces, List.map_append, List.map_cons]
    exact (translates_operand ihLeft _).binary (translates_operand ihRight _)

theorem translate_tokens (expr : Expr) : translateFrom [] expr.tokens = ⟨expr.code, none⟩ := by
  obtain ⟨first, held, whole, _, translated⟩ := expr.translates_tokens [] [] nofun
  have released : release 0 (held.map .operator) = (emit held, []) := by
    simpa [release] using release_held (fun op _ => Nat.zero_le op.rank) []
  rw [List.append_nil, List.append_nil] at translated
  rw [translated, translateFrom, released, ← whole]
  rfl

/-- The stacks reduce a written expression to its value, or fail with the failure that comes first in it. -/
theorem reduce_tokens (expr : Expr) : Stacks.reduce expr.tokens = expr.value := by
  rw [TwoPhase.reduce_translate, translate_tokens]
  simp only [Translation.outcome, run_code]
  cases expr.value <;> rfl

end Expr
end Reckoner.Proofs.Expression
