import Mathlib.Data.List.Forall2
import Reckoner.Proofs.Grammar

/-! What an evaluation computes. Each operand on the stack is the value of a tree, and the leaves of all trees, from
the bottom of the stack to its top, are the numbers taken in so far. Applying a symbol joins the trees on top under a
node, which keeps that order. So a value is the value of one tree over all numbers and symbols of the formula, be it an
infix expression or not. -/

namespace Reckoner.Proofs.Forest
open Postfix Conservation Grammar

inductive Tree
  | number (value : Float)
  | call (f : Func) (argument : Tree)
  | binary (op : Operator) (left right : Tree)

namespace Tree

def value : Tree → Except Failure Float
  | .number value => .ok value
  | .call f argument => argument.value >>= f.apply
  | .binary op left right => do
    let x ← left.value
    let y ← right.value
    op.apply x y

def leaves : Tree → List Float
  | .number value => [value]
  | .call _ argument => argument.leaves
  | .binary _ left right => left.leaves ++ right.leaves

def nodes : Tree → List Symbol
  | .number _ => []
  | .call f argument => .function f :: argument.nodes
  | .binary op left right => .operator op :: (left.nodes ++ right.nodes)

end Tree

/-- The leaves of a stack of trees, whose top comes first. -/
def frontier : List Tree → List Float
  | [] => []
  | tree :: forest => frontier forest ++ tree.leaves

def joints (forest : List Tree) : List Symbol :=
  forest.flatMap Tree.nodes

def Worth : List Tree → List Float → Prop :=
  List.Forall₂ fun tree value => tree.value = .ok value

/-- One stack of trees comes from another by code: its leaves are continued by the numbers that the code pushes, and
its nodes are joined by the symbols that the code applies. -/
structure Grows (code : List Instruction) (forest grown : List Tree) : Prop where
  leaves : frontier grown = frontier forest ++ pushed code
  nodes : (joints grown).Perm (joints forest ++ used code)

theorem Grows.refl (forest : List Tree) : Grows [] forest forest := by
  constructor <;> simp [pushed, used]

theorem Grows.append {first second : List Instruction} {forest middle grown : List Tree}
    (one : Grows first forest middle) (two : Grows second middle grown) : Grows (first ++ second) forest grown := by
  constructor
  · rw [two.leaves, one.leaves, pushed_append, List.append_assoc]
  · rw [used_append, ← List.append_assoc]
    exact two.nodes.trans (one.nodes.append_right _)

private theorem grows_call (f : Func) (tree : Tree) (forest : List Tree) :
    Grows [.apply (.function f)] (tree :: forest) (.call f tree :: forest) := by
  constructor
  · simp [frontier, Tree.leaves, pushed]
  · exact (List.perm_append_singleton (Symbol.function f) (joints (tree :: forest))).symm

private theorem grows_binary (op : Operator) (right left : Tree) (forest : List Tree) :
    Grows [.apply (.operator op)] (right :: left :: forest) (.binary op left right :: forest) := by
  constructor
  · simp [frontier, Tree.leaves, pushed]
  · have swapped : (joints (.binary op left right :: forest)).Perm (.operator op :: joints (right :: left :: forest)) := by
      simp only [joints, List.flatMap_cons, Tree.nodes, List.cons_append, ← List.append_assoc]
      exact (List.perm_append_comm.append_right _).cons _
    exact swapped.trans (List.perm_append_singleton _ _).symm

theorem execute_grows {instruction : Instruction} {operands left : List Float} {forest : List Tree}
    (worth : Worth forest operands) (executed : instruction.execute operands = .ok left) :
    ∃ grown, Worth grown left ∧ Grows [instruction] forest grown := by
  cases instruction with
  | push value =>
    cases executed
    refine ⟨.number value :: forest, .cons rfl worth, ?_⟩
    constructor <;> simp [frontier, joints, Tree.leaves, Tree.nodes, pushed, used]
  | apply symbol =>
    cases symbol with
    | operator op =>
      rcases worth with _ | ⟨rightWorth, _ | ⟨leftWorth, worth⟩⟩
      · cases executed
      · cases executed
      · obtain ⟨value, applied, rfl⟩ := map_ok executed
        refine ⟨_, .cons ?_ worth, grows_binary op _ _ _⟩
        rw [Tree.value, leftWorth, rightWorth]
        exact applied
    | function f =>
      rcases worth with _ | ⟨argumentWorth, worth⟩
      · cases executed
      · obtain ⟨value, applied, rfl⟩ := map_ok executed
        refine ⟨_, .cons ?_ worth, grows_call f _ _⟩
        rw [Tree.value, argumentWorth]
        exact applied

theorem run_grows {code : List Instruction} {operands left : List Float} {forest : List Tree}
    (worth : Worth forest operands) (ran : run code operands = .ok left) :
    ∃ grown, Worth grown left ∧ Grows code forest grown := by
  induction code generalizing operands forest with
  | nil =>
    cases ran
    exact ⟨forest, worth, .refl forest⟩
  | cons instruction code ih =>
    obtain ⟨between, executed, ran⟩ := bind_ok ran
    obtain ⟨middle, worth, first⟩ := execute_grows worth executed
    obtain ⟨grown, worth, rest⟩ := ih worth ran
    exact ⟨grown, worth, first.append rest⟩

/-- Parentheses nest under `depth` open ones, and every function stands right before a parenthesis. -/
structure Enclosed (depth : Nat) (tokens : List Token) : Prop where
  inside : ∀ front, front <+: tokens → front.count .rightParen ≤ depth + front.count .leftParen
  closed : tokens.count .rightParen = depth + tokens.count .leftParen
  arguments : ∀ front f rest, tokens = front ++ .function f :: rest → rest.head? = some .leftParen

private theorem Enclosed.cons {token : Token} {rest : List Token} {depth after : Nat} (enclosed : Enclosed after rest)
    (height : after + [token].count .rightParen = depth + [token].count .leftParen)
    (argument : ∀ f, token = .function f → rest.head? = some .leftParen) : Enclosed depth (token :: rest) := by
  have count_cons (kind : Token) (tokens : List Token) :
      (token :: tokens).count kind = [token].count kind + tokens.count kind := by
    rw [← List.count_append, List.singleton_append]
  constructor
  · intro front leads
    rcases List.prefix_cons_iff.mp leads with rfl | ⟨front, rfl, following⟩
    · simp
    · have inside := enclosed.inside front following
      rw [count_cons .rightParen front, count_cons .leftParen front]
      omega
  · have closed := enclosed.closed
    rw [count_cons .rightParen rest, count_cons .leftParen rest]
    omega
  · intro front f tail split
    rcases List.cons_eq_append_iff.mp split with ⟨rfl, same⟩ | ⟨front, rfl, same⟩
    · obtain ⟨rfl, rfl⟩ := List.cons.inj same
      exact argument f rfl
    · exact enclosed.arguments front f tail same

theorem enclosed_of_nested {depth : Nat} {tokens : List Token} (nested : Nested depth tokens) :
    Enclosed depth tokens := by
  fun_induction Nested depth tokens with
  | case1 depth =>
    subst nested
    constructor
    · intro front leads
      rw [List.prefix_nil.mp leads]
      exact Nat.le_refl _
    · rfl
    · intro front f rest split
      simp at split
  | case2 depth value rest ih | case3 depth op rest ih | case4 depth rest ih | case8 rest depth ih =>
    refine (ih nested).cons rfl ?_
    intro f same
    cases same
  | case5 depth f rest ih =>
    have argument : Enclosed depth (.leftParen :: rest) := by
      refine (ih nested).cons rfl ?_
      intro f same
      cases same
    exact argument.cons rfl fun _ _ => rfl
  | case6 | case7 => cases nested

/-- A value is what one tree over the numbers and symbols of the formula is worth: its leaves are the numbers in their
order, and its nodes the operators and functions, each as often as it occurs. Parentheses nest, functions have
arguments in parentheses, and there is one number more than there are operators. -/
theorem reduce_ok_tree {tokens : List Token} {value : Float} (reduced : Stacks.reduce tokens = .ok value) :
    (∃ tree : Tree, tree.leaves = values tokens ∧ tree.nodes.Perm (symbols tokens) ∧ tree.value = .ok value) ∧
    Enclosed 0 tokens ∧ (values tokens).length = (symbols tokens).countP isBinary + 1 := by
  obtain ⟨ran, ended⟩ := TwoPhase.reduce_ok_iff.mp reduced
  obtain ⟨pushes, uses⟩ := translate_symbols ended
  obtain ⟨grown, worth, grows⟩ := run_grows .nil ran
  obtain _ | ⟨evaluated, _ | _⟩ := worth
  refine ⟨⟨_, ?_, ?_, evaluated⟩, enclosed_of_nested (stopped_eq_none_iff.mp ended), (reduce_ok reduced).2⟩
  · simpa [frontier, pushes] using grows.leaves
  · simpa [joints, held] using grows.nodes.trans (by simpa [joints, held] using uses)

/-- The root has no argument of its own, and the sum finds its left operand before the parenthesis. -/
def borrowed : List Token :=
  [.number 4, .function .sqrt, .leftParen, .rightParen, .leftParen, .operator .add, .number 3, .rightParen]

theorem reduce_ok_tree_borrowed :
    Stacks.reduce borrowed = .ok 5 ∧
    (∃ tree : Tree, tree.leaves = values borrowed ∧ tree.nodes.Perm (symbols borrowed) ∧ tree.value = .ok 5) ∧
    Enclosed 0 borrowed ∧ (values borrowed).length = (symbols borrowed).countP isBinary + 1 := by
  have reduced : Stacks.reduce borrowed = .ok 5 := by decide +kernel
  exact ⟨reduced, reduce_ok_tree reduced⟩

end Reckoner.Proofs.Forest
