import Reckoner.Proofs.TwoPhase

/-! Nothing is lost on the way from tokens to code. The code pushes the numbers in the order of the tokens, and it
applies every operator and function of the tokens as often as it occurs in them. So the tokens alone tell how many
operands an evaluation leaves, whatever the values are. -/

namespace Reckoner.Proofs.Conservation
open Postfix

def values (tokens : List Token) : List Float :=
  tokens.filterMap fun
    | .number value => some value
    | _ => none

def symbols (tokens : List Token) : List Symbol :=
  tokens.filterMap fun
    | .operator op => some (.operator op)
    | .function f => some (.function f)
    | _ => none

def pushed (code : List Instruction) : List Float :=
  code.filterMap fun
    | .push value => some value
    | .apply _ => none

def used (code : List Instruction) : List Symbol :=
  code.filterMap fun
    | .apply symbol => some symbol
    | .push _ => none

/-- The symbols that are still to be applied. -/
def held (marks : List Mark) : List Symbol :=
  marks.filterMap fun
    | .operator op => some (.operator op)
    | .group f => f.map .function

theorem release_symbols (rank : Nat) (marks : List Mark) :
    pushed (release rank marks).1 = [] ∧ used (release rank marks).1 ++ held (release rank marks).2 = held marks := by
  fun_induction release rank marks with
  | case1 op marks binds ih => exact ⟨ih.1, congrArg (Symbol.operator op :: ·) ih.2⟩
  | case2 op marks loose => exact ⟨rfl, rfl⟩
  | case3 marks noOperator => exact ⟨rfl, rfl⟩

private theorem applied_symbols (f : Option Func) (below : List Mark) :
    pushed (applied f) = [] ∧ used (applied f) ++ held below = held (.group f :: below) := by
  cases f <;> exact ⟨rfl, rfl⟩

theorem pushed_append (first second : List Instruction) : pushed (first ++ second) = pushed first ++ pushed second :=
  List.filterMap_append

theorem used_append (first second : List Instruction) : used (first ++ second) = used first ++ used second :=
  List.filterMap_append

theorem translate_symbols {marks : List Mark} {tokens : List Token}
    (ended : (translateFrom marks tokens).stopped = none) :
    pushed (translateFrom marks tokens).code = values tokens ∧
    (used (translateFrom marks tokens).code).Perm (held marks ++ symbols tokens) := by
  fun_induction translateFrom marks tokens with
  | case1 marks =>
    obtain ⟨nothing, same⟩ := release_symbols 0 marks
    by_cases closed : (release 0 marks).2 = []
    · rw [closed] at same
      refine ⟨nothing, ?_⟩
      rw [← same]
      simp [held, symbols]
    · simp only [if_neg closed, reduceCtorEq] at ended
  | case2 marks value rest ih =>
    obtain ⟨pushes, uses⟩ := ih ended
    exact ⟨congrArg (value :: ·) pushes, uses⟩
  | case3 marks rest ih => exact ih ended
  | case4 marks f rest ih =>
    obtain ⟨pushes, uses⟩ := ih ended
    exact ⟨pushes, uses.trans List.perm_middle.symm⟩
  | case5 marks f rest other => cases ended
  | case6 marks op rest ih =>
    obtain ⟨nothing, same⟩ := release_symbols op.rank marks
    obtain ⟨pushes, uses⟩ := ih ended
    refine ⟨?_, ?_⟩
    · simp only [Translation.prepend, pushed_append, nothing, pushes]
      rfl
    · simp only [Translation.prepend, used_append, ← same, List.append_assoc]
      exact (uses.trans List.perm_middle.symm).append_left _
  | case7 marks rest f below released ih =>
    obtain ⟨nothing, same⟩ := release_symbols 0 marks
    obtain ⟨none, function⟩ := applied_symbols f below
    obtain ⟨pushes, uses⟩ := ih ended
    rw [released, ← function] at same
    refine ⟨?_, ?_⟩
    · simp only [Translation.prepend, pushed_append, nothing, none, pushes]
      rfl
    · simp only [Translation.prepend, used_append, ← same, List.append_assoc]
      exact (uses.append_left _).append_left _
  | case8 marks rest unopened => cases ended

/-- Of two operands an operator makes one. A function leaves their number as it is. -/
def isBinary : Symbol → Bool
  | .operator _ => true
  | .function _ => false

theorem execute_length {instruction : Instruction} {operands left : List Float}
    (executed : instruction.execute operands = .ok left) :
    left.length + (used [instruction]).countP isBinary = operands.length + (pushed [instruction]).length := by
  unfold Instruction.execute at executed
  split at executed
  next value operands =>
    cases executed
    rfl
  next op right left rest =>
    obtain ⟨value, _, rfl⟩ := map_ok executed
    rfl
  next f x rest =>
    obtain ⟨value, _, rfl⟩ := map_ok executed
    rfl
  next => cases executed

theorem run_length {code : List Instruction} {operands left : List Float} (ran : run code operands = .ok left) :
    left.length + (used code).countP isBinary = operands.length + (pushed code).length := by
  induction code generalizing operands with
  | nil =>
    cases ran
    rfl
  | cons instruction code ih =>
    obtain ⟨middle, executed, ran⟩ := bind_ok ran
    have first := execute_length executed
    have rest := ih ran
    rw [← List.singleton_append, used_append, pushed_append, List.countP_append, List.length_append]
    omega

/-- An evaluation that succeeds has translated all its tokens, and found one operand more than it had operators. -/
theorem reduce_ok {tokens : List Token} {value : Float} (reduced : Stacks.reduce tokens = .ok value) :
    (translateFrom [] tokens).stopped = none ∧ (values tokens).length = (symbols tokens).countP isBinary + 1 := by
  obtain ⟨ran, ended⟩ := TwoPhase.reduce_ok_iff.mp reduced
  obtain ⟨pushes, uses⟩ := translate_symbols ended
  have length := run_length ran
  rw [pushes, uses.countP_eq isBinary] at length
  refine ⟨ended, ?_⟩
  simpa [held, Nat.add_comm] using length.symm

end Reckoner.Proofs.Conservation
