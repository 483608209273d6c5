import Reckoner.Proofs.Conservation
import Reckoner.Proofs.Height

/-! What closing a group leaves of two stacks, whatever lies on them: the pending tokens need not be laid by an
evaluation, and the operands need not be enough. The operators on top are applied as their code is run, and the first
token that is no operator decides. However it ends, closing takes its tokens off the top, and it reaches no more than
one operand beyond the number of operators it has taken. -/

namespace Reckoner.Proofs.Residue
open Postfix TwoPhase

/-- The stacks as they are left, also by a failure. -/
def residue : Except Halt Stacks → Stacks
  | .ok s => s
  | .error halt => halt.left

def isOperator : Token → Bool
  | .operator _ => true
  | _ => false

/-- The lowest operands, `count` of them, are the same before and after. -/
def Untouched (count : Nat) (before after : List Float) : Prop :=
  ∃ kept, kept.length = count ∧ kept <:+ before ∧ kept <:+ after

/-- The function whose argument the group is, if these tokens lie right under its parenthesis. -/
def caller : List Token → Option Func
  | .function f :: _ => some f
  | _ => none

def below : List Token → List Token
  | .function _ :: rest => rest
  | under => under

def applications (operators : List Operator) : List Instruction :=
  operators.map fun op => .apply (.operator op)

/-- What closing a group applies, if nothing but these operators lies on its parenthesis. -/
def groupCode (operators : List Operator) (under : List Token) : List Instruction :=
  applications operators ++ applied (caller under)

/-- Nothing in the code lacks an operand, and everything in it is defined where it is applied. -/
structure Applicable (code : List Instruction) (operands : List Float) : Prop where
  supplied : ∀ symbol, run code operands ≠ .error (.missingOperand symbol)
  defined : ∀ failure, failure.kind = .domain → run code operands ≠ .error failure

variable {count : Nat} {before middle after : List Float}

theorem Untouched.refl (operands : List Float) : Untouched operands.length operands operands :=
  ⟨operands, rfl, List.suffix_rfl, List.suffix_rfl⟩

theorem Untouched.fewer {less : Nat} (untouched : Untouched count before after) (le : less ≤ count) :
    Untouched less before after := by
  obtain ⟨kept, rfl, first, last⟩ := untouched
  have under : kept.drop (kept.length - less) <:+ kept := List.drop_suffix ..
  refine ⟨_, ?_, under.trans first, under.trans last⟩
  rw [List.length_drop]
  omega

theorem Untouched.trans (first : Untouched count before middle) (second : Untouched count middle after) :
    Untouched count before after := by
  obtain ⟨kept, length, under, inside⟩ := first
  obtain ⟨kept', length', inside', last⟩ := second
  have same := length.trans length'.symm
  obtain rfl := (List.suffix_of_suffix_length_le inside inside' (Nat.le_of_eq same)).eq_of_length same
  exact ⟨kept, length, under, last⟩

theorem operate_residue (op : Operator) (s : Stacks) :
    (residue (s.operate op)).pending = s.pending ∧
      Untouched (s.operands.length - 2) s.operands (residue (s.operate op)).operands := by
  obtain ⟨operands, pending⟩ := s
  rcases operands with _ | ⟨right, _ | ⟨left, rest⟩⟩
  · exact ⟨rfl, [], rfl, List.nil_suffix, List.nil_suffix⟩
  · exact ⟨rfl, [], rfl, List.nil_suffix, List.nil_suffix⟩
  · have under : rest <:+ right :: left :: rest := List.suffix_append [right, left] rest
    simp only [Stacks.operate]
    cases op.apply left right with
    | ok value => exact ⟨rfl, rest, rfl, under, List.suffix_cons value rest⟩
    | error failure => exact ⟨rfl, rest, rfl, under, List.suffix_rfl⟩

theorem call_residue (f : Func) (s : Stacks) :
    (residue (s.call f)).pending = s.pending ∧
      Untouched (s.operands.length - 1) s.operands (residue (s.call f)).operands := by
  obtain ⟨operands, pending⟩ := s
  rcases operands with _ | ⟨x, rest⟩
  · exact ⟨rfl, [], rfl, List.nil_suffix, List.nil_suffix⟩
  · have under : rest <:+ x :: rest := List.suffix_cons x rest
    simp only [Stacks.call]
    cases f.apply x with
    | ok value => exact ⟨rfl, rest, rfl, under, List.suffix_cons value rest⟩
    | error failure => exact ⟨rfl, rest, rfl, under, List.suffix_rfl⟩

theorem discharge_residue (token : Token) (s : Stacks) :
    (residue (s.discharge token)).pending = s.pending ∧
      Untouched (s.operands.length - 1 - [token].countP isOperator) s.operands
        (residue (s.discharge token)).operands := by
  cases token with
  | operator op => exact operate_residue op s
  | number | function | leftParen | rightParen => exact ⟨rfl, (Untouched.refl s.operands).fewer (by omega)⟩

theorem operate_length {op : Operator} {s t : Stacks} (operated : s.operate op = .ok t) :
    t.operands.length + 1 = s.operands.length := by
  have ran := plain_operate op s.operands s.pending
  change plain (s.operate op) = _ at ran
  rw [operated, plain_ok] at ran
  obtain ⟨left, executed, rfl⟩ := map_ok ran.symm
  exact Conservation.execute_length executed

/-- Closing takes tokens off the top. It reaches one operand, and one more for every operator among them. -/
theorem close_frame (operands : List Float) (pending : List Token) :
    ∃ popped, pending = popped ++ (residue (Stacks.close operands pending)).pending ∧
      Untouched (operands.length - 1 - popped.countP isOperator) operands
        (residue (Stacks.close operands pending)).operands := by
  fun_induction Stacks.close operands pending with
  | case1 operands => exact ⟨[], rfl, (Untouched.refl operands).fewer (by omega)⟩
  | case2 operands f rest =>
    obtain ⟨waiting, untouched⟩ := call_residue f ⟨operands, rest⟩
    refine ⟨[.leftParen, .function f], ?_, untouched⟩
    rw [waiting]
    rfl
  | case3 operands under uncalled => exact ⟨[.leftParen], rfl, (Untouched.refl operands).fewer (by omega)⟩
  | case4 operands token rest inside s discharged ih =>
    obtain ⟨popped, waiting, later⟩ := ih
    obtain ⟨_, first⟩ := discharge_residue token ⟨operands, rest⟩
    obtain ⟨op, rfl, operated⟩ := discharge_ok discharged
    have length := operate_length operated
    rw [discharged] at first
    have count : (Token.operator op :: popped).countP isOperator = popped.countP isOperator + 1 :=
      List.countP_cons_of_pos rfl
    have one : [Token.operator op].countP isOperator = 1 := rfl
    dsimp only at first length
    -- There is one operand less now and one operator less to come, so both counts are the same.
    refine ⟨.operator op :: popped, congrArg (Token.operator op :: ·) waiting, ?_⟩
    exact (first.fewer (by omega)).trans (later.fewer (by omega))
  | case5 operands token rest inside halt discharged =>
    obtain ⟨waiting, untouched⟩ := discharge_residue token ⟨operands, rest⟩
    rw [discharged] at waiting untouched
    exact ⟨[token], congrArg (token :: ·) waiting.symm, untouched⟩

/-- The operators on top are applied as their code is run, whatever lies below them. -/
theorem plain_close_operators (operators : List Operator) (rest : List Token) (operands : List Float) :
    plain (Stacks.close operands (operators.map .operator ++ rest)) =
      run (applications operators) operands >>= fun left => plain (Stacks.close left rest) := by
  induction operators generalizing operands with
  | nil => rfl
  | cons op operators ih =>
    rw [List.map_cons, List.cons_append, close_operator, plain_bind, plain_operate]
    simp only [bind_map_left, ih, applications, List.map_cons, run_cons, bind_assoc]

theorem plain_close_leftParen (under : List Token) (operands : List Float) :
    plain (Stacks.close operands (.leftParen :: under)) =
      (⟨·, below under⟩) <$> run (applied (caller under)) operands := by
  rcases under with _ | ⟨token, rest⟩
  · rfl
  · cases token with
    | function f =>
      change plain (Stacks.call f ⟨operands, rest⟩) = _
      simp only [plain_call, caller, applied, run_singleton, below]
    | number | operator | leftParen | rightParen => rfl

theorem plain_close_group (operators : List Operator) (under : List Token) (operands : List Float) :
    plain (Stacks.close operands (operators.map .operator ++ .leftParen :: under)) =
      (⟨·, below under⟩) <$> run (groupCode operators under) operands := by
  simp only [plain_close_operators, plain_close_leftParen, groupCode, run_append, map_bind]

theorem close_group_ok_iff {operators : List Operator} {under : List Token} {operands : List Float} {s : Stacks} :
    Stacks.close operands (operators.map .operator ++ .leftParen :: under) = .ok s ↔
      run (groupCode operators under) operands = .ok s.operands ∧ s.pending = below under := by
  have same := plain_close_group operators under operands
  cases closed : Stacks.close operands (operators.map .operator ++ .leftParen :: under) with
  | ok t =>
    rw [closed, plain_ok] at same
    obtain ⟨left, ran, rfl⟩ := map_ok same.symm
    rw [ran]
    constructor
    · rintro ⟨⟩
      exact ⟨rfl, rfl⟩
    · rintro ⟨⟨⟩, waiting⟩
      rw [← waiting]
  | error halt =>
    rw [closed, plain_error] at same
    simp [map_error same.symm]

theorem applicable_iff {code : List Instruction} {operands : List Float} :
    Applicable code operands ↔ ∃ left, run code operands = .ok left := by
  cases ran : run code operands with
  | ok left => exact ⟨fun _ => ⟨left, rfl⟩, fun _ => ⟨by simp [ran], by simp [ran]⟩⟩
  | error failure =>
    refine ⟨fun ⟨supplied, defined⟩ => ?_, fun ⟨_, done⟩ => nomatch done⟩
    rcases Height.run_failure ran with ⟨symbol, rfl⟩ | domain
    · exact absurd ran (supplied symbol)
    · exact absurd ran (defined failure domain)

theorem applications_symbols (operators : List Operator) :
    Conservation.pushed (applications operators) = [] ∧
      Conservation.used (applications operators) = operators.map .operator := by
  simp [Conservation.pushed, Conservation.used, applications, List.filterMap_map]

/-- A function takes one operand and gives one, so only the operators count. -/
theorem groupCode_length {operators : List Operator} {under : List Token} {operands left : List Float}
    (ran : run (groupCode operators under) operands = .ok left) :
    left.length + operators.length = operands.length := by
  have length := Conservation.run_length ran
  obtain ⟨nothing, uses⟩ := applications_symbols operators
  have binary : (operators.map Symbol.operator).countP Conservation.isBinary = operators.length := by
    simp [List.countP_map, Function.comp_def, Conservation.isBinary]
  have function : Conservation.pushed (applied (caller under)) = [] ∧
      (Conservation.used (applied (caller under))).countP Conservation.isBinary = 0 := by
    cases caller under <;> exact ⟨rfl, rfl⟩
  rw [groupCode, Conservation.used_append, Conservation.pushed_append, nothing, uses, List.countP_append, binary,
    function.1, function.2] at length
  exact length

/-- On any two stacks closing is done if and only if there is a parenthesis with nothing but operators on it, and these
and the function right under it, if there is one, can be applied from the top down. Then all of that is gone from the
pending tokens, and one operand for each operator. Done or not, tokens are only taken off the top, and all operands but
one, and one more for each operator taken off, are untouched. -/
theorem close_residue (operands : List Float) (pending : List Token) :
    ((∃ s, Stacks.close operands pending = .ok s) ↔
      ∃ (operators : List Operator) (under : List Token), pending = operators.map .operator ++ .leftParen :: under ∧
        Applicable (groupCode operators under) operands) ∧
    (∀ (s : Stacks) (operators : List Operator) (under : List Token), Stacks.close operands pending = .ok s →
      pending = operators.map .operator ++ .leftParen :: under →
        run (groupCode operators under) operands = .ok s.operands ∧ s.pending = below under ∧
          s.operands.length + operators.length = operands.length) ∧
    ∃ popped, pending = popped ++ (residue (Stacks.close operands pending)).pending ∧
      Untouched (operands.length - 1 - popped.countP isOperator) operands
        (residue (Stacks.close operands pending)).operands := by
  refine ⟨⟨?_, ?_⟩, ?_, close_frame operands pending⟩
  · rintro ⟨s, closed⟩
    obtain ⟨operators, under, rfl⟩ := close_opened closed
    exact ⟨operators, under, rfl, applicable_iff.mpr ⟨_, (close_group_ok_iff.mp closed).1⟩⟩
  · rintro ⟨operators, under, rfl, applicable⟩
    obtain ⟨left, ran⟩ := applicable_iff.mp applicable
    exact ⟨⟨left, below under⟩, close_group_ok_iff.mpr ⟨ran, rfl⟩⟩
  · rintro s operators under closed rfl
    obtain ⟨ran, waiting⟩ := close_group_ok_iff.mp closed
    exact ⟨ran, waiting, groupCode_length ran⟩

/-- The root of a difference is the right side of a sum. -/
def rooted : List Token :=
  [.operator .mul, .operator .sub, .leftParen, .function .sqrt, .operator .add]

theorem close_residue_rooted :
    Stacks.close [3, 2, 10, 7] rooted = .ok ⟨[2, 7], [.operator .add]⟩ ∧
    rooted = [Operator.mul, .sub].map .operator ++ .leftParen :: [.function .sqrt, .operator .add] ∧
    run (groupCode [.mul, .sub] [.function .sqrt, .operator .add]) [3, 2, 10, 7] = .ok [2, 7] ∧
    Stacks.close [0, 1, 5] [.operator .div, .leftParen] = .error ⟨.divisionByZero, ⟨[5], [.leftParen]⟩⟩ ∧
    ∃ popped, [Token.operator .div, .leftParen] = popped ++ [.leftParen] ∧
      Untouched (2 - popped.countP isOperator) [0, 1, 5] [5] := by
  have root : Float.sqrt 4 = 2 := by decide +kernel
  have closed : Stacks.close [3, 2, 10, 7] rooted = .ok ⟨[2, 7], [.operator .add]⟩ :=
    calc Stacks.close [3, 2, 10, 7] rooted
      _ = .ok ⟨[Float.sqrt 4, 7], [.operator .add]⟩ := rfl
      _ = .ok ⟨[2, 7], [.operator .add]⟩ := by rw [root]
  have shape : rooted = [Operator.mul, .sub].map .operator ++ .leftParen :: [.function .sqrt, .operator .add] := rfl
  refine ⟨closed, shape, ?_, rfl, ?_⟩
  · exact ((close_residue [3, 2, 10, 7] rooted).2.1 _ _ _ closed shape).1
  · exact (close_residue [0, 1, 5] [.operator .div, .leftParen]).2.2

end Reckoner.Proofs.Residue
