import Reckoner.Stacks

/-! Evaluation in two phases. A formula is first translated to postfix form, where every symbol stands behind its
operands, and the postfix form is then run on one stack. The translation sees no values, and the run sees no
parentheses. -/

namespace Reckoner.Proofs.Postfix

theorem bind_ok {result : Except ε α} {next : α → Except ε β} {last : β} (bound : result >>= next = .ok last) :
    ∃ value, result = .ok value ∧ next value = .ok last := by
  cases result with
  | error failure => cases bound
  | ok value => exact ⟨value, rfl, bound⟩

theorem bind_error {result : Except ε α} {next : α → Except ε β} {failure : ε}
    (bound : result >>= next = .error failure) :
    result = .error failure ∨ ∃ value, result = .ok value ∧ next value = .error failure := by
  cases result with
  | error first =>
    cases bound
    exact .inl rfl
  | ok value => exact .inr ⟨value, rfl, bound⟩

theorem map_ok {view : α → β} {result : Except ε α} {last : β} (mapped : view <$> result = .ok last) :
    ∃ value, result = .ok value ∧ last = view value := by
  cases result with
  | error failure => cases mapped
  | ok value =>
    cases mapped
    exact ⟨value, rfl, rfl⟩

theorem map_error {view : α → β} {result : Except ε α} {failure : ε} (mapped : view <$> result = .error failure) :
    result = .error failure := by
  cases result with
  | error first =>
    cases mapped
    rfl
  | ok value => cases mapped

inductive Instruction
  | push (value : Float)
  | apply (symbol : Symbol)
  deriving DecidableEq

/-- The operands have their top first, so a right operand lies above its left one. -/
def Instruction.execute : Instruction → List Float → Except Failure (List Float)
  | .push value, operands => pure (value :: operands)
  | .apply (.operator op), right :: left :: rest => (· :: rest) <$> op.apply left right
  | .apply (.function f), x :: rest => (· :: rest) <$> f.apply x
  | .apply symbol, _ => .error (.missingOperand symbol)

def run (code : List Instruction) (operands : List Float) : Except Failure (List Float) :=
  code.foldlM (fun operands instruction => instruction.execute operands) operands

@[simp]
theorem run_nil (operands : List Float) : run [] operands = pure operands :=
  rfl

@[simp]
theorem run_cons (instruction : Instruction) (code : List Instruction) (operands : List Float) :
    run (instruction :: code) operands = instruction.execute operands >>= run code :=
  rfl

@[simp]
theorem run_singleton (instruction : Instruction) (operands : List Float) :
    run [instruction] operands = instruction.execute operands :=
  bind_pure _

@[simp]
theorem run_append (first second : List Instruction) (operands : List Float) :
    run (first ++ second) operands = run first operands >>= run second :=
  List.foldlM_append

/-- What a translation holds back: an operator until its right operand is complete, and an open group, with the
function whose argument it is if there is one. -/
inductive Mark
  | operator (op : Operator)
  | group (f : Option Func)
  deriving DecidableEq

/-- The operators on top that bind at least as tightly as `rank`, and the marks below them. Rank zero, which is
below all operators, takes every operator down to the innermost open group. -/
def release (rank : Nat) : List Mark → List Instruction × List Mark
  | .operator op :: marks =>
    if rank ≤ op.rank then
      (.apply (.operator op) :: (release rank marks).1, (release rank marks).2)
    else ([], .operator op :: marks)
  | marks => ([], marks)

def applied : Option Func → List Instruction
  | some f => [.apply (.function f)]
  | none => []

/-- The code translated so far, and why there is no more of it if the tokens were not translated to their end. -/
structure Translation where
  code : List Instruction
  stopped : Option Failure

namespace Translation

def prepend (first : List Instruction) (translation : Translation) : Translation :=
  { translation with code := first ++ translation.code }

/-- What running leaves on the stack. A failure of the run comes before the end of the translation. -/
def outcome (translation : Translation) (operands : List Float) : Except Failure (List Float) := do
  let left ← run translation.code operands
  match translation.stopped with
  | some failure => .error failure
  | none => pure left

@[simp]
theorem outcome_prepend (first : List Instruction) (translation : Translation) (operands : List Float) :
    (translation.prepend first).outcome operands = run first operands >>= translation.outcome := by
  simp only [outcome, prepend, run_append, bind_assoc]
  rfl

end Translation

/-- The translation of the tokens that are left. A function and the parenthesis behind it are taken together. -/
def translateFrom (marks : List Mark) : List Token → Translation
  | [] => ⟨(release 0 marks).1, if (release 0 marks).2 = [] then none else some .unmatched⟩
  | .number value :: rest => (translateFrom marks rest).prepend [.push value]
  | .leftParen :: rest => translateFrom (.group none :: marks) rest
  | .function f :: .leftParen :: rest => translateFrom (.group (some f) :: marks) rest
  | .function f :: _ => ⟨[], some (.missingArgument f)⟩
  | .operator op :: rest =>
    (translateFrom (.operator op :: (release op.rank marks).2) rest).prepend (release op.rank marks).1
  | .rightParen :: rest =>
    match (release 0 marks).2 with
    | .group f :: below => (translateFrom below rest).prepend ((release 0 marks).1 ++ applied f)
    | _ => ⟨(release 0 marks).1, some .unmatched⟩

end Reckoner.Proofs.Postfix
