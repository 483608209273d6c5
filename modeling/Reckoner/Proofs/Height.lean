import Mathlib.Data.List.Forall2
import Reckoner.Proofs.TwoPhase

/-! What an evaluation does without its values. Whether an instruction finds its operands is a question of how many
there are, so the heights of the stack tell every failure but those of a value outside of a function's domain. Heights
do not depend on the numbers in a formula, and so two formulas that differ in their numbers alone fail alike, or both
have values, unless one of them is undefined. -/

namespace Reckoner.Proofs.Height
open Postfix

/-- The same token, but for the value of a number. -/
inductive Alike : Token → Token → Prop
  | number (value other : Float) : Alike (.number value) (.number other)
  | same (token : Token) : Alike token token

def climb : Instruction → Nat → Except Failure Nat
  | .push _, height => pure (height + 1)
  | .apply (.operator _), height + 2 => pure (height + 1)
  | .apply (.function _), height + 1 => pure (height + 1)
  | .apply symbol, _ => .error (.missingOperand symbol)

def ascend (code : List Instruction) (height : Nat) : Except Failure Nat :=
  code.foldlM (fun height instruction => climb instruction height) height

@[simp]
theorem ascend_append (first second : List Instruction) (height : Nat) :
    ascend (first ++ second) height = ascend first height >>= ascend second :=
  List.foldlM_append

/-- How high the stack is at the end of a translation, or why that end is not reached. -/
def level (translation : Translation) (height : Nat) : Except Failure Nat := do
  let reached ← ascend translation.code height
  match translation.stopped with
  | some failure => .error failure
  | none => pure reached

@[simp]
theorem level_prepend (first : List Instruction) (translation : Translation) (height : Nat) :
    level (translation.prepend first) height = ascend first height >>= level translation := by
  simp only [level, Translation.prepend, ascend_append, bind_assoc]
  rfl

theorem level_alike {first second : List Token} (alike : List.Forall₂ Alike first second) (marks : List Mark)
    (height : Nat) : level (translateFrom marks first) height = level (translateFrom marks second) height := by
  fun_induction translateFrom marks first generalizing second height with
  | case1 marks =>
    cases alike
    rw [translateFrom]
  | case2 marks value rest ih =>
    obtain _ | ⟨⟨_, other⟩ | _, following⟩ := alike
    · exact ih following (height + 1)
    · exact ih following (height + 1)
  | case3 marks rest ih =>
    obtain _ | ⟨⟨⟩, following⟩ := alike
    exact ih following height
  | case4 marks f rest ih =>
    obtain _ | ⟨⟨⟩, _ | ⟨⟨⟩, following⟩⟩ := alike
    exact ih following height
  | case5 marks f rest other =>
    obtain _ | ⟨⟨⟩, following⟩ := alike
    rcases following with _ | @⟨token, _, _, _, ⟨⟩ | _, _⟩
    · rfl
    · rfl
    · cases token with
      | leftParen => exact absurd rfl (other _)
      | _ => rfl
  | case6 marks op rest ih =>
    obtain _ | ⟨⟨⟩, following⟩ := alike
    rw [translateFrom, level_prepend, level_prepend]
    exact bind_congr (ih following)
  | case7 marks rest f below released ih =>
    obtain _ | ⟨⟨⟩, following⟩ := alike
    simp only [translateFrom, released, level_prepend]
    exact bind_congr (ih following)
  | case8 marks rest unopened =>
    obtain _ | ⟨⟨⟩, following⟩ := alike
    rw [translateFrom]
    split
    next f below released => exact absurd released (unopened f below)
    next => rfl

/-- A result is as expected, or a value lay outside of a function's domain. -/
def Meets (view : α → β) (result : Except Failure α) (expected : Except Failure β) : Prop :=
  view <$> result = expected ∨ ∃ failure, result = .error failure ∧ failure.kind = .domain

theorem Meets.bind {view : α → β} {view' : γ → δ} {result : Except Failure α} {expected : Except Failure β}
    {next : α → Except Failure γ} {next' : β → Except Failure δ} (meets : Meets view result expected)
    (follow : ∀ value, Meets view' (next value) (next' (view value))) :
    Meets view' (result >>= next) (expected >>= next') := by
  rcases meets with rfl | ⟨failure, rfl, undefined⟩
  · cases result with
    | error failure => exact .inl rfl
    | ok value => exact follow value
  · exact .inr ⟨failure, rfl, undefined⟩

private theorem apply_operator_meets (op : Operator) (left right : Float) (rest : List Float) :
    Meets List.length ((· :: rest) <$> op.apply left right) (pure (rest.length + 1)) := by
  cases op with
  | div =>
    rw [Operator.apply]
    split
    · exact .inr ⟨_, rfl, rfl⟩
    · exact .inl rfl
  | _ => exact .inl rfl

private theorem apply_function_meets (f : Func) (x : Float) (rest : List Float) :
    Meets List.length ((· :: rest) <$> f.apply x) (pure (rest.length + 1)) := by
  cases f with
  | sqrt | log | ln =>
    rw [Func.apply]
    split
    · exact .inr ⟨_, rfl, rfl⟩
    · exact .inl rfl
  | _ => exact .inl rfl

theorem execute_meets (instruction : Instruction) (operands : List Float) :
    Meets List.length (instruction.execute operands) (climb instruction operands.length) := by
  cases instruction with
  | push value => exact .inl rfl
  | apply symbol =>
    cases symbol with
    | operator op =>
      rcases operands with _ | ⟨right, _ | ⟨left, rest⟩⟩
      · exact .inl rfl
      · exact .inl rfl
      · exact apply_operator_meets op left right rest
    | function f =>
      rcases operands with _ | ⟨x, rest⟩
      · exact .inl rfl
      · exact apply_function_meets f x rest

theorem run_meets (code : List Instruction) (operands : List Float) :
    Meets List.length (run code operands) (ascend code operands.length) := by
  induction code generalizing operands with
  | nil => exact .inl rfl
  | cons instruction code ih => exact (execute_meets instruction operands).bind ih

theorem execute_failure {symbol : Symbol} {operands : List Float} {failure : Failure}
    (failed : (Instruction.apply symbol).execute operands = .error failure) :
    failure = .missingOperand symbol ∨ failure.kind = .domain := by
  rcases execute_meets (.apply symbol) operands with same | ⟨other, failed', domain⟩
  · rw [failed] at same
    change Except.error failure = _ at same
    unfold climb at same
    split at same <;> cases same
    next given _ _ =>
      cases given
      exact .inl rfl
  · cases failed.symm.trans failed'
    exact .inr domain

/-- Code can only lack an operand, or apply a symbol where it is undefined. -/
theorem run_failure {code : List Instruction} {operands : List Float} {failure : Failure}
    (failed : run code operands = .error failure) :
    (∃ symbol, failure = .missingOperand symbol) ∨ failure.kind = .domain := by
  induction code generalizing operands with
  | nil => cases failed
  | cons instruction code ih =>
    rcases bind_error failed with first | ⟨left, _, rest⟩
    · cases instruction with
      | push value => cases first
      | apply symbol => exact (execute_failure first).imp_left fun same => ⟨symbol, same⟩
    · exact ih rest

/-- Why the tokens have no value whatever their numbers are, if that is so. -/
def verdict (tokens : List Token) : Except Failure Unit := do
  let height ← level (translateFrom [] tokens) 0
  if height = 1 then pure () else .error .notSingle

theorem reduce_meets (tokens : List Token) : Meets (fun _ => ()) (Stacks.reduce tokens) (verdict tokens) := by
  rw [TwoPhase.reduce_translate]
  have outcome : Meets List.length ((translateFrom [] tokens).outcome []) (level (translateFrom [] tokens) 0) := by
    refine (run_meets (translateFrom [] tokens).code []).bind fun left => ?_
    cases (translateFrom [] tokens).stopped <;> exact .inl rfl
  refine outcome.bind fun left => ?_
  rcases left with _ | ⟨value, _ | ⟨other, rest⟩⟩ <;> exact .inl rfl

theorem stopped_structural {marks : List Mark} {tokens : List Token} {failure : Failure}
    (stops : (translateFrom marks tokens).stopped = some failure) : failure.kind = .structural := by
  fun_induction translateFrom marks tokens with
  | case1 marks =>
    split at stops
    · cases stops
    · cases stops
      rfl
  | case2 marks value rest ih | case3 marks rest ih | case4 marks f rest ih | case6 marks op rest ih
  | case7 marks rest f below released ih => exact ih stops
  | case5 marks f rest other | case8 marks rest unopened =>
    cases stops
    rfl

theorem climb_structural {instruction : Instruction} {height : Nat} {failure : Failure}
    (fails : climb instruction height = .error failure) : failure.kind = .structural := by
  unfold climb at fails
  split at fails <;> cases fails
  rfl

theorem ascend_structural {code : List Instruction} {height : Nat} {failure : Failure}
    (fails : ascend code height = .error failure) : failure.kind = .structural := by
  induction code generalizing height with
  | nil => cases fails
  | cons instruction code ih =>
    rcases bind_error fails with climbed | ⟨reached, _, fails⟩
    · exact climb_structural climbed
    · exact ih fails

theorem verdict_structural {tokens : List Token} {failure : Failure} (fails : verdict tokens = .error failure) :
    failure.kind = .structural := by
  rw [verdict, level, bind_assoc] at fails
  rcases bind_error fails with ascended | ⟨height, _, fails⟩
  · exact ascend_structural ascended
  · cases stops : (translateFrom [] tokens).stopped with
    | some reason =>
      rw [stops] at fails
      cases fails
      exact stopped_structural stops
    | none =>
      rw [stops] at fails
      change (if height = 1 then pure () else Except.error Failure.notSingle) = _ at fails
      split at fails <;> cases fails
      rfl

def Undefined (tokens : List Token) : Prop :=
  ∃ failure, Stacks.reduce tokens = .error failure ∧ failure.kind = .domain

theorem verdict_of_value {tokens : List Token} {value : Float} (reduced : Stacks.reduce tokens = .ok value) :
    verdict tokens = .ok () := by
  rcases reduce_meets tokens with same | ⟨failure, fails, _⟩
  · rw [reduced] at same
    exact same.symm
  · rw [reduced] at fails
    cases fails

theorem verdict_of_failure {tokens : List Token} {failure : Failure} (reduced : Stacks.reduce tokens = .error failure)
    (structural : failure.kind = .structural) : verdict tokens = .error failure := by
  rcases reduce_meets tokens with same | ⟨other, fails, domain⟩
  · rw [reduced] at same
    exact same.symm
  · cases reduced.symm.trans fails
    rw [structural] at domain
    cases domain

theorem verdict_alike {first second : List Token} (alike : List.Forall₂ Alike first second) :
    verdict first = verdict second := by
  rw [verdict, verdict, level_alike alike]

/-- Of two formulas that differ in their numbers alone, either both have values or both fail with the same structural
failure, unless one is undefined. Even then the other has no value if it fails so, and does not fail so if it has a
value. -/
theorem reduce_alike {first second : List Token} (alike : List.Forall₂ Alike first second) :
    (¬ Undefined first → ¬ Undefined second →
      (∃ value other, Stacks.reduce first = .ok value ∧ Stacks.reduce second = .ok other) ∨
      ∃ failure, failure.kind = .structural ∧ Stacks.reduce first = .error failure ∧
        Stacks.reduce second = .error failure) ∧
    (∀ failure, failure.kind = .structural → Stacks.reduce first = .error failure →
      ∀ value, Stacks.reduce second ≠ .ok value) ∧
    ∀ failure, failure.kind = .structural → Stacks.reduce second = .error failure →
      ∀ value, Stacks.reduce first ≠ .ok value := by
  have same := verdict_alike alike
  refine ⟨fun defined defined' => ?_, ?_, ?_⟩
  · have one := (reduce_meets first).resolve_right defined
    have two := (reduce_meets second).resolve_right defined'
    cases decided : verdict second with
    | ok =>
      obtain ⟨value, reduced, _⟩ := map_ok (one.trans (same.trans decided))
      obtain ⟨other, reduced', _⟩ := map_ok (two.trans decided)
      exact .inl ⟨value, other, reduced, reduced'⟩
    | error failure =>
      have reduced := map_error (one.trans (same.trans decided))
      have reduced' := map_error (two.trans decided)
      exact .inr ⟨failure, verdict_structural decided, reduced, reduced'⟩
  · intro failure structural fails value reduced
    have conflict := (verdict_of_failure fails structural).symm.trans (same.trans (verdict_of_value reduced))
    cases conflict
  · intro failure structural fails value reduced
    have conflict := (verdict_of_failure fails structural).symm.trans (same.symm.trans (verdict_of_value reduced))
    cases conflict

def rootSum (x : Float) : List Token :=
  [.function .sqrt, .leftParen, .number x, .rightParen, .operator .add]

theorem reduce_alike_roots :
    List.Forall₂ Alike (rootSum 4) (rootSum 9) ∧ ¬ Undefined (rootSum 4) ∧ ¬ Undefined (rootSum 9) ∧
    ∃ failure, failure.kind = .structural ∧ Stacks.reduce (rootSum 4) = .error failure ∧
      Stacks.reduce (rootSum 9) = .error failure := by
  have alike : List.Forall₂ Alike (rootSum 4) (rootSum 9) :=
    .cons (.same _) (.cons (.same _) (.cons (.number 4 9) (.cons (.same _) (.cons (.same _) .nil))))
  have fails : Stacks.reduce (rootSum 4) = .error (.missingOperand (.operator .add)) := by decide +kernel
  have fails' : Stacks.reduce (rootSum 9) = .error (.missingOperand (.operator .add)) := by decide +kernel
  have defined : ¬ Undefined (rootSum 4) := by
    rintro ⟨failure, undefined, domain⟩
    cases fails.symm.trans undefined
    cases domain
  have defined' : ¬ Undefined (rootSum 9) := by
    rintro ⟨failure, undefined, domain⟩
    cases fails'.symm.trans undefined
    cases domain
  refine ⟨alike, defined, defined', ?_⟩
  rcases (reduce_alike alike).1 defined defined' with ⟨value, _, reduced, _⟩ | structural
  · cases fails.symm.trans reduced
  · exact structural

end Reckoner.Proofs.Height
