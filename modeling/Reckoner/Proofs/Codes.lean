import Reckoner.Outcome
import Reckoner.Proofs.Refusal
import Reckoner.Proofs.TwoPhase

/-! The codes of failures. A formula that has no tokens and one whose tokens have no value fail with different codes,
eleven in all, so that the code alone tells how far the formula came. -/

namespace Reckoner.Proofs.Codes
open Postfix

/-- The codes of formulas that have no tokens. -/
def unread : List String :=
  ["EMPTY_EXPRESSION", "TOO_LONG", "MISMATCHED_PARENTHESES", "INVALID_NUMBER", "INVALID_CHARACTER"]

/-- The codes of formulas whose tokens have no value. -/
def undefined : List String :=
  ["MISSING_OPERAND", "MISSING_ARGUMENT", "MALFORMED_EXPRESSION", "DIVISION_BY_ZERO", "NEGATIVE_SQRT",
    "NON_POSITIVE_LOG"]

theorem undefined_not_unread {code : String} (found : code ∈ undefined) : code ∉ unread := by
  have apart : ∀ code ∈ undefined, code ∉ unread := by decide
  exact apart code found

private theorem offence_unread {settings : Settings} {source : String} {fault : Fault}
    (offence : Refusal.Offence settings source fault) : fault.code ∈ unread := by
  cases offence with
  | stuck _ _ _ _ _ stuck => cases stuck <;> simp [unread]
  | _ => simp [unread]

theorem tokens_error {settings : Settings} {source : Option String} {failure : Failure}
    (failed : Formula.tokens settings source = .error failure) : failure.code ∈ unread := by
  cases source with
  | none =>
    cases failed
    simp [Failure.code, unread]
  | some source => exact offence_unread (Refusal.tokens_offence failed)

/-- A failure that tokens can come to. No function is ever used as an operator. -/
structure Evaluation (failure : Failure) : Prop where
  code : failure.code ∈ undefined
  known : ∀ f, failure ≠ .unknownOperator f

theorem operator_error {op : Operator} {left right : Float} {failure : Failure}
    (failed : op.apply left right = .error failure) : Evaluation failure := by
  cases op with
  | div =>
    simp only [Operator.apply] at failed
    split at failed <;> cases failed
    exact ⟨by decide, nofun⟩
  | _ => cases failed

theorem function_error {f : Func} {x : Float} {failure : Failure} (failed : f.apply x = .error failure) :
    Evaluation failure := by
  cases f with
  | sqrt | log | ln =>
    simp only [Func.apply] at failed
    split at failed <;> cases failed
    exact ⟨by decide, nofun⟩
  | _ => cases failed

theorem execute_error {instruction : Instruction} {operands : List Float} {failure : Failure}
    (failed : instruction.execute operands = .error failure) : Evaluation failure := by
  unfold Instruction.execute at failed
  split at failed
  next => cases failed
  next => exact operator_error (map_error failed)
  next => exact function_error (map_error failed)
  next =>
    cases failed
    exact ⟨by simp [Failure.code, undefined], nofun⟩

theorem run_error {code : List Instruction} {operands : List Float} {failure : Failure}
    (failed : run code operands = .error failure) : Evaluation failure := by
  induction code generalizing operands with
  | nil => cases failed
  | cons instruction code ih =>
    rcases bind_error failed with first | ⟨left, _, rest⟩
    · exact execute_error first
    · exact ih rest

private theorem unmatched_evaluation : Evaluation .unmatched :=
  ⟨by decide, nofun⟩

private theorem missingArgument_evaluation (f : Func) : Evaluation (.missingArgument f) :=
  ⟨by simp [Failure.code, undefined], nofun⟩

theorem stopped_evaluation {marks : List Mark} {tokens : List Token} {failure : Failure}
    (stops : (translateFrom marks tokens).stopped = some failure) : Evaluation failure := by
  fun_induction translateFrom marks tokens with
  | case1 marks =>
    split at stops <;> cases stops
    exact unmatched_evaluation
  | case2 marks value rest ih | case3 marks rest ih | case4 marks f rest ih | case6 marks op rest ih
  | case7 marks rest f below released ih => exact ih stops
  | case5 marks f rest other =>
    cases stops
    exact missingArgument_evaluation f
  | case8 marks rest unopened =>
    cases stops
    exact unmatched_evaluation

theorem outcome_error {tokens : List Token} {failure : Failure}
    (failed : (translateFrom [] tokens).outcome [] = .error failure) : Evaluation failure := by
  rcases bind_error failed with ran | ⟨left, _, ended⟩
  · exact run_error ran
  · split at ended
    next stops =>
      cases ended
      exact stopped_evaluation stops
    next => cases ended

theorem sole_error {left : List Float} {failure : Failure} (failed : TwoPhase.sole left = .error failure) :
    Evaluation failure := by
  unfold TwoPhase.sole at failed
  split at failed
  next => cases failed
  next =>
    cases failed
    exact ⟨by decide, nofun⟩

theorem reduce_error {tokens : List Token} {failure : Failure} (failed : Stacks.reduce tokens = .error failure) :
    Evaluation failure := by
  rw [TwoPhase.reduce_translate] at failed
  rcases bind_error failed with stopped | ⟨left, _, crowded⟩
  · exact outcome_error stopped
  · exact sole_error crowded

private theorem first_literal {c : Char} {cs : List Char} : (String.ofList (c :: cs)).toList.head? = some c := by
  rw [String.toList_ofList, List.head?_cons]

private theorem first_append {c : Char} {front back : String} (first : front.toList.head? = some c) :
    (front ++ back).toList.head? = some c := by
  rw [String.toList_append, List.head?_append, first, Option.some_or]

/-- The message of a function that was used as an operator is the only one that begins like it. -/
theorem exists_first {failure : Failure} (known : ∀ f, failure ≠ .unknownOperator f) :
    ∃ c ≠ 'U', failure.message.toList.head? = some c := by
  cases failure with
  | tooLong limit => exact ⟨'E', by decide, first_append (first_append first_literal)⟩
  | invalidCharacter c => exact ⟨'I', by decide, first_append first_literal⟩
  | missingOperand symbol => exact ⟨'M', by decide, first_append (first_append first_literal)⟩
  | missingArgument f => exact ⟨'F', by decide, first_append (first_append first_literal)⟩
  | unknownOperator f => exact absurd rfl (known f)
  | _ => exact ⟨_, by decide, first_literal⟩

/-- The codes that stand for a kind without a code of its own. No failure of a formula is left with one. -/
theorem defaults_unused :
    ∀ kind ∈ [Kind.lexical, .domain, .calculation], kind.defaultCode ∉ unread ++ undefined := by
  decide

theorem message_first {failure : Failure} (known : ∀ f, failure ≠ .unknownOperator f) :
    failure.message ≠ "" ∧ ¬ "Unknown operator".toList <+: failure.message.toList := by
  obtain ⟨c, other, first⟩ := exists_first known
  constructor
  · intro empty
    rw [empty] at first
    cases first
  · rintro ⟨rest, whole⟩
    have capital : failure.message.toList.head? = some 'U' := by
      rw [← whole, List.head?_append, first_literal (c := 'U'), Option.some_or]
    exact other (Option.some.inj (first.symm.trans capital))

/-- Whether a formula fails with the code of an unread one is decided before its tokens are looked at. -/
inductive Course (settings : Settings) (source : Option String) : Prop
  | refused (failure : Failure) (read : Formula.tokens settings source = .error failure)
      (code : failure.code ∈ unread)
  | broken (tokens : List Token) (failure : Failure) (read : Formula.tokens settings source = .ok tokens)
      (reduced : Stacks.reduce tokens = .error failure) (evaluation : Evaluation failure)
  | valued (tokens : List Token) (value : Float) (read : Formula.tokens settings source = .ok tokens)
      (reduced : Stacks.reduce tokens = .ok value)

theorem exists_course (settings : Settings) (source : Option String) : Course settings source := by
  cases read : Formula.tokens settings source with
  | error failure => exact .refused failure read (tokens_error read)
  | ok tokens =>
    cases reduced : Stacks.reduce tokens with
    | error failure => exact .broken tokens failure read reduced (reduce_error reduced)
    | ok value => exact .valued tokens value read reduced

/-- An outcome that keeps to the codes: it has a value and nothing else, or an error with one of the codes. -/
inductive Documented : Outcome → Prop
  | value (value : Float) : Documented { ok := true, value := some value }
  | failure (message code : String) (text : message ≠ "") (listed : code ∈ unread ++ undefined)
      (own : ∀ kind ∈ [Kind.lexical, .domain, .calculation], code ≠ kind.defaultCode)
      (known : ¬ "Unknown operator".toList <+: message.toList) :
      Documented { ok := false, error := some message, code := some code }

theorem failure_documented {failure : Failure} (known : ∀ f, failure ≠ .unknownOperator f)
    (listed : failure.code ∈ unread ++ undefined) : Documented (.ofResult (.error failure)) := by
  have own : ∀ kind ∈ [Kind.lexical, .domain, .calculation], failure.code ≠ kind.defaultCode := by
    intro kind given same
    exact defaults_unused kind given (same ▸ listed)
  exact .failure _ _ (message_first known).1 listed own (message_first known).2

theorem unread_known {failure : Failure} (code : failure.code ∈ unread) (f : Func) :
    failure ≠ .unknownOperator f := by
  rintro rfl
  exact undefined_not_unread (by simp [Failure.code, undefined]) code

theorem course_documented {settings : Settings} {source : Option String} (course : Course settings source) :
    Documented (.ofSource settings source) := by
  unfold Outcome.ofSource Formula.value
  cases course with
  | refused failure read code =>
    rw [read]
    exact failure_documented (unread_known code) (List.mem_append_left _ code)
  | broken tokens failure read reduced evaluation =>
    simp only [read, reduced]
    exact failure_documented evaluation.known (List.mem_append_right _ evaluation.code)
  | valued tokens value read reduced =>
    simp only [read, reduced]
    exact .value value

/-- A formula that is objected to fails as objected, and no other one has the code of an unread one. -/
theorem course_objection {settings : Settings} {source : Option String} (course : Course settings source) :
    (∃ failure : Failure, failure.code ∈ unread ∧ Formula.objection settings source = some failure.message ∧
      Outcome.ofSource settings source = .ofResult (.error failure)) ∨
    (Formula.objection settings source = none ∧
      ∀ code ∈ unread, (Outcome.ofSource settings source).code ≠ some code) := by
  unfold Formula.objection Outcome.ofSource Formula.value
  cases course with
  | refused failure read code => exact .inl ⟨failure, code, by simp only [read], by simp only [read]⟩
  | broken tokens failure read reduced evaluation =>
    refine .inr ⟨by simp only [read], fun code early same => ?_⟩
    simp only [read, reduced, Outcome.ofResult, Option.some.injEq] at same
    exact undefined_not_unread evaluation.code (same ▸ early)
  | valued tokens value read reduced =>
    refine .inr ⟨by simp only [read], fun code early same => ?_⟩
    simp only [read, reduced, Outcome.ofResult] at same
    cases same

/-- Every formula comes to a value or to one of the eleven codes. The objection to a formula is the error of the
outcome if that has the code of an unread one, and there is none to any other formula. -/
theorem ofSource_documented (settings : Settings) (source : Option String) :
    Documented (.ofSource settings source) ∧
    (∀ message, Formula.objection settings source = some message ↔
      ∃ code ∈ unread, Outcome.ofSource settings source = { ok := false, error := some message, code := some code }) ∧
    (Formula.objection settings source = none ↔
      ∀ code ∈ unread, (Outcome.ofSource settings source).code ≠ some code) := by
  have course := exists_course settings source
  refine ⟨course_documented course, ?_⟩
  rcases course_objection course with ⟨failure, early, objection, outcome⟩ | ⟨objection, late⟩
  · rw [objection, outcome]
    constructor
    · intro message
      simp only [Outcome.ofResult, Option.some.injEq, Outcome.mk.injEq, true_and]
      constructor
      · intro same
        exact ⟨_, early, same, rfl⟩
      · rintro ⟨_, _, same, _⟩
        exact same
    · constructor
      · intro absent
        cases absent
      · intro late
        exact absurd rfl (late _ early)
  · rw [objection]
    constructor
    · intro message
      constructor
      · intro absent
        cases absent
      · rintro ⟨code, early, same⟩
        exact absurd (congrArg Outcome.code same) (late code early)
    · exact ⟨fun _ => late, fun _ => rfl⟩

end Reckoner.Proofs.Codes
