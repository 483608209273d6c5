import Reckoner.Proofs.Height

/-! A group stands for its value. The tokens of a group are translated as they are on their own, above the marks of
what was read before them, and their code finds its operands above those that lie there already. So nothing around a
group can tell it from a number. That the group has a value, or is undefined, is all that is asked of it: it need not
be an infix expression, and what stands around it may be malformed. -/

namespace Reckoner.Proofs.Context
open Postfix TwoPhase

theorem feedAll_append (s : Stacks) {front : List Token} (free : ∀ f, front.getLast? ≠ some (.function f))
    (rest : List Token) : s.feedAll (front ++ rest) = s.feedAll front >>= fun fed => fed.feedAll rest := by
  induction front generalizing s with
  | nil => rfl
  | cons token front ih =>
    rw [List.cons_append, feedAll_cons, feedAll_cons, bind_assoc]
    cases front with
    | nil =>
      -- Only a function looks at the token behind it.
      cases token with
      | function f => exact absurd rfl (free f)
      | _ => rfl
    | cons next front =>
      refine bind_congr fun fed => ih fed fun f last => free f ?_
      rwa [List.getLast?_cons_cons]

private theorem free_tail {token : Token} {front : List Token}
    (free : ∀ f, (token :: front).getLast? ≠ some (.function f)) (f : Func) : front.getLast? ≠ some (.function f) := by
  intro last
  exact free f (by rw [List.getLast?_cons, last]; rfl)

private theorem feedAll_cons_ok {s last : Stacks} {token : Token} {rest : List Token}
    (fed : s.feedAll (token :: rest) = .ok last) :
    ∃ next, s.feed token rest.head? = .ok next ∧ next.feedAll rest = .ok last := by
  rw [feedAll_cons] at fed
  exact bind_ok fed

/-- What waits after a part of a formula is what marks stand for, unless the part ends in the middle of a call. -/
theorem feedAll_pending {marks : List Mark} {front : List Token} {operands : List Float} {last : Stacks}
    (free : ∀ f, front.getLast? ≠ some (.function f))
    (fed : Stacks.feedAll ⟨operands, pending marks⟩ front = .ok last) : ∃ marks', last.pending = pending marks' := by
  fun_induction translateFrom marks front generalizing operands with
  | case1 marks =>
    cases fed
    exact ⟨marks, rfl⟩
  | case2 marks value rest ih | case3 marks rest ih =>
    obtain ⟨next, taken, fed⟩ := feedAll_cons_ok fed
    cases taken
    exact ih (free_tail free) fed
  | case4 marks f rest ih =>
    obtain ⟨called, taken, fed⟩ := feedAll_cons_ok fed
    cases taken
    obtain ⟨next, taken, fed⟩ := feedAll_cons_ok fed
    cases taken
    exact ih (free_tail (free_tail free)) fed
  | case5 marks f rest other =>
    obtain ⟨called, taken, _⟩ := feedAll_cons_ok fed
    rcases rest with _ | ⟨token, rest⟩
    · exact absurd rfl (free f)
    · cases token with
      | leftParen => exact absurd rfl (other rest)
      | _ => cases taken
  | case6 marks op rest ih =>
    obtain ⟨⟨left, waiting⟩, taken, fed⟩ := feedAll_cons_ok fed
    have settled := plain_feed_operator op rest.head? marks operands
    obtain rfl : waiting = _ := pending_of_plain settled taken
    exact ih (free_tail free) fed
  | case7 marks rest f below released ih =>
    obtain ⟨⟨left, waiting⟩, taken, fed⟩ := feedAll_cons_ok fed
    have closed := plain_close marks operands
    simp only [released, ← map_bind] at closed
    obtain rfl : waiting = _ := pending_of_plain closed taken
    exact ih (free_tail free) fed
  | case8 marks rest unopened =>
    obtain ⟨next, taken, _⟩ := feedAll_cons_ok fed
    have closed := plain_close marks operands
    rw [Stacks.feed] at taken
    rw [taken, plain_ok] at closed
    obtain ⟨left, _, unmatched⟩ := bind_ok closed.symm
    split at unmatched
    next f below released => exact absurd released (unopened f below)
    next => cases unmatched

theorem conclude_append (s : Stacks) {front : List Token} (free : ∀ f, front.getLast? ≠ some (.function f))
    (rest : List Token) : conclude s (front ++ rest) = plain (s.feedAll front) >>= fun fed => conclude fed rest := by
  simp only [conclude, feedAll_append s free, bind_assoc, plain_bind]

theorem release_within (rank : Nat) (inner : List Mark) (caller : Option Func) (outer : List Mark) :
    release rank (inner ++ .group caller :: outer) =
      ((release rank inner).1, (release rank inner).2 ++ .group caller :: outer) := by
  fun_induction release rank inner with
  | case1 op marks binds ih => rw [List.cons_append, release, if_pos binds, ih]
  | case2 op marks loose => rw [List.cons_append, release, if_neg loose]
  | case3 marks noOperator =>
    rcases marks with _ | ⟨op | f, below⟩
    · rfl
    · exact absurd rfl (noOperator op below)
    · rfl

theorem prepend_prepend (first second : List Instruction) (translation : Translation) :
    (translation.prepend second).prepend first = translation.prepend (first ++ second) := by
  simp [Translation.prepend]

private theorem translate_close (marks : List Mark) (rest : List Token) :
    ∃ more : Translation, translateFrom marks (.rightParen :: rest) = more.prepend (release 0 marks).1 := by
  rw [translateFrom]
  split
  next f below released => exact ⟨_, (prepend_prepend ..).symm⟩
  next =>
    refine ⟨⟨[], some .unmatched⟩, ?_⟩
    simp [Translation.prepend]

/-- Inside a group tokens are translated as they are on their own. Once they are translated to their end, the
parenthesis behind them closes that group. -/
theorem translate_within (inner : List Mark) (body : List Token) (caller : Option Func) (outer : List Mark)
    (rest : List Token) :
    ∃ more : Translation, translateFrom (inner ++ .group caller :: outer) (body ++ .rightParen :: rest) =
        more.prepend (translateFrom inner body).code ∧
      ((translateFrom inner body).stopped = none → more = (translateFrom outer rest).prepend (applied caller)) := by
  fun_induction translateFrom inner body with
  | case1 marks =>
    rcases released : (release 0 marks).2 with _ | ⟨mark, below⟩
    · refine ⟨(translateFrom outer rest).prepend (applied caller), ?_, fun _ => rfl⟩
      rw [List.nil_append, translateFrom, release_within, released]
      exact (prepend_prepend ..).symm
    · obtain ⟨more, whole⟩ := translate_close (marks ++ .group caller :: outer) rest
      rw [release_within] at whole
      refine ⟨more, whole, fun ended => ?_⟩
      cases ended
  | case2 marks value tail ih =>
    obtain ⟨more, whole, complete⟩ := ih
    refine ⟨more, ?_, complete⟩
    rw [List.cons_append, translateFrom, whole, prepend_prepend]
    rfl
  | case3 marks tail ih =>
    obtain ⟨more, whole, complete⟩ := ih
    exact ⟨more, whole, complete⟩
  | case4 marks f tail ih =>
    obtain ⟨more, whole, complete⟩ := ih
    exact ⟨more, whole, complete⟩
  | case5 marks f tail other =>
    refine ⟨_, rfl, fun ended => ?_⟩
    cases ended
  | case6 marks op tail ih =>
    obtain ⟨more, whole, complete⟩ := ih
    refine ⟨more, ?_, complete⟩
    rw [List.cons_append, translateFrom, release_within, ← List.cons_append, whole, prepend_prepend]
    rfl
  | case7 marks tail f below released ih =>
    obtain ⟨more, whole, complete⟩ := ih
    refine ⟨more, ?_, complete⟩
    rw [List.cons_append, translateFrom, release_within, released, List.cons_append]
    dsimp only
    rw [whole, prepend_prepend]
    rfl
  | case8 marks tail unopened =>
    obtain ⟨more, whole⟩ := translate_close (marks ++ .group caller :: outer) (tail ++ .rightParen :: rest)
    rw [release_within] at whole
    refine ⟨more, whole, fun ended => ?_⟩
    cases ended

theorem execute_above {instruction : Instruction} {operands : List Float} (below : List Float)
    (complete : ∀ failure, instruction.execute operands = .error failure → failure.kind = .domain) :
    instruction.execute (operands ++ below) = (· ++ below) <$> instruction.execute operands := by
  cases instruction with
  | push value => rfl
  | apply symbol =>
    cases symbol with
    | operator op =>
      rcases operands with _ | ⟨right, _ | ⟨left, rest⟩⟩
      · cases complete _ rfl
      · cases complete _ rfl
      · simp [Instruction.execute]
    | function f =>
      rcases operands with _ | ⟨x, rest⟩
      · cases complete _ rfl
      · simp [Instruction.execute]

/-- Code that lacks no operand on a stack of its own does the same above any other stack. -/
theorem run_above {code : List Instruction} {operands : List Float} (below : List Float)
    (complete : ∀ failure, run code operands = .error failure → failure.kind = .domain) :
    run code (operands ++ below) = (· ++ below) <$> run code operands := by
  induction code generalizing operands with
  | nil => rfl
  | cons instruction code ih =>
    rw [run_cons] at complete
    rw [run_cons, run_cons]
    cases executed : instruction.execute operands with
    | error failure =>
      rw [executed] at complete
      rw [execute_above below fun other fails => complete other (by rw [← fails, executed]; rfl), executed]
      rfl
    | ok left =>
      rw [executed] at complete
      rw [execute_above below fun other fails => by simp [executed] at fails, executed]
      exact ih complete

theorem reduce_ok_run {body : List Token} {value : Float} (reduced : Stacks.reduce body = .ok value)
    (below : List Float) : run (translateFrom [] body).code below = .ok (value :: below) := by
  have alone := (reduce_ok_iff.mp reduced).1
  have above := run_above below fun failure fails => by cases alone.symm.trans fails
  rw [alone] at above
  exact above

theorem reduce_undefined_run {body : List Token} {failure : Failure} (reduced : Stacks.reduce body = .error failure)
    (domain : failure.kind = .domain) (below : List Float) :
    run (translateFrom [] body).code below = .error failure := by
  have alone : run (translateFrom [] body).code [] = .error failure := by
    rw [reduce_translate, Translation.outcome, bind_assoc] at reduced
    rcases bind_error reduced with ran | ⟨left, _, late⟩
    · exact ran
    · -- What is found after the run is a fault of structure.
      cases stops : (translateFrom [] body).stopped with
      | some reason =>
        rw [stops] at late
        cases late
        cases (Height.stopped_structural stops).symm.trans domain
      | none =>
        rw [stops] at late
        rcases left with _ | ⟨first, _ | ⟨second, rest⟩⟩ <;> cases late <;> cases domain
  have above := run_above below fun other fails => by
    cases alone.symm.trans fails
    exact domain
  rw [alone] at above
  exact above

variable {body : List Token} {value : Float}

theorem outcome_group (reduced : Stacks.reduce body = .ok value) (caller : Option Func) (marks : List Mark)
    (rest : List Token) (operands : List Float) :
    (translateFrom (.group caller :: marks) (body ++ .rightParen :: rest)).outcome operands =
      run (applied caller) (value :: operands) >>= (translateFrom marks rest).outcome := by
  obtain ⟨more, whole, complete⟩ := translate_within [] body caller marks rest
  rw [List.nil_append] at whole
  rw [whole, Translation.outcome_prepend, reduce_ok_run reduced, complete (reduce_ok_iff.mp reduced).2]
  exact Translation.outcome_prepend _ _ _

theorem outcome_undefined {failure : Failure} (reduced : Stacks.reduce body = .error failure)
    (domain : failure.kind = .domain) (marks : List Mark) (rest : List Token) (operands : List Float) :
    (translateFrom (.group none :: marks) (body ++ .rightParen :: rest)).outcome operands = .error failure := by
  obtain ⟨more, whole, _⟩ := translate_within [] body none marks rest
  rw [List.nil_append] at whole
  rw [whole, Translation.outcome_prepend, reduce_undefined_run reduced domain]
  rfl

theorem reduce_append {front : List Token} (free : ∀ f, front.getLast? ≠ some (.function f)) (rest : List Token) :
    Stacks.reduce (front ++ rest) =
      (plain (Stacks.empty.feedAll front) >>= fun fed => conclude fed rest) >>= sole := by
  rw [reduce_conclude, conclude_append _ free]

theorem conclude_fed {front : List Token} {s : Stacks} (free : ∀ f, front.getLast? ≠ some (.function f))
    (fed : Stacks.empty.feedAll front = .ok s) :
    ∃ marks, ∀ rest, conclude s rest = (translateFrom marks rest).outcome s.operands := by
  have start : Stacks.feedAll ⟨[], pending []⟩ front = .ok s := fed
  obtain ⟨marks, waiting⟩ := feedAll_pending free start
  refine ⟨marks, fun rest => ?_⟩
  rw [← conclude_translate, ← waiting]

theorem reduce_congr {front one two : List Token} (free : ∀ f, front.getLast? ≠ some (.function f))
    (same : ∀ marks operands, (translateFrom marks one).outcome operands = (translateFrom marks two).outcome operands) :
    Stacks.reduce (front ++ one) = Stacks.reduce (front ++ two) := by
  rw [reduce_append free, reduce_append free]
  cases fed : Stacks.empty.feedAll front with
  | error halt => rfl
  | ok s =>
    obtain ⟨marks, concluded⟩ := conclude_fed free fed
    rw [plain_ok]
    change conclude s one >>= sole = conclude s two >>= sole
    rw [concluded, concluded, same]

/-- A group with a value can be replaced by that value, and the call of a function on it by what the function gives,
whatever stands before and behind it. If the group is undefined, so is the whole, unless what stands before it fails
first. -/
theorem reduce_group (front body rest : List Token) (free : ∀ f, front.getLast? ≠ some (.function f)) :
    (∀ value, Stacks.reduce body = .ok value →
      Stacks.reduce (front ++ [Token.leftParen] ++ body ++ [Token.rightParen] ++ rest) =
        Stacks.reduce (front ++ [Token.number value] ++ rest)) ∧
    (∀ f value result, Stacks.reduce body = .ok value → f.apply value = .ok result →
      Stacks.reduce (front ++ [Token.function f, .leftParen] ++ body ++ [Token.rightParen] ++ rest) =
        Stacks.reduce (front ++ [Token.number result] ++ rest)) ∧
    ∀ failure, Stacks.reduce body = .error failure → failure.kind = .domain →
      (∀ s, Stacks.empty.feedAll front = .ok s →
        Stacks.reduce (front ++ [Token.leftParen] ++ body ++ [Token.rightParen] ++ rest) = .error failure) ∧
      ∀ halt, Stacks.empty.feedAll front = .error halt →
        Stacks.reduce (front ++ [Token.leftParen] ++ body ++ [Token.rightParen] ++ rest) = .error halt.failure := by
  simp only [List.append_assoc, List.cons_append, List.nil_append]
  refine ⟨fun value reduced => ?_, fun f value result reduced called => ?_, fun failure reduced domain => ⟨?_, ?_⟩⟩
  · refine reduce_congr free fun marks operands => ?_
    rw [translateFrom, translateFrom, outcome_group reduced, Translation.outcome_prepend]
    rfl
  · refine reduce_congr free fun marks operands => ?_
    rw [translateFrom, translateFrom, outcome_group reduced, Translation.outcome_prepend]
    simp only [applied, run_singleton, Instruction.execute, called]
    rfl
  · intro s fed
    obtain ⟨marks, concluded⟩ := conclude_fed free fed
    rw [reduce_append free, fed, plain_ok]
    change conclude s _ >>= sole = _
    rw [concluded, translateFrom, outcome_undefined reduced domain]
    rfl
  · intro halt fed
    rw [reduce_append free, fed]
    rfl

def trailingSum : List Token :=
  [.number 2, .leftParen, .number 2, .rightParen, .operator .add]

theorem reduce_group_sum :
    (∀ f, [Token.number 6, .operator .div].getLast? ≠ some (.function f)) ∧
    Stacks.reduce trailingSum = .ok 4 ∧ Func.sqrt.apply 4 = .ok 2 ∧
    Stacks.reduce
        ([Token.number 6, .operator .div] ++ [Token.function .sqrt, .leftParen] ++ trailingSum ++ [Token.rightParen] ++
          [Token.operator .sub]) =
      Stacks.reduce ([Token.number 6, .operator .div] ++ [Token.number 2] ++ [Token.operator .sub]) := by
  have free : ∀ f, [Token.number 6, .operator .div].getLast? ≠ some (.function f) := nofun
  have reduced : Stacks.reduce trailingSum = .ok 4 := by decide +kernel
  have called : Func.sqrt.apply 4 = .ok 2 := by decide +kernel
  refine ⟨free, reduced, called, ?_⟩
  exact (reduce_group [.number 6, .operator .div] trailingSum [.operator .sub] free).2.1 .sqrt 4 2 reduced called

end Reckoner.Proofs.Context
