import Reckoner.Proofs.Postfix

/-! The two stacks of an evaluation do in one pass what translation and run do in two. The marks of the translation
stand for the pending tokens, and the operands are what the code emitted so far leaves when it runs. Three places
apply pending operators; each of them releases marks and runs their code. -/

namespace Reckoner.Proofs.TwoPhase
open Postfix

/-- A result without the stacks that a failure leaves behind. -/
def plain (result : Except Halt α) : Except Failure α :=
  result.mapError Halt.failure

theorem plain_ok (value : α) : plain (.ok value) = .ok value :=
  rfl

theorem plain_error (halt : Halt) : plain (.error halt : Except Halt α) = .error halt.failure :=
  rfl

theorem plain_bind (result : Except Halt α) (next : α → Except Halt β) :
    plain (result >>= next) = plain result >>= fun value => plain (next value) := by
  cases result <;> rfl

/-- The pending tokens that a mark stands for. A function lies right under the parenthesis of its argument. -/
def written : Mark → List Token
  | .operator op => [.operator op]
  | .group (some f) => [.leftParen, .function f]
  | .group none => [.leftParen]

def pending (marks : List Mark) : List Token :=
  marks.flatMap written

theorem plain_operate (op : Operator) (operands : List Float) (tokens : List Token) :
    plain (Stacks.operate op ⟨operands, tokens⟩) =
      (⟨·, tokens⟩) <$> (Instruction.apply (.operator op)).execute operands := by
  match operands with
  | [] | [_] => rfl
  | right :: left :: rest =>
    simp only [Stacks.operate, Instruction.execute]
    cases op.apply left right <;> rfl

theorem plain_call (f : Func) (operands : List Float) (tokens : List Token) :
    plain (Stacks.call f ⟨operands, tokens⟩) =
      (⟨·, tokens⟩) <$> (Instruction.apply (.function f)).execute operands := by
  match operands with
  | [] => rfl
  | x :: rest =>
    simp only [Stacks.call, Instruction.execute]
    cases f.apply x <;> rfl

private theorem settle_operator (rank : Nat) (operands : List Float) (op : Operator) (rest : List Token)
    (binds : rank ≤ op.rank) :
    Stacks.settle rank operands (.operator op :: rest) =
      Stacks.operate op ⟨operands, rest⟩ >>= fun s => Stacks.settle rank s.operands rest := by
  rw [Stacks.settle, if_pos binds]
  cases Stacks.operate op ⟨operands, rest⟩ <;> rfl

theorem plain_settle (rank : Nat) (marks : List Mark) (operands : List Float) :
    plain (Stacks.settle rank operands (pending marks)) =
      (⟨·, pending (release rank marks).2⟩) <$> run (release rank marks).1 operands := by
  fun_induction release rank marks generalizing operands with
  | case1 op marks binds ih =>
    change plain (Stacks.settle rank operands (.operator op :: pending marks)) = _
    rw [settle_operator _ _ _ _ binds, plain_bind, plain_operate]
    simp only [bind_map_left, ih, run_cons, map_bind]
  | case2 op marks loose =>
    change plain (Stacks.settle rank operands (.operator op :: pending marks)) = _
    rw [Stacks.settle, if_neg loose]
    rfl
  | case3 marks noOperator =>
    match marks with
    | [] | .group none :: _ | .group (some _) :: _ => rfl
    | .operator op :: below => exact absurd rfl (noOperator op below)

private theorem release_operator (op : Operator) (marks : List Mark) :
    release 0 (.operator op :: marks) =
      (.apply (.operator op) :: (release 0 marks).1, (release 0 marks).2) := by
  rw [release, if_pos (Nat.zero_le _)]

theorem plain_feed_operator (op : Operator) (next : Option Token) (marks : List Mark)
    (operands : List Float) :
    plain (Stacks.feed ⟨operands, pending marks⟩ (.operator op) next) =
      (⟨·, pending (.operator op :: (release op.rank marks).2)⟩) <$> run (release op.rank marks).1 operands := by
  have step : Stacks.feed ⟨operands, pending marks⟩ (.operator op) next =
      Stacks.settle op.rank operands (pending marks) >>= fun settled =>
        pure { settled with pending := .operator op :: settled.pending } := by
    rw [Stacks.feed]
    cases Stacks.settle op.rank operands (pending marks) <;> rfl
  rw [step, plain_bind, plain_settle, bind_map_left, map_eq_pure_bind]
  rfl

theorem close_operator (operands : List Float) (op : Operator) (rest : List Token) :
    Stacks.close operands (.operator op :: rest) =
      Stacks.operate op ⟨operands, rest⟩ >>= fun s => Stacks.close s.operands rest := by
  simp only [Stacks.close, Stacks.discharge]
  cases Stacks.operate op ⟨operands, rest⟩ <;> rfl

/-- Only operators can be discharged. -/
theorem discharge_ok {token : Token} {s t : Stacks} (discharged : s.discharge token = .ok t) :
    ∃ op, token = .operator op ∧ s.operate op = .ok t := by
  cases token with
  | operator op => exact ⟨op, rfl, discharged⟩
  | number | function | leftParen | rightParen => cases discharged

/-- Closing is only done at a parenthesis, and with nothing but operators on it. -/
theorem close_opened {operands : List Float} {waiting : List Token} {s : Stacks}
    (closed : Stacks.close operands waiting = .ok s) :
    ∃ (operators : List Operator) (under : List Token), waiting = operators.map .operator ++ .leftParen :: under := by
  fun_induction Stacks.close operands waiting with
  | case1 operands => cases closed
  | case2 operands f rest => exact ⟨[], _, rfl⟩
  | case3 operands under uncalled => exact ⟨[], under, rfl⟩
  | case4 operands token rest inside s' discharged ih =>
    obtain ⟨op, rfl, _⟩ := discharge_ok discharged
    obtain ⟨operators, under, rfl⟩ := ih closed
    exact ⟨op :: operators, under, rfl⟩
  | case5 operands token rest inside halt discharged => cases closed

theorem plain_close (marks : List Mark) (operands : List Float) :
    plain (Stacks.close operands (pending marks)) =
      run (release 0 marks).1 operands >>= fun left =>
        match (release 0 marks).2 with
        | .group f :: below => (⟨·, pending below⟩) <$> run (applied f) left
        | _ => .error .unmatched := by
  induction marks generalizing operands with
  | nil => rfl
  | cons mark marks ih =>
    cases mark with
    | group f =>
      cases f with
      | some f =>
        change plain (Stacks.call f ⟨operands, pending marks⟩) = _
        simp only [plain_call, release, run_nil, applied, run_singleton, pure_bind]
      | none =>
        match marks with
        | [] | .operator _ :: _ | .group none :: _ | .group (some _) :: _ => rfl
    | operator op =>
      change plain (Stacks.close operands (.operator op :: pending marks)) = _
      rw [close_operator, plain_bind, plain_operate, release_operator]
      simp only [bind_map_left, ih, run_cons, bind_assoc]

private theorem finish_operator (operands : List Float) (op : Operator) (rest : List Token) :
    Stacks.finish operands (.operator op :: rest) =
      Stacks.operate op ⟨operands, rest⟩ >>= fun s => Stacks.finish s.operands rest := by
  rw [Stacks.finish, Stacks.discharge]
  cases Stacks.operate op ⟨operands, rest⟩ <;> rfl

theorem plain_finish (marks : List Mark) (operands : List Float) :
    plain (Stacks.finish operands (pending marks)) =
      run (release 0 marks).1 operands >>= fun left =>
        if (release 0 marks).2 = [] then pure ⟨left, []⟩ else .error .unmatched := by
  induction marks generalizing operands with
  | nil => rfl
  | cons mark marks ih =>
    cases mark with
    | group f => cases f <;> rfl
    | operator op =>
      change plain (Stacks.finish operands (.operator op :: pending marks)) = _
      rw [finish_operator, plain_bind, plain_operate, release_operator]
      simp only [bind_map_left, ih, run_cons, bind_assoc]

theorem pending_of_plain {result : Except Halt Stacks} {values : Except Failure (List Float)}
    {tokens : List Token} {s : Stacks} (same : plain result = (⟨·, tokens⟩) <$> values) (reached : result = .ok s) :
    s.pending = tokens := by
  rw [reached, plain_ok] at same
  obtain ⟨operands, _, rfl⟩ := map_ok same.symm
  rfl

/-- The operands that stand on the stack when all tokens are taken in and nothing is pending any more. -/
def conclude (s : Stacks) (tokens : List Token) : Except Failure (List Float) :=
  plain do
    let fed ← s.feedAll tokens
    let finished ← Stacks.finish fed.operands fed.pending
    return finished.operands

theorem conclude_nil (s : Stacks) :
    conclude s [] = Stacks.operands <$> plain (Stacks.finish s.operands s.pending) := by
  rw [conclude]
  change plain (Stacks.finish s.operands s.pending >>= _) = _
  rw [plain_bind, map_eq_pure_bind]
  rfl

theorem feedAll_cons (s : Stacks) (token : Token) (rest : List Token) :
    s.feedAll (token :: rest) = s.feed token rest.head? >>= fun fed => fed.feedAll rest := by
  rw [Stacks.feedAll]
  cases s.feed token rest.head? <;> rfl

theorem conclude_cons (s : Stacks) (token : Token) (rest : List Token) :
    conclude s (token :: rest) = plain (s.feed token rest.head?) >>= fun fed => conclude fed rest := by
  simp only [conclude, feedAll_cons, bind_assoc, plain_bind]

/-- One pass over two stacks and two passes over one stack have the same outcome, from any state that marks can
stand for. -/
theorem conclude_translate (marks : List Mark) (tokens : List Token) (operands : List Float) :
    conclude ⟨operands, pending marks⟩ tokens = (translateFrom marks tokens).outcome operands := by
  fun_induction translateFrom marks tokens generalizing operands with
  | case1 marks =>
    rw [conclude_nil, plain_finish, Translation.outcome, map_bind]
    split <;> rfl
  | case2 marks value rest ih =>
    rw [conclude_cons, Translation.outcome_prepend]
    exact ih (value :: operands)
  | case3 marks rest ih =>
    rw [conclude_cons]
    exact ih operands
  | case4 marks f rest ih =>
    rw [conclude_cons, Stacks.feed, if_pos (List.head?_cons ..)]
    exact (conclude_cons _ _ _).trans (ih operands)
  | case5 marks f rest other =>
    have apart : rest.head? ≠ some .leftParen := by
      intro opened
      obtain ⟨tail, rfl⟩ := List.head?_eq_some_iff.mp opened
      exact other tail rfl
    rw [conclude_cons, Stacks.feed, if_neg apart]
    rfl
  | case6 marks op rest ih =>
    rw [conclude_cons, plain_feed_operator, Translation.outcome_prepend, bind_map_left]
    exact bind_congr ih
  | case7 marks rest f below released ih =>
    rw [conclude_cons, Stacks.feed, plain_close]
    simp only [released, Translation.outcome_prepend, run_append, bind_assoc, bind_map_left, ih]
  | case8 marks rest unopened =>
    rw [conclude_cons, Stacks.feed, plain_close, bind_assoc, Translation.outcome]
    apply bind_congr
    intro left
    split
    next f below released => exact absurd released (unopened f below)
    next => rfl

def sole : List Float → Except Failure Float
  | [value] => .ok value
  | _ => .error .notSingle

theorem reduce_conclude (tokens : List Token) :
    Stacks.reduce tokens = conclude Stacks.empty tokens >>= sole := by
  rw [Stacks.reduce, conclude]
  cases fed : Stacks.empty.feedAll tokens with
  | error halt => rfl
  | ok s =>
    cases finished : Stacks.finish s.operands s.pending with
    | error halt => simp only [finished, plain_error, bind, Except.bind]
    | ok last =>
      obtain ⟨left, pending⟩ := last
      simp only [finished, plain_ok, bind, Except.bind, pure, Except.pure]
      rcases left with _ | ⟨_, _ | ⟨_, _⟩⟩ <;> rfl

theorem reduce_translate (tokens : List Token) :
    Stacks.reduce tokens = (translateFrom [] tokens).outcome [] >>= sole := by
  rw [reduce_conclude]
  exact congrArg (· >>= sole) (conclude_translate [] tokens [])

theorem sole_ok_iff {left : List Float} {value : Float} : sole left = .ok value ↔ left = [value] := by
  rcases left with _ | ⟨first, _ | ⟨second, rest⟩⟩ <;> simp [sole]

theorem reduce_ok_iff {tokens : List Token} {value : Float} :
    Stacks.reduce tokens = .ok value ↔
      run (translateFrom [] tokens).code [] = .ok [value] ∧ (translateFrom [] tokens).stopped = none := by
  rw [reduce_translate, Translation.outcome]
  cases run (translateFrom [] tokens).code [] with
  | error failure => simp [bind, Except.bind]
  | ok left =>
    cases (translateFrom [] tokens).stopped with
    | some failure => simp [bind, Except.bind]
    | none =>
      rw [Except.ok.injEq, and_iff_left rfl]
      exact sole_ok_iff

/-- Whatever the tokens, an evaluation reports the first failure that running the translated code meets, else the
reason why the translation stopped, else that not one value is left, else that value. -/
theorem reduce_eq_two_phases (tokens : List Token) :
    Stacks.reduce tokens =
      match run (translateFrom [] tokens).code [], (translateFrom [] tokens).stopped with
      | .error failure, _ => .error failure
      | .ok _, some failure => .error failure
      | .ok [value], none => .ok value
      | .ok _, none => .error .notSingle := by
  rw [reduce_translate, Translation.outcome]
  cases run (translateFrom [] tokens).code [] with
  | error failure => rfl
  | ok left =>
    cases (translateFrom [] tokens).stopped with
    | some failure => rfl
    | none => rcases left with _ | ⟨_, _ | ⟨_, _⟩⟩ <;> rfl

end Reckoner.Proofs.TwoPhase
