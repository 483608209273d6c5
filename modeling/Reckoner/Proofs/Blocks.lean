import Mathlib.Data.List.Chain
import Mathlib.Data.List.Perm.Subperm
import Reckoner.Proofs.Codes
import Reckoner.Proofs.Grammar
import Reckoner.Proofs.Height
import Reckoner.Proofs.Tiling

/-! How pending tokens lie on one another, between any two tokens of a formula. Every open group has a block of its own:
operators that bind ever more tightly, and the function whose argument the next group is. So whatever is taken off in a
group is an operator, and only a parenthesis that is never closed can be found at the end. -/

namespace Reckoner.Proofs.Blocks
open Postfix TwoPhase Grammar

/-- The stacks in an evaluation of the tokens when those of `front` were taken in without a failure, and those of `rest`
are still to come. -/
inductive After (tokens : List Token) : List Token → List Token → Stacks → Prop
  | start : After tokens [] tokens .empty
  | step {front rest : List Token} {token : Token} {s fed : Stacks} (after : After tokens front (token :: rest) s)
      (taken : s.feed token rest.head? = .ok fed) : After tokens (front ++ [token]) rest fed

/-- The operators of one group that wait for their right operands, from the bottom up, and the function that is called
with the next group. -/
structure Block where
  operators : List Operator
  function : Option Func
  deriving DecidableEq

def Block.tokens (block : Block) : List Token :=
  block.operators.map .operator ++ (block.function.map .function).toList

structure Block.Rising (block : Block) : Prop where
  ranks : block.operators.Pairwise fun lower upper => lower.rank < upper.rank

/-- Blocks from the bottom up, with a parenthesis between any two. -/
def stacked (blocks : List Block) : List Token :=
  [Token.leftParen].intercalate (blocks.map Block.tokens)

/-- The pending tokens when `front` was taken in. A function that no parenthesis lies on is the last token of it. -/
structure Laid (front pending : List Token) (blocks : List Block) : Prop where
  whole : pending.reverse = stacked blocks
  rising : ∀ block ∈ blocks, block.Rising
  few : ∀ block ∈ blocks, block.operators.length ≤ 3
  called : ∀ top ∈ blocks.getLast?, ∀ f ∈ top.function, front.getLast? = some (.function f)
  unclosed : pending.count .leftParen + front.count .rightParen = front.count .leftParen

/-- Taking pending tokens off one by one comes to this one, which is to be discharged on these stacks. -/
inductive Comes : List Float → List Token → Token → Stacks → Prop
  | first (operands : List Float) (token : Token) (rest : List Token) :
      Comes operands (token :: rest) token ⟨operands, rest⟩
  | later {operands : List Float} {token last : Token} {rest : List Token} {s left : Stacks}
      (discharged : Stacks.discharge token ⟨operands, rest⟩ = .ok s) (comes : Comes s.operands rest last left) :
      Comes operands (token :: rest) last left

/-- An evaluation of the tokens discharges this one: when a group is closed, on the way down to its parenthesis, or
when all tokens are taken in. -/
inductive Discharged (tokens : List Token) (token : Token) (left : Stacks) : Prop
  | closing (front rest : List Token) (s : Stacks) (after : After tokens front (.rightParen :: rest) s)
      (comes : Comes s.operands s.pending token left) (inside : token ≠ .leftParen)
  | ending (s : Stacks) (after : After tokens tokens [] s) (comes : Comes s.operands s.pending token left)

/-- Of two operators in one group the upper one binds more tightly. -/
def Above : Mark → Mark → Prop
  | .operator upper, .operator lower => lower.rank < upper.rank
  | _, _ => True

def Rising (marks : List Mark) : Prop :=
  marks.IsChain Above

theorem release_suffix (rank : Nat) (marks : List Mark) : (release rank marks).2 <:+ marks := by
  fun_induction release rank marks with
  | case1 op marks binds ih => exact ih.trans (List.suffix_cons _ _)
  | case2 op marks loose => exact List.suffix_rfl
  | case3 marks noOperator => exact List.suffix_rfl

theorem release_head {rank : Nat} {marks below : List Mark} {op : Operator}
    (released : (release rank marks).2 = .operator op :: below) : op.rank < rank := by
  fun_induction release rank marks with
  | case1 other marks binds ih => exact ih released
  | case2 other marks loose =>
    cases released
    exact Nat.lt_of_not_le loose
  | case3 marks noOperator => exact absurd released (noOperator op below)

theorem Rising.release {marks : List Mark} (rising : Rising marks) (rank : Nat) : Rising (release rank marks).2 :=
  List.IsChain.suffix rising (release_suffix rank marks)

theorem Rising.push {marks : List Mark} (rising : Rising marks) (op : Operator) :
    Rising (.operator op :: (Postfix.release op.rank marks).2) := by
  have kept := rising.release op.rank
  rcases released : (Postfix.release op.rank marks).2 with _ | ⟨mark, below⟩
  · exact .singleton _
  · rw [released] at kept
    refine .cons_cons ?_ kept
    cases mark with
    | operator lower => exact release_head released
    | group f => trivial

theorem count_pending (marks : List Mark) : (pending marks).count .leftParen = depth marks := by
  induction marks with
  | nil => rfl
  | cons mark marks ih =>
    rw [pending, List.flatMap_cons, List.count_append, ← pending, ih]
    rcases mark with op | _ | f
    · exact Nat.zero_add _
    · exact Nat.add_comm 1 _
    · exact Nat.add_comm 1 _

/-- The blocks of marks, where `above` are the operators on top of these. -/
def blocks (above : List Operator) (called : Option Func) : List Mark → List Block
  | [] => [⟨above, called⟩]
  | .operator op :: marks => blocks (op :: above) called marks
  | .group f :: marks => blocks [] f marks ++ [⟨above, called⟩]

theorem blocks_last (above : List Operator) (called : Option Func) (marks : List Mark) :
    ∃ operators, (blocks above called marks).getLast? = some ⟨operators, called⟩ := by
  fun_induction blocks above called marks with
  | case1 above called => exact ⟨above, rfl⟩
  | case2 above called op marks ih => exact ih
  | case3 above called f marks ih => exact ⟨above, List.getLast?_concat⟩

theorem stacked_concat {below : List Block} (some : below ≠ []) (top : Block) :
    stacked (below ++ [top]) = stacked below ++ .leftParen :: top.tokens := by
  induction below with
  | nil => exact absurd rfl some
  | cons block below ih =>
    rcases eq_or_ne below [] with rfl | more
    · simp [stacked, List.intercalate]
    · obtain ⟨next, others, rfl⟩ := List.exists_cons_of_ne_nil more
      have rest := ih more
      simp only [stacked, List.map_cons, List.cons_append, List.intercalate_cons_cons] at rest ⊢
      rw [rest]
      simp

theorem pending_stacked (above : List Operator) (called : Option Func) (marks : List Mark) :
    (pending marks).reverse ++ (Block.mk above called).tokens = stacked (blocks above called marks) := by
  fun_induction blocks above called marks with
  | case1 above called => simp [stacked, pending, List.intercalate]
  | case2 above called op marks ih =>
    rw [← ih]
    simp [pending, written, Block.tokens]
  | case3 above called f marks ih =>
    have some : blocks [] f marks ≠ [] := by
      obtain ⟨operators, last⟩ := blocks_last [] f marks
      rintro empty
      rw [empty] at last
      cases last
    rw [stacked_concat some, ← ih]
    cases f <;> simp [pending, written, Block.tokens]

theorem blocks_rising {above : List Operator} {called : Option Func} {marks : List Mark} (rising : Rising marks)
    (ranks : above.Pairwise fun lower upper => lower.rank < upper.rank)
    (under : ∀ op, marks.head? = some (.operator op) → ∀ upper ∈ above, op.rank < upper.rank) :
    ∀ block ∈ blocks above called marks, block.Rising := by
  fun_induction blocks above called marks with
  | case1 above called =>
    intro block member
    rw [List.mem_singleton.mp member]
    exact ⟨ranks⟩
  | case2 above called op marks ih =>
    have less := under op rfl
    refine ih rising.tail (List.pairwise_cons.mpr ⟨less, ranks⟩) ?_
    intro lower top upper member
    obtain ⟨below, rfl⟩ := List.head?_eq_some_iff.mp top
    have first : lower.rank < op.rank := (List.isChain_cons_cons.mp rising).1
    rcases List.mem_cons.mp member with rfl | member
    · exact first
    · exact first.trans (less upper member)
  | case3 above called f marks ih =>
    intro block member
    rcases List.mem_append.mp member with lower | top
    · exact ih rising.tail .nil (fun _ _ _ none => absurd none List.not_mem_nil) block lower
    · rw [List.mem_singleton.mp top]
      exact ⟨ranks⟩

/-- There are three ranks. -/
theorem Block.Rising.few {block : Block} (rising : block.Rising) : block.operators.length ≤ 3 := by
  have distinct : (block.operators.map Operator.rank).Nodup :=
    List.pairwise_map.mpr (rising.ranks.imp Nat.ne_of_lt)
  have known : block.operators.map Operator.rank ⊆ [1, 2, 3] := by
    intro rank member
    obtain ⟨op, _, rfl⟩ := List.mem_map.mp member
    cases op <;> decide
  simpa using (List.subperm_of_subset distinct known).length_le

/-- What a token makes of marks, when `next` follows it: other marks, and perhaps a function whose parenthesis comes
next. -/
inductive Turns (marks : List Mark) (next : Option Token) : Token → Option Func → List Mark → Prop
  | number (value : Float) : Turns marks next (.number value) none marks
  | operator (op : Operator) : Turns marks next (.operator op) none (.operator op :: (release op.rank marks).2)
  | function (f : Func) (opens : next = some .leftParen) : Turns marks next (.function f) (some f) marks
  | leftParen : Turns marks next .leftParen none (.group none :: marks)
  | rightParen (f : Option Func) (below : List Mark) (released : (release 0 marks).2 = .group f :: below) :
      Turns marks next .rightParen none below

theorem feed_turns {marks : List Mark} {operands : List Float} {token : Token} {next : Option Token} {fed : Stacks}
    (taken : Stacks.feed ⟨operands, pending marks⟩ token next = .ok fed) :
    ∃ called marks', Turns marks next token called marks' ∧
      fed.pending = (called.map Token.function).toList ++ pending marks' := by
  cases token with
  | number value =>
    cases taken
    exact ⟨none, marks, .number value, rfl⟩
  | leftParen =>
    cases taken
    exact ⟨none, _, .leftParen, rfl⟩
  | function f =>
    rw [Stacks.feed] at taken
    split at taken
    next opens =>
      cases taken
      exact ⟨some f, marks, .function f opens, rfl⟩
    next => cases taken
  | operator op =>
    exact ⟨none, _, .operator op, pending_of_plain (plain_feed_operator op next marks operands) taken⟩
  | rightParen =>
    have closed := plain_close marks operands
    rw [Stacks.feed] at taken
    rcases release_zero marks with none | ⟨f, below, released⟩
    · rw [none, taken] at closed
      obtain ⟨left, _, unmatched⟩ := bind_ok closed.symm
      cases unmatched
    · simp only [released, ← map_bind] at closed
      exact ⟨none, below, .rightParen f below released, pending_of_plain closed taken⟩

theorem Turns.rising {marks marks' : List Mark} {token : Token} {next : Option Token} {called : Option Func}
    (turns : Turns marks next token called marks') (rising : Rising marks) : Rising marks' := by
  cases turns with
  | number | function => exact rising
  | operator op => exact rising.push op
  | leftParen => exact rising.cons fun _ _ => trivial
  | rightParen f below released =>
    have kept := rising.release 0
    rw [released] at kept
    exact kept.tail

theorem Turns.depth {marks marks' : List Mark} {token : Token} {next : Option Token} {called : Option Func}
    (turns : Turns marks next token called marks') :
    depth marks' + [token].count .rightParen = depth marks + [token].count .leftParen := by
  cases turns with
  | number | function | leftParen => rfl
  | operator op => exact release_depth op.rank marks
  | rightParen f below released =>
    have same := release_depth 0 marks
    rw [released] at same
    exact same

/-- What waits is what marks stand for. A function just taken in lies on top of that, and its parenthesis comes next. -/
structure Waits (front rest : List Token) (s : Stacks) (called : Option Func) (marks : List Mark) : Prop where
  waiting : s.pending = (called.map Token.function).toList ++ pending marks
  rising : Rising marks
  unclosed : depth marks + front.count .rightParen = front.count .leftParen
  last : ∀ f ∈ called, front.getLast? = some (.function f)
  next : ∀ f ∈ called, rest.head? = some .leftParen

theorem Waits.step {front rest : List Token} {token : Token} {s fed : Stacks} {called : Option Func}
    {marks : List Mark} (waits : Waits front (token :: rest) s called marks)
    (taken : s.feed token rest.head? = .ok fed) : ∃ called' marks', Waits (front ++ [token]) rest fed called' marks' := by
  obtain ⟨operands, waiting⟩ := s
  obtain ⟨rfl, rising, unclosed, last, next⟩ := waits
  have count (kind : Token) : (front ++ [token]).count kind = front.count kind + [token].count kind :=
    List.count_append
  cases called with
  | some f =>
    obtain rfl : token = .leftParen := by simpa using next f rfl
    cases taken
    refine ⟨none, .group (some f) :: marks, rfl, rising.cons fun _ _ => trivial, ?_, nofun, nofun⟩
    have one : [Token.leftParen].count .leftParen = 1 := rfl
    have none : [Token.leftParen].count .rightParen = 0 := rfl
    rw [count, count, depth]
    omega
  | none =>
    obtain ⟨called, marks', turns, waiting⟩ := feed_turns taken
    refine ⟨called, marks', waiting, turns.rising rising, ?_, ?_, ?_⟩
    · have same := turns.depth
      rw [count, count]
      omega
    · intro f member
      cases turns <;> cases member
      exact List.getLast?_concat
    · intro f member
      cases turns <;> cases member
      assumption

theorem After.waits {tokens front rest : List Token} {s : Stacks} (after : After tokens front rest s) :
    ∃ called marks, Waits front rest s called marks := by
  induction after with
  | start => exact ⟨none, [], rfl, .nil, rfl, nofun, nofun⟩
  | step after taken ih =>
    obtain ⟨called, marks, waits⟩ := ih
    exact waits.step taken

theorem Waits.laid {front rest : List Token} {s : Stacks} {called : Option Func} {marks : List Mark}
    (waits : Waits front rest s called marks) : Laid front s.pending (blocks [] called marks) := by
  have rising : ∀ block ∈ blocks [] called marks, block.Rising :=
    blocks_rising waits.rising .nil fun _ _ _ none => absurd none List.not_mem_nil
  refine ⟨?_, rising, fun block member => (rising block member).few, ?_, ?_⟩
  · rw [← pending_stacked, waits.waiting, List.reverse_append]
    cases called <;> rfl
  · obtain ⟨operators, last⟩ := blocks_last [] called marks
    intro top member f given
    cases last.symm.trans member
    exact waits.last f given
  · have none : (called.map Token.function).toList.count .leftParen = 0 := by cases called <;> rfl
    rw [waits.waiting, List.count_append, count_pending, none, Nat.zero_add]
    exact waits.unclosed

theorem comes_marks {marks : List Mark} {operands : List Float} {token : Token} {left : Stacks}
    (comes : Comes operands (pending marks) token left) :
    (∃ op, token = .operator op) ∨ token = .leftParen ∧ depth marks ≠ 0 := by
  induction marks generalizing operands with
  | nil => cases comes
  | cons mark marks ih =>
    cases mark with
    | operator op =>
      change Comes operands (.operator op :: pending marks) token left at comes
      cases comes with
      | first => exact .inl ⟨op, rfl⟩
      | later discharged comes => exact ih comes
    | group f =>
      obtain ⟨under, shape⟩ : ∃ under, pending (.group f :: marks) = .leftParen :: under := by
        cases f <;> exact ⟨_, rfl⟩
      rw [shape] at comes
      cases comes with
      | first => exact .inr ⟨rfl, Nat.succ_ne_zero _⟩
      | later discharged comes => cases discharged

theorem Waits.pending_eq {front rest : List Token} {s : Stacks} {called : Option Func} {marks : List Mark}
    (waits : Waits front rest s called marks) (other : rest.head? ≠ some .leftParen) :
    s.pending = pending marks := by
  cases called with
  | none => exact waits.waiting
  | some f => exact absurd (waits.next f rfl) other

/-- Nothing but operators is discharged, unless some parenthesis is left open at the end. -/
theorem Discharged.token_cases {tokens : List Token} {token : Token} {left : Stacks}
    (discharged : Discharged tokens token left) :
    (∃ op, token = .operator op) ∨
      token = .leftParen ∧ tokens.count .leftParen ≠ tokens.count .rightParen := by
  cases discharged with
  | closing front rest s after comes inside =>
    obtain ⟨called, marks, waits⟩ := after.waits
    rw [waits.pending_eq (by simp)] at comes
    exact .inl ((comes_marks comes).resolve_right fun other => inside other.1)
  | ending s after comes =>
    obtain ⟨called, marks, waits⟩ := after.waits
    rw [waits.pending_eq nofun] at comes
    refine (comes_marks comes).imp_right fun ⟨same, deep⟩ => ⟨same, ?_⟩
    have unclosed := waits.unclosed
    omega

theorem settle_error {rank : Nat} {operands : List Float} {waiting : List Token} {halt : Halt}
    (failed : Stacks.settle rank operands waiting = .error halt) :
    ∃ op s, Stacks.operate op s = .error halt := by
  fun_induction Stacks.settle rank operands waiting with
  | case1 operands op rest binds s discharged ih => exact ih failed
  | case2 operands op rest binds halt' discharged =>
    cases failed
    exact ⟨op, _, discharged⟩
  | case3 | case4 => cases failed

theorem finish_error {operands : List Float} {waiting : List Token} {halt : Halt}
    (failed : Stacks.finish operands waiting = .error halt) :
    ∃ token left, Comes operands waiting token left ∧ Stacks.discharge token left = .error halt := by
  fun_induction Stacks.finish operands waiting with
  | case1 => cases failed
  | case2 operands token rest s discharged ih =>
    obtain ⟨last, left, comes, fails⟩ := ih failed
    exact ⟨last, left, .later discharged comes, fails⟩
  | case3 operands token rest halt' discharged =>
    cases failed
    exact ⟨token, _, .first .., discharged⟩

theorem close_error {operands : List Float} {waiting : List Token} {halt : Halt}
    (failed : Stacks.close operands waiting = .error halt) :
    (∃ token left, token ≠ .leftParen ∧ Comes operands waiting token left ∧
      Stacks.discharge token left = .error halt) ∨
    (∃ f left, Stacks.call f left = .error halt) ∨ (.leftParen ∉ waiting ∧ halt.failure = .unmatched) := by
  fun_induction Stacks.close operands waiting with
  | case1 operands =>
    cases failed
    exact .inr (.inr ⟨List.not_mem_nil, rfl⟩)
  | case2 operands f below => exact .inr (.inl ⟨f, _, failed⟩)
  | case3 => cases failed
  | case4 operands token rest closing s discharged ih =>
    have inside : token ≠ .leftParen := closing
    rcases ih failed with ⟨last, left, other, comes, fails⟩ | called | ⟨unopened, unmatched⟩
    · exact .inl ⟨last, left, other, .later discharged comes, fails⟩
    · exact .inr (.inl called)
    · refine .inr (.inr ⟨?_, unmatched⟩)
      exact List.not_mem_cons_of_ne_of_not_mem inside.symm unopened
  | case5 operands token rest closing halt' discharged =>
    cases failed
    exact .inl ⟨token, _, closing, .first .., discharged⟩

/-- All that can stop an evaluation: a symbol without operands or outside of its domain, a function without its
parenthesis, a parenthesis without its partner, and more or less than one value at the end. -/
inductive Cause (tokens : List Token) : Failure → Prop
  | applied (symbol : Symbol) (operands : List Float) (failure : Failure)
      (fails : (Instruction.apply symbol).execute operands = .error failure) : Cause tokens failure
  | bare (f : Func) (front rest : List Token) (s : Stacks) (after : After tokens front (.function f :: rest) s)
      (other : rest.head? ≠ some .leftParen) : Cause tokens (.missingArgument f)
  | unopened (front rest : List Token) (s left : Stacks) (after : After tokens front (.rightParen :: rest) s)
      (none : .leftParen ∉ s.pending) (refused : s.feed .rightParen rest.head? = .error ⟨.unmatched, left⟩) :
      Cause tokens .unmatched
  | unclosed (apart : tokens.count .leftParen ≠ tokens.count .rightParen) : Cause tokens .unmatched
  | crowded : Cause tokens .notSingle

theorem operate_cause {op : Operator} {s : Stacks} {halt : Halt} (failed : s.operate op = .error halt)
    (tokens : List Token) : Cause tokens halt.failure := by
  have same := plain_operate op s.operands s.pending
  rw [failed, plain_error] at same
  exact .applied (.operator op) s.operands _ (map_error same.symm)

theorem call_cause {f : Func} {s : Stacks} {halt : Halt} (failed : s.call f = .error halt) (tokens : List Token) :
    Cause tokens halt.failure := by
  have same := plain_call f s.operands s.pending
  rw [failed, plain_error] at same
  exact .applied (.function f) s.operands _ (map_error same.symm)

variable {tokens front rest : List Token} {token : Token} {s : Stacks} {halt : Halt}

theorem Discharged.cause {left : Stacks} (discharged : Discharged tokens token left)
    (failed : Stacks.discharge token left = .error halt) : Cause tokens halt.failure := by
  rcases discharged.token_cases with ⟨op, rfl⟩ | ⟨rfl, apart⟩
  · exact operate_cause failed tokens
  · cases failed
    exact .unclosed apart

theorem feed_cause (after : After tokens front (token :: rest) s) (failed : s.feed token rest.head? = .error halt) :
    Cause tokens halt.failure := by
  cases token with
  | number value | leftParen => cases failed
  | operator op =>
    rw [Stacks.feed] at failed
    split at failed
    next => cases failed
    next stop settled =>
      cases failed
      obtain ⟨op, left, fails⟩ := settle_error settled
      exact operate_cause fails tokens
  | function f =>
    rw [Stacks.feed] at failed
    split at failed
    next => cases failed
    next other =>
      cases failed
      exact .bare f front rest s after other
  | rightParen =>
    rcases close_error failed with ⟨token, left, inside, comes, fails⟩ | ⟨f, left, fails⟩ | ⟨unopened, unmatched⟩
    · exact (Discharged.closing front rest s after comes inside).cause fails
    · exact call_cause fails tokens
    · obtain ⟨failure, left⟩ := halt
      obtain rfl : failure = .unmatched := unmatched
      exact .unopened front rest s left after unopened failed

/-- From any point on, the tokens to come are all taken in, or one of them is not. -/
theorem After.feedAll (after : After tokens front rest s) :
    (∃ last, s.feedAll rest = .ok last ∧ After tokens (front ++ rest) [] last) ∨
    ∃ halt, s.feedAll rest = .error halt ∧ Cause tokens halt.failure := by
  induction rest generalizing front s with
  | nil =>
    refine .inl ⟨s, rfl, ?_⟩
    rwa [List.append_nil]
  | cons token rest ih =>
    rw [feedAll_cons]
    cases taken : s.feed token rest.head? with
    | error halt => exact .inr ⟨halt, rfl, feed_cause after taken⟩
    | ok fed =>
      have next := ih (after.step taken)
      rwa [List.append_assoc] at next

theorem reduce_cause {failure : Failure} (failed : Stacks.reduce tokens = .error failure) : Cause tokens failure := by
  rw [Stacks.reduce] at failed
  rcases After.start.feedAll with ⟨last, fed, after⟩ | ⟨halt, fed, cause⟩
  · rw [fed] at failed
    dsimp only at failed
    split at failed
    next halt finished =>
      cases failed
      obtain ⟨token, left, comes, fails⟩ := finish_error finished
      exact (Discharged.ending last after comes).cause fails
    next finished _ =>
      split at failed
      next => cases failed
      next =>
        cases failed
        exact .crowded
  · rw [fed] at failed
    cases failed
    exact cause

theorem bare_of_missingArgument {f : Func} (cause : Cause tokens (.missingArgument f)) :
    ∃ front rest s, After tokens front (.function f :: rest) s ∧ rest.head? ≠ some .leftParen := by
  cases cause with
  | applied symbol operands _ fails => rcases Height.execute_failure fails with same | domain <;> contradiction
  | bare _ front rest s after other => exact ⟨front, rest, s, after, other⟩

theorem unopened_of_unmatched (cause : Cause tokens .unmatched)
    (balanced : tokens.count .leftParen = tokens.count .rightParen) :
    ∃ front rest s left, After tokens front (.rightParen :: rest) s ∧ .leftParen ∉ s.pending ∧
      front.count .leftParen = front.count .rightParen ∧
      s.feed .rightParen rest.head? = .error ⟨.unmatched, left⟩ := by
  cases cause with
  | applied symbol operands _ fails => rcases Height.execute_failure fails with same | domain <;> contradiction
  | unopened front rest s left after none refused =>
    obtain ⟨called, marks, waits⟩ := after.waits
    have shallow : depth marks = 0 := by
      rw [← count_pending, ← waits.pending_eq (by simp)]
      exact List.count_eq_zero.mpr none
    have unclosed := waits.unclosed
    refine ⟨front, rest, s, left, after, none, ?_, refused⟩
    omega
  | unclosed apart => exact absurd balanced apart

/-- Among the failures of evaluations the message belongs to one alone. -/
theorem unmatched_of_message {failure : Failure} (evaluation : Codes.Evaluation failure)
    (same : failure.message = Failure.unmatched.message) : failure = .unmatched := by
  cases failure with
  | unmatched => rfl
  | unknownOperator f => exact absurd rfl (evaluation.known f)
  | missingOperand symbol =>
    cases symbol with
    | operator op => cases op <;> exact absurd same (by decide)
    | function f => cases f <;> exact absurd same (by decide)
  | missingArgument f => cases f <;> exact absurd same (by decide)
  | blank | tooLong | unbalanced | manyPoints | trailingPoint | invalidCharacter =>
    exact absurd evaluation.code (by simp [Failure.code, Codes.undefined])
  | _ => exact absurd same (by decide)

/-- After every part of the tokens that is taken in, the pending ones lie in blocks. Hence no function is ever
discharged, and a function without its parenthesis is only found when it is read. If the tokens are those of a text,
then only operators are discharged, and mismatched parentheses are only found where one closes that none has opened. -/
theorem evaluation_laid (tokens : List Token) :
    (∀ front rest s, After tokens front rest s → ∃ blocks, Laid front s.pending blocks) ∧
    (∀ f left, ¬ Discharged tokens (.function f) left) ∧
    (∀ f, Stacks.reduce tokens = .error (.missingArgument f) →
      ∃ front rest s, After tokens front (.function f :: rest) s ∧ rest.head? ≠ some .leftParen) ∧
    ∀ settings source, Formula.tokens settings source = .ok tokens →
      (∀ token left, Discharged tokens token left → ∃ op, token = .operator op) ∧
      ∀ failure, Stacks.reduce tokens = .error failure → failure.message = Failure.unmatched.message →
        ∃ front rest s left, After tokens front (.rightParen :: rest) s ∧ .leftParen ∉ s.pending ∧
          front.count .leftParen = front.count .rightParen ∧
          s.feed .rightParen rest.head? = .error ⟨failure, left⟩ := by
  refine ⟨fun front rest s after => ?_, fun f left discharged => ?_, fun f failed => ?_, ?_⟩
  · obtain ⟨called, marks, waits⟩ := after.waits
    exact ⟨_, waits.laid⟩
  · rcases discharged.token_cases with ⟨op, same⟩ | ⟨same, _⟩ <;> cases same
  · exact bare_of_missingArgument (reduce_cause failed)
  · intro settings source scanned
    have balanced := Tiling.tokens_balanced scanned
    refine ⟨fun token left discharged => ?_, fun failure failed message => ?_⟩
    · exact discharged.token_cases.resolve_right fun ⟨_, apart⟩ => apart balanced
    · obtain rfl := unmatched_of_message (Codes.reduce_error failed) message
      exact unopened_of_unmatched (reduce_cause failed) balanced

/-- The sum waits below the product, and the product below the function that has just opened its argument. -/
def nested : List Token :=
  [.number 1, .operator .add, .number 2, .operator .mul, .function .sin, .leftParen, .number 3, .operator .pow]

/-- The second parenthesis is open at the end, but the first one stops the evaluation before. -/
def stray : List Token :=
  [.number 2, .operator .mul, .number 3, .rightParen, .operator .add, .function .ln, .leftParen, .number 4]

theorem evaluation_laid_nested :
    After nested nested []
      ⟨[3, 2, 1], [.operator .pow, .leftParen, .function .sin, .operator .mul, .operator .add]⟩ ∧
    (∃ blocks, Laid nested [.operator .pow, .leftParen, .function .sin, .operator .mul, .operator .add] blocks) ∧
    Stacks.reduce [.function .sin, .number 0] = .error (.missingArgument .sin) ∧
    (∃ front rest s, After [.function .sin, .number 0] front (.function .sin :: rest) s ∧
      rest.head? ≠ some .leftParen) ∧
    Formula.tokens {} (some "2*3) + ln(4") = .ok stray ∧ Discharged stray (.operator .mul) ⟨[3, 2], []⟩ ∧
    (∃ op, Token.operator .mul = .operator op) ∧ Stacks.reduce stray = .error .unmatched ∧
    ∃ front rest s left, After stray front (.rightParen :: rest) s ∧ .leftParen ∉ s.pending ∧
      front.count .leftParen = front.count .rightParen ∧
      s.feed .rightParen rest.head? = .error ⟨.unmatched, left⟩ := by
  have after : After nested nested []
      ⟨[3, 2, 1], [.operator .pow, .leftParen, .function .sin, .operator .mul, .operator .add]⟩ :=
    .step (.step (.step (.step (.step (.step (.step (.step .start rfl) rfl) rfl) rfl) rfl) rfl) rfl) rfl
  have bare : Stacks.reduce [.function .sin, .number 0] = .error (.missingArgument .sin) := rfl
  have scanned : Formula.tokens {} (some "2*3) + ln(4") = .ok stray := by decide +kernel
  have discharged : Discharged stray (.operator .mul) ⟨[3, 2], []⟩ :=
    .closing [.number 2, .operator .mul, .number 3] [.operator .add, .function .ln, .leftParen, .number 4]
      ⟨[3, 2], [.operator .mul]⟩ (.step (.step (.step .start rfl) rfl) rfl) (.first ..) nofun
  have failed : Stacks.reduce stray = .error .unmatched := by decide +kernel
  refine ⟨after, ?_, bare, ?_, scanned, discharged, ?_, failed, ?_⟩
  · exact (evaluation_laid nested).1 nested [] _ after
  · exact (evaluation_laid [.function .sin, .number 0]).2.2.1 .sin bare
  · exact ((evaluation_laid stray).2.2.2 {} _ scanned).1 _ _ discharged
  · exact ((evaluation_laid stray).2.2.2 {} _ scanned).2 .unmatched failed rfl

end Reckoner.Proofs.Blocks
