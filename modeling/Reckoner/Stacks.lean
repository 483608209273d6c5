import Reckoner.Failure

/-! Two stacks under an evaluation: values, and operators that wait for their right operand. What a step pops before
it fails stays popped, so a failure carries the stacks it left behind. -/

namespace Reckoner

/-- A square is a product, and so is rounded only once. -/
def power (base exponent : Float) : Float :=
  if exponent == 2 then base * base else base.pow exponent

def Operator.apply (op : Operator) (left right : Float) : Except Failure Float :=
  match op with
  | .add => .ok (left + right)
  | .sub => .ok (left - right)
  | .mul => .ok (left * right)
  | .div => if right == 0 then .error .divisionByZero else .ok (left / right)
  | .pow => .ok (power left right)

/-- A number that is none is in no function's forbidden range. -/
def Func.apply (f : Func) (x : Float) : Except Failure Float :=
  match f with
  | .sin => .ok x.sin
  | .cos => .ok x.cos
  | .tan => .ok x.tan
  | .sqrt => if x < 0 then .error .negativeRoot else .ok x.sqrt
  | .log => if x ≤ 0 then .error .nonPositiveLog else .ok x.log10
  | .ln => if x ≤ 0 then .error .nonPositiveLn else .ok x.log

/-- Both stacks with their top first. -/
structure Stacks where
  operands : List Float
  pending : List Token

structure Halt where
  failure : Failure
  left : Stacks

namespace Stacks

def empty : Stacks := ⟨[], []⟩

/-- The right operand lies on top. If either operand is missing, none is left. -/
def operate (op : Operator) (s : Stacks) : Except Halt Stacks :=
  match s.operands with
  | right :: left :: rest =>
    match op.apply left right with
    | .ok value => .ok { s with operands := value :: rest }
    | .error failure => .error ⟨failure, { s with operands := rest }⟩
  | _ => .error ⟨.missingOperand (.operator op), { s with operands := [] }⟩

def call (f : Func) (s : Stacks) : Except Halt Stacks :=
  match s.operands with
  | x :: rest =>
    match f.apply x with
    | .ok value => .ok { s with operands := value :: rest }
    | .error failure => .error ⟨failure, { s with operands := rest }⟩
  | [] => .error ⟨.missingOperand (.function f), s⟩

/-- A symbol used as an operator. A function takes two operands like any operator before it is found unfit. -/
def operateWith (symbol : Symbol) (s : Stacks) : Except Halt Stacks :=
  match symbol with
  | .operator op => s.operate op
  | .function f =>
    match s.operands with
    | _ :: _ :: rest => .error ⟨.unknownOperator f, { s with operands := rest }⟩
    | _ => .error ⟨.missingOperand (.function f), { s with operands := [] }⟩

/-- What becomes of a pending token outside the group it was pushed in. -/
def discharge (token : Token) (s : Stacks) : Except Halt Stacks :=
  match token with
  | .operator op => s.operate op
  | .function f => .error ⟨.missingArgument f, s⟩
  | _ => .error ⟨.unmatched, s⟩

/-- Closes the innermost group: applies what is pending in it, drops its parenthesis, and applies the function
whose argument it was, if there is one. -/
def close (operands : List Float) : List Token → Except Halt Stacks
  | [] => .error ⟨.unmatched, ⟨operands, []⟩⟩
  | .leftParen :: rest =>
    match rest with
    | .function f :: below => call f ⟨operands, below⟩
    | _ => .ok ⟨operands, rest⟩
  | token :: rest =>
    match discharge token ⟨operands, rest⟩ with
    | .ok s => close s.operands rest
    | .error halt => .error halt

/-- Applies pending operators that bind at least as tightly as `rank`, which makes all operators group to
the left. -/
def settle (rank : Nat) (operands : List Float) : List Token → Except Halt Stacks
  | .operator op :: rest =>
    if rank ≤ op.rank then
      match operate op ⟨operands, rest⟩ with
      | .ok s => settle rank s.operands rest
      | .error halt => .error halt
    else .ok ⟨operands, .operator op :: rest⟩
  | pending => .ok ⟨operands, pending⟩

/-- Applies all that is pending. -/
def finish (operands : List Float) : List Token → Except Halt Stacks
  | [] => .ok ⟨operands, []⟩
  | token :: rest =>
    match discharge token ⟨operands, rest⟩ with
    | .ok s => finish s.operands rest
    | .error halt => .error halt

/-- Takes in one token. A function must stand right before a parenthesis, hence the look at the next token. -/
def feed (s : Stacks) (token : Token) (next : Option Token) : Except Halt Stacks :=
  match token with
  | .number value => .ok { s with operands := value :: s.operands }
  | .leftParen => .ok { s with pending := .leftParen :: s.pending }
  | .rightParen => close s.operands s.pending
  | .function f =>
    if next = some .leftParen then .ok { s with pending := .function f :: s.pending }
    else .error ⟨.missingArgument f, s⟩
  | .operator op =>
    match settle op.rank s.operands s.pending with
    | .ok settled => .ok { settled with pending := .operator op :: settled.pending }
    | .error halt => .error halt

def feedAll (s : Stacks) : List Token → Except Halt Stacks
  | [] => .ok s
  | token :: rest =>
    match s.feed token rest.head? with
    | .ok fed => fed.feedAll rest
    | .error halt => .error halt

/-- The one value that the tokens reduce to. -/
def reduce (tokens : List Token) : Except Failure Float :=
  match empty.feedAll tokens with
  | .error halt => .error halt.failure
  | .ok fed =>
    match finish fed.operands fed.pending with
    | .error halt => .error halt.failure
    | .ok finished =>
      match finished.operands with
      | [value] => .ok value
      | _ => .error .notSingle

end Stacks
end Reckoner
