import Reckoner.Number.Shortest

/-! The words of a formula. -/

namespace Reckoner

inductive Operator
  | add
  | sub
  | mul
  | div
  | pow
  deriving DecidableEq, Repr

inductive Func
  | sin
  | cos
  | tan
  | sqrt
  | log
  | ln
  deriving DecidableEq, Repr

/-- What can be applied: an operator to two operands, a function to one. -/
inductive Symbol
  | operator (op : Operator)
  | function (f : Func)
  deriving DecidableEq, Repr

inductive Token
  | number (value : Float)
  | operator (op : Operator)
  | function (f : Func)
  | leftParen
  | rightParen
  deriving DecidableEq

def Operator.sign : Operator → Char
  | .add => '+'
  | .sub => '-'
  | .mul => '*'
  | .div => '/'
  | .pow => '^'

/-- Powers bind most tightly, sums least. -/
def Operator.rank : Operator → Nat
  | .add | .sub => 1
  | .mul | .div => 2
  | .pow => 3

def Func.name : Func → String
  | .sin => "sin"
  | .cos => "cos"
  | .tan => "tan"
  | .sqrt => "sqrt"
  | .log => "log"
  | .ln => "ln"

def Symbol.text : Symbol → String
  | .operator op => op.sign.toString
  | .function f => f.name

namespace Token

/-- How tightly a token binds. What does not bind has rank zero. -/
def rank : Token → Nat
  | .function _ => 4
  | .operator op => op.rank
  | _ => 0

def text : Token → String
  | .number value => "Token(NUMBER, " ++ floatText value ++ ")"
  | .operator op => "Token(OPERATOR, '" ++ op.sign.toString ++ "')"
  | .function f => "Token(FUNCTION, '" ++ f.name ++ "')"
  | .leftParen => "Token(LEFT_PAREN)"
  | .rightParen => "Token(RIGHT_PAREN)"

end Token
end Reckoner
