import Reckoner.Token

/-! Why a formula has no value. A failure is its cause. Message and code are read off the cause, so that no two
places can word it differently. -/

namespace Reckoner

/-- The families of failures. `calculation` is the family of them all. -/
inductive Kind
  | calculation
  | empty
  | lexical
  | structural
  | domain
  deriving DecidableEq, Repr

/-- The code of a failure that is given none of its own. -/
def Kind.defaultCode : Kind → String
  | .calculation => "CALCULATION_ERROR"
  | .empty => "EMPTY_EXPRESSION"
  | .lexical => "SYNTAX_ERROR"
  | .structural => "MALFORMED_EXPRESSION"
  | .domain => "DOMAIN_ERROR"

/-- A kind, followed by the wider kinds it belongs to. -/
def Kind.lineage : Kind → List Kind
  | .calculation => [.calculation]
  | kind => [kind, .calculation]

inductive Failure
  | blank
  | tooLong (limit : Int)
  | unbalanced
  | manyPoints
  | trailingPoint
  | invalidCharacter (c : Char)
  | missingOperand (symbol : Symbol)
  | missingArgument (f : Func)
  | unmatched
  | notSingle
  | unknownOperator (f : Func)
  | divisionByZero
  | negativeRoot
  | nonPositiveLog
  | nonPositiveLn
  deriving DecidableEq, Repr

namespace Failure

def kind : Failure → Kind
  | .blank => .empty
  | .tooLong _ | .unbalanced | .manyPoints | .trailingPoint | .invalidCharacter _ => .lexical
  | .missingOperand _ | .missingArgument _ | .unmatched | .notSingle | .unknownOperator _ => .structural
  | .divisionByZero | .negativeRoot | .nonPositiveLog | .nonPositiveLn => .domain

def code : Failure → String
  | .blank => "EMPTY_EXPRESSION"
  | .tooLong _ => "TOO_LONG"
  | .unbalanced => "MISMATCHED_PARENTHESES"
  | .manyPoints | .trailingPoint => "INVALID_NUMBER"
  | .invalidCharacter _ => "INVALID_CHARACTER"
  | .missingOperand _ => "MISSING_OPERAND"
  | .missingArgument _ => "MISSING_ARGUMENT"
  | .unmatched | .notSingle | .unknownOperator _ => "MALFORMED_EXPRESSION"
  | .divisionByZero => "DIVISION_BY_ZERO"
  | .negativeRoot => "NEGATIVE_SQRT"
  | .nonPositiveLog | .nonPositiveLn => "NON_POSITIVE_LOG"

/-- The name under which a function is reported that was used as an operator. -/
def memberName : Func → String
  | .sin => "SIN"
  | .cos => "COS"
  | .tan => "TAN"
  | .sqrt => "SQRT"
  | .log => "LOG10"
  | .ln => "LN"

def message : Failure → String
  | .blank => "Expression cannot be empty"
  | .tooLong limit => s!"Expression too long (max {limit} characters)"
  | .unbalanced | .unmatched => "Mismatched parentheses"
  | .manyPoints => "Invalid number format: multiple decimal points"
  | .trailingPoint => "Invalid number format: ends with decimal point"
  | .invalidCharacter c => "Invalid character: " ++ c.toString
  | .missingOperand symbol => "Missing operand for '" ++ symbol.text ++ "'"
  | .missingArgument f => "Function '" ++ f.name ++ "' requires a parenthesized argument"
  | .notSingle => "Expression does not reduce to a single value"
  | .unknownOperator f => "Unknown operator: FunctionKind." ++ memberName f
  | .divisionByZero => "Division by zero"
  | .negativeRoot => "Cannot calculate square root of negative number"
  | .nonPositiveLog => "Cannot calculate logarithm of non-positive number"
  | .nonPositiveLn => "Cannot calculate natural logarithm of non-positive number"

end Failure

/-- A failure as it is handed on: its kind and the two texts that describe it. -/
structure Fault where
  kind : Kind
  message : String
  code : String
  deriving DecidableEq, Repr

namespace Fault

/-- An absent or empty code stands for the default of the kind. -/
def describe (kind : Kind) (message : String) (code : Option String) : Fault :=
  match code with
  | some given => ⟨kind, message, if given.isEmpty then kind.defaultCode else given⟩
  | none => ⟨kind, message, kind.defaultCode⟩

end Fault

def Failure.fault (failure : Failure) : Fault :=
  ⟨failure.kind, failure.message, failure.code⟩

end Reckoner
