import Reckoner.Display
import Reckoner.Formula
import Reckoner.Json

/-! Outcomes of evaluations as they are handed to people and programs. -/

namespace Reckoner

/-- Either a value, or the message and code of a failure. Any other mixture can be written down too, and is printed
field by field. -/
structure Outcome where
  ok : Bool
  value : Option Float := none
  error : Option String := none
  code : Option String := none
  deriving DecidableEq

/-- How results are printed. -/
inductive Format
  | json
  | human
  deriving DecidableEq, Repr

namespace Format

def all : List Format :=
  [json, human]

def name : Format → String
  | json => "json"
  | human => "human"

end Format

def boolText (value : Bool) : String :=
  if value then "True" else "False"

namespace Outcome

def ofResult : Except Failure Float → Outcome
  | .ok value => { ok := true, value := some value }
  | .error failure => { ok := false, error := some failure.message, code := some failure.code }

def ofSource (settings : Settings) (source : Option String) : Outcome :=
  ofResult (Formula.value settings source)

/-- A text for those who look after the program. -/
def inspect (outcome : Outcome) : String :=
  if outcome.ok then
    "EvalResult(ok=True, value=" ++ ((outcome.value.map floatText).getD "None") ++ ")"
  else
    "EvalResult(ok=False, error=" ++ Text.quoteOption outcome.error ++ ", code=" ++
      Text.quoteOption outcome.code ++ ")"

/-- Of a value that belongs to a success, one without a literal becomes `null`. A failure has no such excuse. -/
def valueMember (outcome : Outcome) (value : Float) : Except DisplayError Json :=
  match Double.ofFloat value with
  | .finite number => .ok (.number number)
  | other => if outcome.ok then .ok .null else .error (.notFinite other)

def textMember (name : String) (text : Option String) : List (String × Json) :=
  match text with
  | some text => [(name, .text text)]
  | none => []

/-- The members of an outcome in JSON. A success has its displayed text as the last one. -/
def members (settings : Settings) (decimals : Option Int) (outcome : Outcome) :
    Except DisplayError (List (String × Json)) := do
  let shown ←
    if outcome.ok then
      match outcome.value with
      | some value => (Display.value settings decimals value).map some
      | none => .error .noValue
    else .ok none
  let value ←
    match outcome.value with
    | some value => (outcome.valueMember value).map fun json => [("value", json)]
    | none => .ok []
  return ("ok", .bool outcome.ok) :: value ++ textMember "error" outcome.error ++ textMember "code" outcome.code ++
    textMember "result" shown

def human (settings : Settings) (decimals : Option Int) (outcome : Outcome) : Except DisplayError String :=
  if outcome.ok then
    match outcome.value with
    | some value => Display.value settings decimals value
    | none => .error .noValue
  else .ok ("Error: " ++ Display.failure outcome.error)

/-- The lines that are printed for an outcome. -/
def print (settings : Settings) (format : Format) (decimals : Option Int) (outcome : Outcome) :
    Except DisplayError String :=
  match format with
  | .json => (outcome.members settings decimals).map fun members => Json.renderObject members ++ "\n"
  | .human => (outcome.human settings decimals).map (· ++ "\n")

end Outcome
end Reckoner
