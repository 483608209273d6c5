import Reckoner.Log.Event
import Reckoner.Scan
import Reckoner.Settings
import Reckoner.Stacks
import Reckoner.Text.Blank
import Reckoner.Text.LowerCase

/-! Formulas from text to value. Neither blanks nor the case of letters matter, for both are gone before the text is
looked at more closely. -/

namespace Reckoner.Formula

/-- The text without blanks and in lower case. -/
def compact (source : String) : List Char :=
  Text.lower (Text.withoutBlanks source.toList)

def isBlank (source : String) : Bool :=
  source.toList.all Text.isBlank

/-- The tokens of a formula. The length and the number of parentheses are checked before anything is scanned. -/
def tokens (settings : Settings) (source : Option String) : Except Failure (List Token) :=
  match source with
  | none => .error .blank
  | some source =>
    let cs := compact source
    if isBlank source then .error .blank
    else if settings.maxLength < cs.length then .error (.tooLong settings.maxLength)
    else if cs.count '(' ≠ cs.count ')' then .error .unbalanced
    else Scan.tokens true cs

def value (settings : Settings) (source : Option String) : Except Failure Float :=
  match tokens settings source with
  | .error failure => .error failure
  | .ok tokens => Stacks.reduce tokens

/-- Why a formula has no tokens, if it has none. Whether its tokens have a value is not asked. -/
def objection (settings : Settings) (source : Option String) : Option String :=
  match tokens settings source with
  | .error failure => some failure.message
  | .ok _ => none

def scanned (source : Option String) (tokens : List Token) : Log.Event :=
  .debug "lexer" "Tokenized expression" {
    expression := source.map fun source => .text (String.ofList (compact source)),
    tokens := some (.whole tokens.length) }

def reduced (tokens : List Token) (value : Float) : Log.Event :=
  .debug "evaluator" ("Reduced to " ++ floatText value) { tokens := some (.whole tokens.length) }

def failed (source : Option String) (failure : Failure) : Log.Event :=
  .debug "api" ("Evaluation failed: " ++ failure.message) {
    code := some (.text failure.code), expression := source.map .text }

/-- What an evaluation logs. -/
def journal (settings : Settings) (source : Option String) : List Log.Event :=
  match tokens settings source with
  | .error failure => [failed source failure]
  | .ok tokens =>
    match Stacks.reduce tokens with
    | .ok value => [scanned source tokens, reduced tokens value]
    | .error failure => [scanned source tokens, failed source failure]

end Reckoner.Formula
