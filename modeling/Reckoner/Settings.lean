import Reckoner.Text.Integer

/-! Settings of the calculator and the environment variables that override them. -/

namespace Reckoner

def version : String := "1.0.0"

structure Settings where
  maxLength : Int := 10000
  places : Int := 6
  level : String := "WARNING"
  trigger : String := "@calc"
  deriving DecidableEq, Repr

namespace Settings

def maxLengthName : String := "CALCBOT_MAX_INPUT_LENGTH"

def placesName : String := "CALCBOT_OUTPUT_DECIMALS"

def levelName : String := "CALCBOT_LOG_LEVEL"

def triggerName : String := "CALCBOT_TRIGGER_PREFIX"

def integer (given : Option String) (default : Int) : Except Text.IntegerError Int :=
  match given with
  | some text => Text.readInteger text
  | none => .ok default

/-- The settings under an environment. The bound on the input is read first, so its fault is the one reported if
both integers are faulty. -/
def load (lookup : String → Option String) : Except Text.IntegerError Settings := do
  let standard : Settings := {}
  let maxLength ← integer (lookup maxLengthName) standard.maxLength
  let places ← integer (lookup placesName) standard.places
  return {
    maxLength, places,
    level := (lookup levelName).getD standard.level,
    trigger := (lookup triggerName).getD standard.trigger }

end Settings
end Reckoner
