import Reckoner.Number.Fixed
import Reckoner.Number.Shortest
import Reckoner.Settings

/-! What people are shown: a value, or a failure under one label. Whole numbers are shown plainly, others to a number
of places, and numbers too big to be known to the last digit in full precision with an exponent. -/

namespace Reckoner

/-- Why a value cannot be shown. -/
inductive DisplayError
  | negativePlaces
  | unreadablePlaces
  | tooManyPlaces
  | notFinite (value : Double)
  | noValue
  deriving DecidableEq, Repr

def DisplayError.message : DisplayError → String
  | .negativePlaces => "Format specifier missing precision"
  | .unreadablePlaces => "Too many decimal digits in format string"
  | .tooManyPlaces => "precision too big"
  | .notFinite value => "Out of range float values are not JSON compliant: " ++ value.text
  | .noValue => "must be real number, not NoneType"

namespace Display

/-- Whole numbers from this magnitude on are shown with an exponent. -/
def plainLimit : Nat := Nat.pow 2 63

def infinity : String := "Infinity"

/-- What is shown for a value that is no number. -/
def undefinedText : String := "Not a number"

def failureLabel : String := "Invalid expression"

def maxPlaces : Int := 2147483647

def maxReadablePlaces : Int := 9223372036854775807

/-- With this many places every double is written exactly. -/
def exactPlaces : Nat := 1074

def checkPlaces (places : Int) : Except DisplayError Nat :=
  if places < 0 then .error .negativePlaces
  else if maxReadablePlaces < places then .error .unreadablePlaces
  else if maxPlaces < places then .error .tooManyPlaces
  else .ok places.toNat

/-- The number of places is looked at only if it is needed. More places than are exact add zeros alone, which are
not shown. -/
def number (places : Int) (b : Binary) : Except DisplayError String :=
  if plainLimit * b.denominator ≤ b.numerator then .ok b.text
  else if b.numerator % b.denominator = 0 then .ok (String.ofList (b.fixedChars 0))
  else
    match checkPlaces places with
    | .ok count => .ok (String.ofList (b.fixedChars (min count exactPlaces)))
    | .error error => .error error

def value (settings : Settings) (decimals : Option Int) (value : Float) : Except DisplayError String :=
  match Double.ofFloat value with
  | .nan => .ok undefinedText
  | .infinite negative => .ok (if negative then "-" ++ infinity else infinity)
  | .finite b => number (decimals.getD settings.places) b

/-- A failure without a text is shown as the label alone. -/
def failure : Option String → String
  | none => failureLabel
  | some message => if message.isEmpty then failureLabel else failureLabel ++ ": " ++ message

end Display
end Reckoner
