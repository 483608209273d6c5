import Reckoner.Number.Binary
import Reckoner.Number.Nearest
import Reckoner.Text.Numeral

/-! Time stamps: seconds since the epoch as a date and a time of day in universal time. -/

namespace Reckoner.Log

inductive StampError
  | notANumber
  | beyondClock
  | beyondYears
  | beyondCalendar (year : Int)
  deriving DecidableEq, Repr

def StampError.message : StampError → String
  | .notANumber => "Invalid value NaN (not a number)"
  | .beyondClock => "timestamp out of range for platform time_t"
  | .beyondYears => "[Errno 75] Value too large for defined data type"
  | .beyondCalendar year => s!"year {year} is out of range"

/-- A moment in microseconds since the epoch. The fraction of a second is scaled in double precision, then rounded
half to even. -/
def microseconds (b : Binary) : Int :=
  let fraction := nearest (b.numerator % b.denominator) b.denominator
  let rounded : Int :=
    match Double.ofFloat (fraction * 1000000) with
    | .finite scaled => halfEven scaled.numerator scaled.denominator
    | _ => 0
  let size := b.numerator / b.denominator * 1000000 + rounded
  if b.negative then -size else size

structure Date where
  year : Int
  month : Nat
  day : Nat
  deriving DecidableEq, Repr

/-- The date of a day counted from the epoch. Years are counted from the first of March, so that the leap day comes
last, in eras of four hundred years, which all have the same length. -/
def dateOfDay (day : Int) : Date :=
  let shifted := day + 719468
  let era := shifted / 146097
  let dayOfEra := (shifted % 146097).toNat
  let yearOfEra := (dayOfEra - dayOfEra / 1460 + dayOfEra / 36524 - dayOfEra / 146096) / 365
  let dayOfYear := dayOfEra - (365 * yearOfEra + yearOfEra / 4 - yearOfEra / 100)
  let shiftedMonth := (5 * dayOfYear + 2) / 153
  let month := if shiftedMonth < 10 then shiftedMonth + 3 else shiftedMonth - 9
  ⟨era * 400 + yearOfEra + (if month ≤ 2 then 1 else 0), month, dayOfYear - (153 * shiftedMonth + 2) / 5 + 1⟩

/-- Years are counted from 1900 in thirty-two bits. So are the years of the calendar, but from zero, which is why a
year that is out of range may be reported as one from the other end. -/
def checkYear (date : Date) : Except StampError Unit :=
  if date.year - 1900 < -Int.pow 2 31 || Int.pow 2 31 ≤ date.year - 1900 then .error .beyondYears
  else if date.year < 1 || 9999 < date.year then .error (.beyondCalendar (date.year.bmod (Nat.pow 2 32)))
  else .ok ()

/-- The text of a moment. There is a fraction only if it is not zero. -/
def render (date : Date) (second microsecond : Nat) : String :=
  let two := Text.numeral 10 2
  String.ofList (
    Text.numeral 10 4 date.year.toNat ++ '-' :: two date.month ++ '-' :: two date.day ++
    'T' :: two (second / 3600) ++ ':' :: two (second / 60 % 60) ++ ':' :: two (second % 60) ++
    (if microsecond = 0 then [] else '.' :: Text.numeral 10 6 microsecond))

/-- Both the date and the day before it must be in the calendar. -/
def stampOf (b : Binary) : Except StampError String :=
  let moment := microseconds b
  let seconds := moment / 1000000
  if seconds < -Int.pow 2 63 || Int.pow 2 63 ≤ seconds then .error .beyondClock
  else do
    let day := seconds / 86400
    checkYear (dateOfDay day)
    checkYear (dateOfDay (day - 1))
    return render (dateOfDay day) (seconds % 86400).toNat (moment % 1000000).toNat

def stamp (seconds : Float) : Except StampError String :=
  match Double.ofFloat seconds with
  | .nan => .error .notANumber
  | .infinite _ => .error .beyondClock
  | .finite b => stampOf b

end Reckoner.Log
