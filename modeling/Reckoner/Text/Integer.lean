import Reckoner.Text.Blank
import Reckoner.Text.Digit
import Reckoner.Text.Quoted

/-! Integers as people type them: blanks around, one sign, digits of any script, single underscores between
digits. The number of digits is bounded, leading zeros included. -/

namespace Reckoner.Text

inductive IntegerError
  | malformed (text : String)
  | tooManyDigits (count : Nat)
  deriving DecidableEq, Repr

def maxIntegerDigits : Nat := 4300

/-- A refused text is quoted, and of the quoted form at most this much is shown. -/
def maxQuotedLength : Nat := 200

def IntegerError.message : IntegerError → String
  | .malformed text =>
    "invalid literal for int() with base 10: " ++ String.ofList ((quoteChars text.toList).take maxQuotedLength)
  | .tooManyDigits count =>
    s!"Exceeds the limit ({maxIntegerDigits} digits) for integer string conversion: value has {count} digits; " ++
      "use sys.set_int_max_str_digits() to increase the limit"

/-- The four separator controls are blank elsewhere but do not surround an integer. -/
def isPadding (c : Char) : Bool :=
  isBlank c && !(0x1C ≤ c.toNat && c.toNat ≤ 0x1F)

def isIntegerBody (c : Char) : Bool :=
  c = '_' || (digitValue? c).isSome

/-- The digits of a body in which each underscore stands between two digits. `inside` says whether a digit
came just before. -/
def groupedDigits? (inside : Bool) : List Char → Option (List Nat)
  | [] => if inside then some [] else none
  | c :: rest =>
    if c = '_' then if inside then groupedDigits? false rest else none
    else do
      let digit ← digitValue? c
      let digits ← groupedDigits? true rest
      return digit :: digits

def signed (cs : List Char) : Bool × List Char :=
  match cs with
  | '-' :: rest => (true, rest)
  | '+' :: rest => (false, rest)
  | _ => (false, cs)

/-- The bound on digits is checked before what follows them. -/
def readInteger (text : String) : Except IntegerError Int :=
  let (negative, cs) := signed (text.toList.dropWhile isPadding)
  match groupedDigits? false (cs.takeWhile isIntegerBody) with
  | none => .error (.malformed text)
  | some digits =>
    if maxIntegerDigits < digits.length then .error (.tooManyDigits digits.length)
    else if (cs.dropWhile isIntegerBody).all isPadding then
      let size : Nat := digits.foldl (fun value digit => 10 * value + digit) 0
      .ok (if negative then -size else size)
    else .error (.malformed text)

end Reckoner.Text
