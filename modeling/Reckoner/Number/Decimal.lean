import Reckoner.Number.Nearest

/-! Decimal numbers, as they are read and as they are written in full: the point inside the digits while it stays
near them, an exponent otherwise. -/

namespace Reckoner

/-- The value `digits · 10 ^ exponent`. -/
structure Decimal where
  digits : Nat
  exponent : Int
  deriving DecidableEq, Repr

namespace Decimal

def numerator (d : Decimal) : Nat :=
  d.digits * Nat.pow 10 d.exponent.toNat

def denominator (d : Decimal) : Nat :=
  Nat.pow 10 (-d.exponent).toNat

/-- The bits of the double that the decimal is read as. -/
def bits (d : Decimal) : Nat :=
  nearestBits d.numerator d.denominator

def toFloat (d : Decimal) : Float :=
  nearest d.numerator d.denominator

/-- The same value without zeros at the end of the digits. -/
def strip (d : Decimal) : Decimal :=
  if d.digits = 0 then d
  else if d.digits % 10 = 0 then strip ⟨d.digits / 10, d.exponent + 1⟩
  else d
termination_by d.digits
decreasing_by omega

/-- The value of a run of digits with at most one point in it. -/
def ofNumeral (run : List Char) : Decimal :=
  ⟨Nat.ofDigitChars 10 (run.filter (· ≠ '.')) 0, -((run.dropWhile (· ≠ '.')).drop 1).length⟩

/-- The power of ten of the leading digit is written as an exponent unless it is at least `leastPlain` and
below `leastScientific`. -/
def leastPlain : Int := -4

def leastScientific : Int := 16

def exponentChars (exponent : Int) : List Char :=
  let size := Nat.toDigits 10 exponent.natAbs
  'e' :: (if exponent < 0 then '-' else '+') :: (List.replicate (2 - size.length) '0' ++ size)

/-- A plain numeral always has a point with digits on both sides. An exponent has a sign and at least two digits. -/
def chars (d : Decimal) : List Char :=
  let digits := Nat.toDigits 10 d.digits
  let leading : Int := d.exponent + digits.length - 1
  if leading < leastPlain || leastScientific ≤ leading then
    let fraction := digits.drop 1
    digits.take 1 ++ (if fraction.isEmpty then [] else '.' :: fraction) ++ exponentChars leading
  else if 0 ≤ d.exponent then digits ++ List.replicate d.exponent.toNat '0' ++ ['.', '0']
  else if 0 ≤ leading then
    digits.take (leading.toNat + 1) ++ '.' :: digits.drop (leading.toNat + 1)
  else '0' :: '.' :: (List.replicate (-leading - 1).toNat '0' ++ digits)

end Decimal
end Reckoner
