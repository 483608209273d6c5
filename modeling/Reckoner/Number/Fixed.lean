import Reckoner.Number.Binary
import Reckoner.Number.Nearest
import Reckoner.Text.Numeral

/-! Numbers with a bounded number of places after the point. -/

namespace Reckoner.Binary

/-- The digits after the point, without zeros at the end. -/
def fractionChars (places fraction : Nat) : List Char :=
  ((Text.numeral 10 places fraction).reverse.dropWhile (· = '0')).reverse

/-- The number rounded to `places` places, without superfluous zeros. There is a point only before digits, and a
sign only before a number other than zero. -/
def fixedChars (b : Binary) (places : Nat) : List Char :=
  let scaled := halfEven (b.numerator * Nat.pow 10 places) b.denominator
  let fraction := fractionChars places (scaled % Nat.pow 10 places)
  (if b.negative && scaled ≠ 0 then ['-'] else []) ++ Nat.toDigits 10 (scaled / Nat.pow 10 places) ++
    (if fraction.isEmpty then [] else '.' :: fraction)

end Reckoner.Binary
