/-! Numerals of a fixed width, for fractions, clock fields and code points. -/

namespace Reckoner.Text

/-- The last `width` digits of `n`, leading zeros included. -/
def numeral (base : Nat) : Nat → Nat → List Char
  | 0, _ => []
  | width + 1, n => numeral base width (n / base) ++ [Nat.digitChar (n % base)]

end Reckoner.Text
