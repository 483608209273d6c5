import Reckoner.Number.Binary
import Reckoner.Number.Decimal

/-! The shortest decimal that is read back as a given double, and of those equally short the one nearest to it.
The search goes from the grid of the leading digit to finer ones. On each grid the two neighbours of the value
decide: if any point of the grid is read back as the double, one of them is. -/

namespace Reckoner

/-- The least power of ten above `num / den`, both of which are positive. -/
def ceilLog10 (num den : Nat) : Int :=
  if den ≤ num then (Nat.toDigits 10 (num / den)).length
  else 1 - ((Nat.toDigits 10 ((den - 1) / num)).length : Int)

/-- Enough grids to write any double in full. -/
def maxGrids : Nat := 1400

/-- The first grid, from the one of `10 ^ exponent` on, that has a point read back as `bits`. -/
def shortestFrom (num den bits : Nat) (exponent : Int) : Nat → Decimal
  | 0 => ⟨num * Nat.pow 10 (-exponent).toNat / (den * Nat.pow 10 exponent.toNat), exponent⟩
  | grids + 1 =>
    let num' := num * Nat.pow 10 (-exponent).toNat
    let den' := den * Nat.pow 10 exponent.toNat
    let low : Decimal := ⟨num' / den', exponent⟩
    let high : Decimal := ⟨num' / den' + 1, exponent⟩
    match low.bits == bits, high.bits == bits with
    | true, true => ⟨halfEven num' den', exponent⟩
    | true, false => low
    | false, true => high
    | false, false => shortestFrom num den bits (exponent - 1) grids

namespace Binary

def shortest (b : Binary) : Decimal :=
  if b.significand = 0 then ⟨0, 0⟩
  else
    let exponent := ceilLog10 b.numerator b.denominator - 1
    (shortestFrom b.numerator b.denominator (nearestBits b.numerator b.denominator) exponent maxGrids).strip

def text (b : Binary) : String :=
  String.ofList ((if b.negative then ['-'] else []) ++ b.shortest.chars)

end Binary

def Double.text : Double → String
  | .nan => "nan"
  | .infinite false => "inf"
  | .infinite true => "-inf"
  | .finite number => number.text

/-- A double in full: what is read back from it is the same double. -/
def floatText (value : Float) : String :=
  (Double.ofFloat value).text

end Reckoner
