/-! Rounding to nearest, a tie going to the even neighbour: of a quotient to a whole number, and of a quotient to
a double. -/

namespace Reckoner

/-- The whole number nearest to `num / den`. -/
def halfEven (num den : Nat) : Nat :=
  let quotient := num / den
  let remainder := num % den
  if 2 * remainder < den then quotient
  else if den < 2 * remainder then quotient + 1
  else quotient + quotient % 2

/-- The exponent of the greatest power of two that is at most `num / den`, both of which are positive. -/
def floorLog2 (num den : Nat) : Int :=
  let guess : Int := num.log2 - den.log2
  if den * Nat.pow 2 guess.toNat ≤ num * Nat.pow 2 (-guess).toNat then guess else guess - 1

/-- The exponent of the last bit that a double near `num / den` has. -/
def lastBit (num den : Nat) : Int :=
  max (floorLog2 num den - 52) (-1074)

def infinityBits : Nat := 2047 * Nat.pow 2 52

/-- The bits of the double nearest to `num / den`. Bits of doubles without sign are in the order of the values, and
one more in the last place carries into the exponent by itself, up to infinity. -/
def nearestBits (num den : Nat) : Nat :=
  if num = 0 then 0
  else
    let scale := lastBit num den
    let significand := halfEven (num * Nat.pow 2 (-scale).toNat) (den * Nat.pow 2 scale.toNat)
    min ((scale + 1074).toNat * Nat.pow 2 52 + significand) infinityBits

def nearest (num den : Nat) : Float :=
  Float.ofBits (UInt64.ofNat (nearestBits num den))

end Reckoner
