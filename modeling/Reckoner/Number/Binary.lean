/-! Doubles taken apart. A finite double is a signed whole number times a power of two, so that all further
questions about it are questions about natural numbers. -/

namespace Reckoner

/-- The value `± significand · 2 ^ exponent`. Zero keeps its sign. -/
structure Binary where
  negative : Bool
  significand : Nat
  exponent : Int
  deriving DecidableEq, Repr

namespace Binary

/-- With `denominator`, the magnitude as a quotient. Only one of the two powers of two is not one. -/
def numerator (b : Binary) : Nat :=
  b.significand * Nat.pow 2 b.exponent.toNat

def denominator (b : Binary) : Nat :=
  Nat.pow 2 (-b.exponent).toNat

end Binary

/-- What a double says: nothing, beyond all numbers, or a number. -/
inductive Double
  | nan
  | infinite (negative : Bool)
  | finite (number : Binary)
  deriving DecidableEq, Repr

namespace Double

/-- Sign, exponent and fraction lie in the top bit, the next eleven and the last fifty-two. -/
def ofBits (bits : Nat) : Double :=
  let negative : Bool := Nat.pow 2 63 ≤ bits
  let exponent : Nat := bits / Nat.pow 2 52 % Nat.pow 2 11
  let fraction : Nat := bits % Nat.pow 2 52
  if exponent = 2047 then if fraction = 0 then .infinite negative else .nan
  else if exponent = 0 then .finite ⟨negative, fraction, -1074⟩
  else .finite ⟨negative, Nat.pow 2 52 + fraction, (exponent : Int) - 1075⟩

def ofFloat (value : Float) : Double :=
  ofBits value.toBits.toNat

end Double
end Reckoner
