/-! Doubles taken apart into a sign, a mantissa and a power of two, and rounded from quotients. -/

namespace FlatKnit

/-- A power of two. -/
def twoTo (power : Nat) : Nat :=
  Nat.pow 2 power

/-- A power of ten. -/
def tenTo (power : Nat) : Nat :=
  Nat.pow 10 power

/-- What a double denotes; a finite one is `mantissa * 2 ^ exponent` with a sign. -/
inductive Denotation where
  | notANumber
  | infinite (negative : Bool)
  | finite (negative : Bool) (mantissa : Nat) (exponent : Int)
  deriving Repr, DecidableEq

namespace Denotation

/-- The denotation of a pattern: one sign bit, eleven exponent bits, fifty-two fraction bits. -/
def ofBits (bits : Nat) : Denotation :=
  let negative := bits / twoTo 63 % 2 == 1
  let scale := bits / twoTo 52 % 2048
  let fraction := bits % twoTo 52
  -- The largest scale is kept for values that are not finite.
  if scale == 2047 then
    if fraction == 0 then infinite negative else notANumber
  -- The smallest scale has no implicit leading bit.
  else if scale == 0 then finite negative fraction (-1074)
  else finite negative (twoTo 52 + fraction) (Int.ofNat scale - 1075)

/-- The denotation of a double. -/
def of (value : Float) : Denotation :=
  ofBits value.toBits.toNat

end Denotation

/-- The numerator of `mantissa * 2 ^ exponent` written over a power of two. -/
def dyadicNumerator (mantissa : Nat) (exponent : Int) : Nat :=
  mantissa * twoTo exponent.toNat

/-- The denominator of `mantissa * 2 ^ exponent` written over a power of two. -/
def dyadicDenominator (exponent : Int) : Nat :=
  twoTo (-exponent).toNat

/-- The whole number nearest to a quotient, a half going to the even neighbour. -/
def nearestEven (numerator denominator : Nat) : Nat :=
  let quotient := numerator / denominator
  let twice := 2 * (numerator % denominator)
  -- The remainder is doubled, so that it can be compared with half of the denominator.
  if twice < denominator then quotient
  else if denominator < twice then quotient + 1
  else quotient + quotient % 2

/-- The pattern of the double nearest to a quotient, a half going to the even neighbour. -/
def nearestBits (numerator denominator : Nat) : Nat :=
  -- The least positive double is the unit; larger doubles are spaced by powers of two of it.
  let units := numerator * twoTo 1074
  let scale := Nat.log2 (units / denominator) - 52
  let mantissa := nearestEven units (denominator * twoTo scale)
  -- A mantissa that rounds up to a power of two carries into the scale, at last to infinity.
  min (scale * twoTo 52 + mantissa) (2047 * twoTo 52)

end FlatKnit
