import FlatKnit.Decimal.Binary

/-! Doubles rounded to whole numbers of a machine word. -/

namespace FlatKnit

/-- The signed word of 64 bits nearest to a whole number. -/
def clampWord (number : Int) : Int64 :=
  if number < Int64.minValue.toInt then Int64.minValue
  else if Int64.maxValue.toInt < number then Int64.maxValue
  else Int64.ofInt number

/-- The whole number nearest to a finite double, a half going to the even neighbour; else zero. -/
def nearestWhole (value : Float) : Int64 :=
  match Denotation.of value with
  | .notANumber => 0
  | .infinite _ => 0
  | .finite negative mantissa exponent =>
    -- The size is rounded, so that halves go to the even neighbour on either side of zero.
    let size := nearestEven (dyadicNumerator mantissa exponent) (dyadicDenominator exponent)
    clampWord (if negative then -Int.ofNat size else Int.ofNat size)

end FlatKnit
