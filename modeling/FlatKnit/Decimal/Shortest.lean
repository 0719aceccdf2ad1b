import FlatKnit.Decimal.Binary

/-! The fewest decimal digits that read back to a double. -/

namespace FlatKnit

/-- Which of two equally near digit strings is written. -/
inductive TieRule where
  | upward
  | toEven
  deriving Repr, DecidableEq

/-- The number of decimal digits of a whole number; zero has one. -/
def digitCount (number : Nat) : Nat :=
  (Nat.toDigits 10 number).length

/-- A positive decimal `digits * 10 ^ exponent`. -/
structure Scientific where
  digits : Nat
  exponent : Int
  deriving Repr, DecidableEq

namespace Scientific

/-- Drops final zeros of the digits, at most as many as the fuel allows. -/
def trimmed : Nat → Scientific → Scientific
  | 0, decimal => decimal
  | fuel + 1, decimal =>
    if decimal.digits % 10 == 0 && decimal.digits != 0 then
      trimmed fuel ⟨decimal.digits / 10, decimal.exponent + 1⟩
    else decimal

/-- The power of ten of the first digit. -/
def leadingPower (decimal : Scientific) : Int :=
  decimal.exponent + Int.ofNat (digitCount decimal.digits) - 1

end Scientific

/-- The decimals that round to one double, in quarters of its last binary place. -/
structure RoundingInterval where
  lower : Nat
  centre : Nat
  upper : Nat
  /-- The power of two of one quarter. -/
  power : Int
  /-- The end points round to the double as well. -/
  closed : Bool
  deriving Repr

namespace RoundingInterval

/-- The interval around `mantissa * 2 ^ exponent`. -/
def around (mantissa : Nat) (exponent : Int) : RoundingInterval where
  -- Below a power of two the doubles lie twice as close, except next to the smallest scale.
  lower := if mantissa == twoTo 52 && exponent != -1074 then 4 * mantissa - 1 else 4 * mantissa - 2
  centre := 4 * mantissa
  upper := 4 * mantissa + 2
  power := exponent - 2
  closed := mantissa % 2 == 0

/-- The factor of a count of quarters when compared with a count of `10 ^ place`. -/
def quarterFactor (interval : RoundingInterval) (place : Int) : Nat :=
  twoTo interval.power.toNat * tenTo (-place).toNat

/-- The factor of a count of `10 ^ place` when compared with a count of quarters. -/
def placeFactor (interval : RoundingInterval) (place : Int) : Nat :=
  tenTo place.toNat * twoTo (-interval.power).toNat

/-- Whether `count * 10 ^ place` rounds to the double. -/
def contains (interval : RoundingInterval) (place : Int) (count : Nat) : Bool :=
  let point := count * interval.placeFactor place
  let lower := interval.lower * interval.quarterFactor place
  let upper := interval.upper * interval.quarterFactor place
  if interval.closed then lower ≤ point && point ≤ upper else lower < point && point < upper

/-- The nearest multiple of `10 ^ place` that rounds to the double, if its neighbours there do. -/
def nearestAt (interval : RoundingInterval) (tie : TieRule) (place : Int) : Option Nat :=
  let scaled := interval.centre * interval.quarterFactor place
  let unit := interval.placeFactor place
  let below := scaled / unit
  let remainder := scaled % unit
  -- Zero is no multiple to write, whatever the interval is.
  match interval.contains place below && below != 0, interval.contains place (below + 1) with
  | false, false => none
  | true, false => some below
  | false, true => some (below + 1)
  | true, true =>
    -- Both neighbours read back to the double, and the nearer one is taken.
    if 2 * remainder < unit then some below
    else if unit < 2 * remainder then some (below + 1)
    else match tie with
      | .upward => some (below + 1)
      | .toEven => some (below + below % 2)

/-- The power of ten of the first digit of the double. -/
def leadingPower (interval : RoundingInterval) : Int :=
  -- No positive double is below 10 ^ -324, so shifting by 350 places keeps its first digits.
  let shifted := interval.centre * twoTo interval.power.toNat * tenTo 350 /
    twoTo (-interval.power).toNat
  Int.ofNat (digitCount shifted) - 351

end RoundingInterval

/-- The shortest decimal that reads back to `mantissa * 2 ^ exponent`, the nearest of them. -/
def shortest (tie : TieRule) (mantissa : Nat) (exponent : Int) : Scientific :=
  let interval := RoundingInterval.around mantissa exponent
  let leading := interval.leadingPower
  -- Seventeen digits identify every double, so one of these grids has a hit.
  let hit := (List.range 17).findSome? fun count =>
    let place := leading - Int.ofNat count
    (interval.nearestAt tie place).map fun digits => (Scientific.mk digits place)
  match hit with
  | some decimal => decimal.trimmed 20
  | none => ⟨dyadicNumerator mantissa exponent, 0⟩

end FlatKnit
