import FlatKnit.Decimal.Shortest

/-! Texts of doubles: the shortest digits in three notations, and digits with fixed places. -/

namespace FlatKnit

/-- How a format lays out the shortest digits of a double. -/
structure Notation where
  tie : TieRule
  /-- Whole numbers end in `.0`. -/
  pointZero : Bool
  /-- Powers of ten of the first digit: the least positional one, and the one where it ends. -/
  positional : Option (Int × Int)

namespace Notation

/-- Readable text: always positional, and whole numbers have no point. -/
def plain : Notation where
  tie := .upward
  pointZero := false
  positional := none

/-- Numbers in settings tables: always positional, and whole numbers end in `.0`. -/
def table : Notation where
  tie := .upward
  pointZero := true
  positional := none

/-- Numbers in documents: positional from 10 ^ -5 and below 10 ^ 16, otherwise with an exponent. -/
def document : Notation where
  tie := .toEven
  pointZero := true
  positional := some (-5, 16)

end Notation

/-- Zeros for padding. -/
def zeros (count : Nat) : List Char :=
  List.replicate count '0'

namespace Scientific

/-- Positional notation: the point stands after, inside or before the digits. -/
def positionalText (pointZero : Bool) (decimal : Scientific) : List Char :=
  let digits := Nat.toDigits 10 decimal.digits
  -- The number of digits in front of the point, negative when zeros stand behind it.
  let whole := Int.ofNat digits.length + decimal.exponent
  if 0 ≤ decimal.exponent then
    digits ++ zeros decimal.exponent.toNat ++ (if pointZero then ['.', '0'] else [])
  else if 0 < whole then
    digits.take whole.toNat ++ '.' :: digits.drop whole.toNat
  else
    '0' :: '.' :: zeros (-whole).toNat ++ digits

/-- Exponent notation: one digit before the point and a signed exponent. -/
def exponentText (decimal : Scientific) : List Char :=
  let digits := Nat.toDigits 10 decimal.digits
  let power := decimal.leadingPower
  let head := digits.take 1
  let tail := digits.drop 1
  let fraction := if tail.isEmpty then [] else '.' :: tail
  head ++ fraction ++ 'e' :: (if power < 0 then '-' else '+') :: Nat.toDigits 10 power.natAbs

end Scientific

namespace Notation

/-- The text of a finite value without its sign. -/
def magnitude (layout : Notation) (mantissa : Nat) (exponent : Int) : List Char :=
  if mantissa == 0 then
    if layout.pointZero then ['0', '.', '0'] else ['0']
  else
    let decimal := shortest layout.tie mantissa exponent
    -- A format without limits is positional throughout.
    match layout.positional with
    | none => decimal.positionalText layout.pointZero
    | some (least, limit) =>
      if least ≤ decimal.leadingPower && decimal.leadingPower < limit then
        decimal.positionalText layout.pointZero
      else decimal.exponentText

/-- The text of a double: a minus on negative values, `NaN`, `inf` or `-inf`. -/
def text (layout : Notation) (value : Float) : String :=
  match Denotation.of value with
  | .notANumber => "NaN"
  | .infinite negative => if negative then "-inf" else "inf"
  | .finite negative mantissa exponent =>
    let digits := layout.magnitude mantissa exponent
    String.ofList (if negative then '-' :: digits else digits)

end Notation

/-- The readable text of a double. -/
def plainText (value : Float) : String :=
  Notation.plain.text value

/-- Digits with the point before the last `places` of them. -/
def pointed (places number : Nat) : List Char :=
  let digits := Nat.toDigits 10 number
  -- There is one digit in front of the point at least.
  let padded := zeros (places + 1 - digits.length) ++ digits
  padded.take (padded.length - places) ++ '.' :: padded.drop (padded.length - places)

/-- The text of a double with a set number of decimal places, rounded from its exact value. -/
def fixedText (places : Nat) (value : Float) : List Char :=
  match Denotation.of value with
  | .notANumber => "NaN".toList
  | .infinite negative => (if negative then "-inf" else "inf").toList
  | .finite negative mantissa exponent =>
    -- The exact value is rounded once, to a count of the last place.
    let scaled := nearestEven (dyadicNumerator mantissa exponent * tenTo places)
      (dyadicDenominator exponent)
    let digits := pointed places scaled
    if negative then '-' :: digits else digits

end FlatKnit
