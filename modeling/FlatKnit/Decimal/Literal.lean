import FlatKnit.Decimal.Shortest

/-! Decimal literals: an optional sign, digits with a point, and an exponent. -/

namespace FlatKnit

/-- The number that a run of digits denotes. -/
def digitsValue (digits : List Char) : Nat :=
  Nat.ofDigitChars 10 digits 0

/-- The double nearest to `digits * 10 ^ exponent`. -/
def nearestDouble (digits : Nat) (exponent : Int) : Float :=
  let size := Int.ofNat (digitCount digits) + exponent
  -- Beyond these sizes every value rounds to zero or to infinity.
  if digits == 0 || size < -400 then 0.0
  else if 400 < size then 1.0 / 0.0
  else
    Float.ofBits (UInt64.ofNat
      (nearestBits (digits * tenTo exponent.toNat) (tenTo (-exponent).toNat)))

/-- A value with a sign in front. -/
def signed (negative : Bool) (value : Float) : Float :=
  if negative then -value else value

/-- Splits off a leading sign; true is a minus. -/
def splitSign : List Char → Bool × List Char
  | '-' :: rest => (true, rest)
  | '+' :: rest => (false, rest)
  | text => (false, text)

/-- Splits off the longest run of digits. -/
def splitDigits (text : List Char) : List Char × List Char :=
  (text.takeWhile Char.isDigit, text.dropWhile Char.isDigit)

/-- The value of an exponent part: empty, or `e` with an optional sign and digits. -/
def readExponent : List Char → Option Int
  | [] => some 0
  | mark :: rest =>
    if mark == 'e' || mark == 'E' then
      let (negative, digits) := splitSign rest
      -- An exponent is the end of the literal, so all of the rest must be digits.
      if digits.isEmpty || !digits.all Char.isDigit then none
      else
        let size := Int.ofNat (digitsValue digits)
        some (if negative then -size else size)
    else none

/-- Reads digits, an optional point with more digits, and an optional exponent. -/
def readMagnitude (text : List Char) : Option Float := do
  let (whole, rest) := splitDigits text
  let (fraction, rest) := match rest with
    | '.' :: rest => splitDigits rest
    | _ => ([], rest)
  -- The point may lead or end the digits, but it may not stand alone.
  if whole.isEmpty && fraction.isEmpty then none
  else
    let exponent ← readExponent rest
    some (nearestDouble (digitsValue (whole ++ fraction)) (exponent - Int.ofNat fraction.length))

/-- The value of a word for infinity or for not a number, in any case. -/
def readWord (text : List Char) : Option Float :=
  let word := String.ofList (text.map Char.toLower)
  if word == "inf" || word == "infinity" then some (1.0 / 0.0)
  else if word == "nan" then some (0.0 / 0.0)
  else none

/-- Reads a decimal literal; the whole text must belong to it. -/
def readDecimal (text : List Char) : Option Float :=
  let (negative, rest) := splitSign text
  -- A word for infinity starts with no digit and no point, and is no magnitude.
  ((readMagnitude rest).or (readWord rest)).map (signed negative)

end FlatKnit
