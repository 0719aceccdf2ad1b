import FlatKnit.Decimal.Literal
import FlatKnit.Json.Value

/-! JSON documents as written: keys may repeat, and numbers and texts are not yet evaluated. -/

namespace FlatKnit

/-- A number literal: its digits on both sides of the point, its exponent, and its form. -/
structure NumberLiteral where
  negative : Bool
  whole : List Char
  fraction : List Char
  exponent : Int
  /-- The literal has neither a point nor an exponent. -/
  isWhole : Bool
  deriving Repr, DecidableEq

/-- The greatest power of ten that is a double. -/
def greatestTenfold : Nat := 308

/-- A double times a power of ten; a power that is no double makes every number too large. -/
def timesTenTo (value : Float) (power : Nat) : Float :=
  if power ≤ greatestTenfold then value * nearestDouble 1 power
  else if value == 0.0 then value
  else 1.0 / 0.0

/-- A double divided by a power of ten, step by step where that power is no double. -/
def overTenTo (value : Float) (power : Nat) : Float :=
  if power ≤ greatestTenfold then value / nearestDouble 1 power
  else if value == 0.0 then value
  else overTenTo (value / nearestDouble 1 greatestTenfold) (power - greatestTenfold)
termination_by power
decreasing_by simp only [greatestTenfold] at *; omega

/-- The number that digits make behind a number, as long as it fits a word; and the digits left. -/
def gatherDigits (number : Nat) : List Char → Nat × List Char
  | [] => (number, [])
  | digit :: rest =>
    let longer := Nat.ofDigitChars 10 [digit] number
    if longer < twoTo 64 then gatherDigits longer rest else (number, digit :: rest)

namespace NumberLiteral

/-- The digits of the literal that fit a word, and the power of ten of the last one of them. -/
def leading (literal : NumberLiteral) : Nat × Int :=
  let (number, skipped) := gatherDigits 0 literal.whole
  -- Digits before the point still count as places when they are not read, those behind it do not.
  let (number, dropped) := gatherDigits number literal.fraction
  let places := literal.fraction.length - dropped.length
  (number, literal.exponent + Int.ofNat skipped.length - Int.ofNat places)

/--
The double that the literal is read as.

Its leading digits are rounded to a double, and the product or quotient with a power of ten is
rounded again, so that it need not be the double nearest to the literal.
-/
def double (literal : NumberLiteral) : Float :=
  let (number, exponent) := literal.leading
  let value := nearestDouble number 0
  signed literal.negative
    (if 0 ≤ exponent then timesTenTo value exponent.toNat else overTenTo value (-exponent).toNat)

/-- The whole number of a literal that fits a signed or an unsigned word of 64 bits. -/
def word? (literal : NumberLiteral) : Option Int :=
  let number := digitsValue literal.whole
  if !literal.isWhole then none
  else if literal.negative then
    -- Minus zero keeps its sign as a double.
    if number == 0 || twoTo 63 < number then none else some (-Int.ofNat number)
  else if number < twoTo 64 then some (Int.ofNat number)
  else none

/-- The JSON number of the literal, unless it is too large for a double. -/
def json? (literal : NumberLiteral) : Option Json :=
  -- A whole number that fits no word is a double.
  match literal.word? with
  | some value => some (.whole value)
  | none => if literal.double.isFinite then some (.decimal literal.double) else none

end NumberLiteral

/-- A JSON document as written; in texts, which are code units, surrogates are not yet joined. -/
inductive WrittenJson where
  | null
  | flag (value : Bool)
  | number (literal : NumberLiteral)
  | text (units : List Nat)
  | list (items : List WrittenJson)
  | object (entries : List (List Nat × WrittenJson))
  deriving Repr, Inhabited

/-- The character beyond the basic plane that two surrogates denote. -/
def joinSurrogates (high low : Nat) : Char :=
  Char.ofNat (0x10000 + (high - 0xD800) * 0x400 + (low - 0xDC00))

/-- The characters of code units, unless a surrogate stands alone. -/
def joinUnits : List Nat → Option (List Char)
  | [] => some []
  | unit :: rest =>
    -- A high surrogate needs a low one behind it.
    if 0xD800 ≤ unit && unit < 0xDC00 then
      match rest with
      | low :: rest =>
        if 0xDC00 ≤ low && low < 0xE000 then
          (joinUnits rest).map (joinSurrogates unit low :: ·)
        else none
      | [] => none
    -- A low surrogate is only taken together with the high one in front of it.
    else if 0xDC00 ≤ unit && unit < 0xE000 then none
    else (joinUnits rest).map (Char.ofNat unit :: ·)

/-- The text of code units, unless a surrogate stands alone. -/
def unitsText (units : List Nat) : Option String :=
  (joinUnits units).map String.ofList

namespace WrittenJson

mutual

/-- The value of a document, unless it nests too deeply or holds a broken number or text. -/
def value? (depth : Nat) : WrittenJson → Option Json
  | null => some .null
  | flag value => some (.flag value)
  | number literal => literal.json?
  | text units => (unitsText units).map .text
  | list items =>
    -- Only lists and objects use up the depth.
    match depth with
    | 0 => none
    | depth + 1 => (values? depth items).map .list
  | object entries =>
    match depth with
    | 0 => none
    | depth + 1 => (entryValues? depth entries).map fun entries => .object (gatherEntries entries)

/-- The values of the items of a list. -/
def values? (depth : Nat) : List WrittenJson → Option (List Json)
  | [] => some []
  | item :: items => do
    let value ← value? depth item
    let values ← values? depth items
    return value :: values

/-- The keys and values of the entries of an object. -/
def entryValues? (depth : Nat) : List (List Nat × WrittenJson) → Option (List (String × Json))
  | [] => some []
  | (key, item) :: entries => do
    let name ← unitsText key
    let value ← value? depth item
    let values ← entryValues? depth entries
    return (name, value) :: values

end

end WrittenJson

end FlatKnit
