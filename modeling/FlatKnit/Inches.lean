import FlatKnit.Decimal.Literal
import FlatKnit.Decimal.Notation
import FlatKnit.Text.Blank

/-! Lengths in inches: decimals and fractions in, at most three decimals out. -/

namespace FlatKnit

/-- Why a text is not a length. -/
inductive LengthFault where
  | notDecimal
  | notFinite
  | fractionForm
  | numerator
  | denominator
  | zeroDenominator
  | wholePart
  deriving Repr, DecidableEq

/-- The words for a fault of a length. -/
def LengthFault.message : LengthFault → String
  | notDecimal => "invalid float literal"
  | notFinite => "Not a finite number"
  | fractionForm => "Invalid fraction format"
  | numerator => "Invalid numerator"
  | denominator => "Invalid denominator"
  | zeroDenominator => "Division by zero"
  | wholePart => "Invalid number part"

/-- The message for a text that is not a length. -/
def unreadableLength (text : String) (fault : LengthFault) : String :=
  "Cannot parse '" ++ text ++ "' as inches: " ++ fault.message

/-- The mark of an inch in words. -/
def inchMark : String := "in"

/-- A length text without blanks around it and without the marks of an inch behind it. -/
def bareLength (text : String) : List Char :=
  let trimmed := trimBlanks text.toList
  -- The word for inches comes off before quotes do, and either may be repeated.
  let unmarked := dropEndRepeats inchMark.toList trimmed
  trimBlanks (dropEndWhile (· == '"') unmarked)

/-- Reads a decimal length, which must be finite. -/
def readDecimalLength (text : List Char) : Except LengthFault Float :=
  match readDecimal text with
  | none => .error .notDecimal
  | some value => if value.isFinite then .ok value else .error .notFinite

/-- Reads one word of a length with fractions: a quotient, or a whole part. -/
def readLengthPart (word : List Char) : Except LengthFault Float :=
  if word.contains '/' then
    match word.splitOn '/' with
    | [numerator, denominator] =>
      match readDecimal numerator, readDecimal denominator with
      -- The numerator is told first when both are broken.
      | none, _ => .error .numerator
      | some _, none => .error .denominator
      | some top, some bottom =>
        -- Only a zero is refused, so that a quotient need not be finite.
        if bottom == 0.0 then .error .zeroDenominator else .ok (top / bottom)
    | _ => .error .fractionForm
  else
    match readDecimal word with
    | none => .error .wholePart
    | some value => .ok value

/-- Adds the parts of a length to a running total, from left to right. -/
def sumLengthParts (total : Float) : List (List Char) → Except LengthFault Float
  | [] => .ok total
  | word :: rest => do
    let part ← readLengthPart word
    sumLengthParts (total + part) rest

/-- Reads a length with fractions; a minus in front of the first part negates the whole length. -/
def readFractionLength (text : List Char) : Except LengthFault Float :=
  match words text with
  | ('-' :: first) :: rest => (sumLengthParts 0.0 (first :: rest)).map (- ·)
  | parts => sumLengthParts 0.0 parts

/-- Reads a length such as `5.5`, `5 1/2` or `3/4 in`; an empty text is zero. -/
def readInches (text : String) : Except LengthFault Float :=
  let bare := bareLength text
  -- Marks alone are as good as no text.
  if bare.isEmpty then .ok 0.0
  else if bare.contains '/' then readFractionLength bare
  else readDecimalLength bare

/-- A decimal text without final zeros after its point, and without a final point. -/
def dropIdleDigits (text : List Char) : List Char :=
  let digits := dropEndWhile (· == '.') (dropEndWhile (· == '0') text)
  -- A zero may have lost its digit, or have kept a minus.
  if digits.isEmpty || digits == ['-', '0'] then ['0'] else digits

/-- The text of a length: three decimals, less those that say nothing. -/
def inchesText (inches : Float) : String :=
  String.ofList (dropIdleDigits (fixedText 3 inches))

end FlatKnit
