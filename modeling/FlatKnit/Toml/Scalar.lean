import FlatKnit.Decimal.Literal
import FlatKnit.Text.Hexadecimal
import FlatKnit.Toml.Value

/-!
TOML strings, numbers, dates and keys.
Every reader yields its result with the rest of the text, or nothing.
-/

namespace FlatKnit

namespace TomlText

/-- Whether a character is a blank inside a line. -/
def isSpace (character : Char) : Bool :=
  character == ' ' || character == '\t'

/-- The text after its leading blanks. -/
def skipSpace (text : List Char) : List Char :=
  text.dropWhile isSpace

/-- Splits off a line break. -/
def lineBreak? : List Char → Option (List Char)
  | '\n' :: rest => some rest
  | '\r' :: '\n' :: rest => some rest
  | _ => none

/-- The text after its leading blanks and line breaks. -/
def skipBlankLines : List Char → List Char
  | '\n' :: rest => skipBlankLines rest
  | '\r' :: '\n' :: rest => skipBlankLines rest
  | ' ' :: rest => skipBlankLines rest
  | '\t' :: rest => skipBlankLines rest
  | text => text

/-- Whether a character may stand in a comment or a string: no control but the tab. -/
def isPrintable (character : Char) : Bool :=
  character == '\t' || (0x20 ≤ character.toNat && character.toNat != 0x7F)

/-- The character of a code point, unless it is a surrogate or out of range. -/
def scalar? (code : Nat) : Option Char :=
  if code < 0xD800 || (0xDFFF < code && code < 0x110000) then some (Char.ofNat code) else none

/-- Reads the character of a code point of `count` hexadecimal digits. -/
def readCode (count : Nat) (text : List Char) : Option (Char × List Char) := do
  let digits := text.take count
  -- All digits have to be there; further ones belong to the text.
  if digits.length < count then none
  else
    let code ← hexValue digits
    return (← scalar? code, text.drop count)

/-- Reads an escape after its backslash. -/
def readEscape : List Char → Option (Char × List Char)
  | 'b' :: rest => some ('\x08', rest)
  | 't' :: rest => some ('\t', rest)
  | 'n' :: rest => some ('\n', rest)
  | 'f' :: rest => some ('\x0c', rest)
  | 'r' :: rest => some ('\r', rest)
  | '"' :: rest => some ('"', rest)
  | '\\' :: rest => some ('\\', rest)
  | 'u' :: rest => readCode 4 rest
  | 'U' :: rest => readCode 8 rest
  | _ => none

/-- Reads a basic string after its opening quote; the characters read so far come reversed. -/
def readBasic : Nat → List Char → List Char → Option (List Char × List Char)
  | 0, _, _ => none
  | _ + 1, _, [] => none
  | fuel + 1, read, character :: rest =>
    if character == '"' then some (read.reverse, rest)
    else if character == '\\' then do
      let (escaped, rest) ← readEscape rest
      readBasic fuel (escaped :: read) rest
    else if isPrintable character then readBasic fuel (character :: read) rest
    else none

/-- Reads a literal string after its opening quote. -/
def readLiteral (text : List Char) : Option (List Char × List Char) :=
  -- Nothing is escaped, so the string ends at the first quote.
  let read := text.takeWhile fun character => character != '\x27' && isPrintable character
  match text.drop read.length with
  | '\x27' :: rest => some (read, rest)
  | _ => none

/-- Reads a string of several lines after its opening quotes, with or without escapes. -/
def readLines (quote : Char) (escapes : Bool) :
    Nat → List Char → List Char → Option (List Char × List Char)
  | 0, _, _ => none
  | _ + 1, _, [] => none
  | fuel + 1, read, character :: rest =>
    if character == quote then
      let run := (character :: rest).takeWhile (· == quote)
      let after := (character :: rest).drop run.length
      -- Up to two quotes may stand inside the string, also directly before the closing three.
      if run.length < 3 then readLines quote escapes fuel (run ++ read) after
      else if run.length ≤ 5 then some ((run.drop 3 ++ read).reverse, after)
      else none
    else if escapes && character == '\\' then
      match lineBreak? (skipSpace rest) with
      -- A backslash at the end of a line skips all blanks that follow.
      | some rest => readLines quote escapes fuel read (skipBlankLines rest)
      | none => do
        let (escaped, rest) ← readEscape rest
        readLines quote escapes fuel (escaped :: read) rest
    else
      match lineBreak? (character :: rest) with
      | some rest => readLines quote escapes fuel ('\n' :: read) rest
      | none =>
        if isPrintable character then readLines quote escapes fuel (character :: read) rest
        else none

/-- The text after a line break directly behind opening quotes. -/
def skipFirstBreak (text : List Char) : List Char :=
  (lineBreak? text).getD text

/-- Reads a string of any of the four kinds. -/
def readString (text : List Char) : Option (List Char × List Char) :=
  match text with
  | '"' :: '"' :: '"' :: rest => readLines '"' true (rest.length + 1) [] (skipFirstBreak rest)
  | '"' :: rest => readBasic (rest.length + 1) [] rest
  | '\x27' :: '\x27' :: '\x27' :: rest =>
    readLines '\x27' false (rest.length + 1) [] (skipFirstBreak rest)
  | '\x27' :: rest => readLiteral rest
  | _ => none

/-- Reads digits with single underscores between them; the underscores are dropped. -/
def readDigits (isDigit : Char → Bool) : Nat → List Char → Option (List Char × List Char)
  | 0, _ => none
  | _ + 1, [] => none
  | fuel + 1, character :: rest =>
    if !isDigit character then none
    else
      match rest with
      -- An underscore needs a digit on both sides.
      | '_' :: rest => do
        let (digits, rest) ← readDigits isDigit fuel rest
        return (character :: digits, rest)
      | next :: _ =>
        if isDigit next then do
          let (digits, rest) ← readDigits isDigit fuel rest
          return (character :: digits, rest)
        else some ([character], rest)
      | [] => some ([character], [])

/-- Reads the digits of a decimal number without leading zeros. -/
def readWholeDigits (text : List Char) : Option (List Char × List Char) :=
  match text with
  | '0' :: rest => some (['0'], rest)
  | _ => readDigits Char.isDigit (text.length + 1) text

/-- Reads an exponent: its value and the rest, with zero where there is none. -/
def readPower (text : List Char) : Option ((Bool × Int) × List Char) :=
  match text with
  | mark :: rest =>
    -- A mark needs digits behind it, and without them the reading fails.
    if mark == 'e' || mark == 'E' then do
      let (negative, rest) := splitSign rest
      let (digits, rest) ← readDigits Char.isDigit (rest.length + 1) rest
      let size := Int.ofNat (digitsValue digits)
      return ((true, if negative then -size else size), rest)
    else some ((false, 0), text)
  | [] => some ((false, 0), [])

/-- Reads a number with a point or an exponent, or a word for infinity or for not a number. -/
def readFloat (text : List Char) : Option (Float × List Char) :=
  let (negative, unsigned) := splitSign text
  match unsigned with
  | 'i' :: 'n' :: 'f' :: rest => some (signed negative (1.0 / 0.0), rest)
  | 'n' :: 'a' :: 'n' :: rest => some (0.0 / 0.0, rest)
  | _ => do
    let (whole, rest) ← readWholeDigits unsigned
    let (fraction, rest) ← match rest with
      | '.' :: rest => readDigits Char.isDigit (rest.length + 1) rest
      | _ => some ([], rest)
    let ((hasPower, power), rest) ← readPower rest
    -- Without a point and an exponent it is a whole number, which is read elsewhere.
    if fraction.isEmpty && !hasPower then none
    else
      let digits := digitsValue (whole ++ fraction)
      let value := nearestDouble digits (power - Int.ofNat fraction.length)
      -- A positive literal may not be too large for a double; a negative one is minus infinity.
      if !negative && value.isInf then none else some (signed negative value, rest)

/-- The number that digits of a base denote. -/
def baseValue (base : Nat) (digits : List Char) : Nat :=
  digits.foldl (fun value digit => value * base + (hexDigit digit).getD 0) 0

/-- Whether a character is a digit of a base up to sixteen. -/
def isBaseDigit (base : Nat) (character : Char) : Bool :=
  match hexDigit character with
  | some digit => digit < base
  | none => false

/-- Reads digits of a base; the number must fit a signed word of 64 bits. -/
def readBase (base : Nat) (text : List Char) : Option (Int × List Char) := do
  let (digits, rest) ← readDigits (isBaseDigit base) (text.length + 1) text
  let value := baseValue base digits
  -- Numbers of a base have no sign, so the least word cannot be written this way.
  if value < twoTo 63 then some (Int.ofNat value, rest) else none

/-- Reads a whole number; it must fit a signed word of 64 bits. -/
def readInteger (text : List Char) : Option (Int × List Char) :=
  match text with
  | '0' :: 'x' :: rest => readBase 16 rest
  | '0' :: 'o' :: rest => readBase 8 rest
  | '0' :: 'b' :: rest => readBase 2 rest
  | _ => do
    let (negative, unsigned) := splitSign text
    let (digits, rest) ← readWholeDigits unsigned
    let size := digitsValue digits
    -- There is one more word below zero than above it.
    if negative then if size ≤ twoTo 63 then some (-Int.ofNat size, rest) else none
    else if size < twoTo 63 then some (Int.ofNat size, rest)
    else none

/-- Reads exactly `count` digits as a number between two limits. -/
def readField (count least most : Nat) (text : List Char) : Option (Nat × List Char) :=
  let digits := text.take count
  let value := digitsValue digits
  -- Fewer digits are refused, and further ones belong to what follows.
  if digits.length == count && digits.all Char.isDigit && least ≤ value && value ≤ most then
    some (value, text.drop count)
  else none

/-- Splits off a fixed character. -/
def expect (character : Char) : List Char → Option (List Char)
  | [] => none
  | first :: rest => if first == character then some rest else none

/-- The number of days of a month. -/
def daysIn (year month : Nat) : Nat :=
  if month == 2 then
    -- Every fourth year is a leap year, apart from full centuries that are no multiple of four.
    if year % 4 == 0 && (year % 100 != 0 || year % 400 == 0) then 29 else 28
  else if [4, 6, 9, 11].contains month then 30
  else 31

/-- The text after a date. -/
def afterDate (text : List Char) : Option (List Char) := do
  let (year, rest) ← readField 4 0 9999 text
  let (month, rest) ← readField 2 1 12 (← expect '-' rest)
  let (_, rest) ← readField 2 1 (daysIn year month) (← expect '-' rest)
  return rest

/-- The text after a time of the day. -/
def afterTime (text : List Char) : Option (List Char) := do
  let (_, rest) ← readField 2 0 23 text
  let (_, rest) ← readField 2 0 59 (← expect ':' rest)
  -- The last second of a minute may be a leap second.
  let (_, rest) ← readField 2 0 60 (← expect ':' rest)
  match rest with
  | '.' :: fraction =>
    let (digits, rest) := splitDigits fraction
    if digits.isEmpty then none else return rest
  | _ => return rest

/-- The text after an offset from universal time, which may be missing. -/
def afterOffset (text : List Char) : Option (List Char) :=
  match text with
  | 'Z' :: rest => some rest
  | 'z' :: rest => some rest
  | sign :: rest =>
    -- Anything else belongs to what follows the time.
    if sign == '+' || sign == '-' then do
      let (_, rest) ← readField 2 0 23 rest
      let (_, rest) ← readField 2 0 59 (← expect ':' rest)
      return rest
    else some text
  | [] => some []

/-- The text after a date, a time, or both with an optional offset. -/
def afterMoment (text : List Char) : Option (List Char) :=
  match afterDate text with
  | some rest =>
    match rest with
    | mark :: later =>
      -- A blank may stand between a date and a time, but also behind a date alone.
      if mark == 'T' || mark == 't' || mark == ' ' then
        match afterTime later with
        | some rest => afterOffset rest
        | none => some rest
      else some rest
    | [] => some []
  | none => afterTime text

/-- Whether a character may stand in a key without quotes. -/
def isBare (character : Char) : Bool :=
  character.isAlphanum || character == '-' || character == '_'

/-- Reads one part of a key. -/
def readKeyPart (text : List Char) : Option (String × List Char) :=
  match text with
  | '"' :: rest =>
    (readBasic (rest.length + 1) [] rest).map fun (key, rest) => (String.ofList key, rest)
  | '\x27' :: rest => (readLiteral rest).map fun (key, rest) => (String.ofList key, rest)
  | _ =>
    -- A key without quotes has one character at least, and a quoted one may be empty.
    let key := text.takeWhile isBare
    if key.isEmpty then none else some (String.ofList key, text.dropWhile isBare)

/-- Reads the parts of a key with dots between them; blanks may stand around every part. -/
def readKeyParts : Nat → List Char → Option (List String × List Char)
  | 0, _ => none
  | fuel + 1, text => do
    let (part, rest) ← readKeyPart (skipSpace text)
    match skipSpace rest with
    | '.' :: rest =>
      let (parts, rest) ← readKeyParts fuel rest
      return (part :: parts, rest)
    | rest => return ([part], rest)

/-- The least nesting of values, or number of key parts, that is refused. -/
def nestingLimit : Nat := 80

/-- Reads a key as the path before its last part, and that part. -/
def readKey (text : List Char) : Option ((List String × String) × List Char) := do
  let (parts, rest) ← readKeyParts (text.length + 1) text
  let last ← parts.getLast?
  if nestingLimit ≤ parts.length then none else return ((parts.dropLast, last), rest)

end TomlText

end FlatKnit
