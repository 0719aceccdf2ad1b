import FlatKnit.Json.Written
import FlatKnit.Text.Hexadecimal

/-!
Reading JSON: a document is one value with blanks around it, and nothing else.
Every reader yields its result with the rest of the text, or nothing.
-/

namespace FlatKnit

namespace JsonText

/-- Whether a character may stand between the parts of a document. -/
def isSpacing (character : Char) : Bool :=
  character == ' ' || character == '\t' || character == '\n' || character == '\r'

/-- The text after its leading spacing. -/
def skipSpacing (text : List Char) : List Char :=
  text.dropWhile isSpacing

/-- The character that a one-letter escape stands for. -/
def shortEscape (letter : Char) : Option Char :=
  match letter with
  | '"' => some '"'
  | '\\' => some '\\'
  | '/' => some '/'
  | 'b' => some '\x08'
  | 'f' => some '\x0c'
  | 'n' => some '\n'
  | 'r' => some '\r'
  | 't' => some '\t'
  | _ => none

/-- Reads a text after its opening quote; the units read so far come reversed. -/
def readUnits (units : List Nat) : List Char → Option (List Nat × List Char)
  | [] => none
  | '"' :: rest => some (units.reverse, rest)
  | '\\' :: 'u' :: first :: second :: third :: fourth :: rest => do
    let unit ← hexValue [first, second, third, fourth]
    readUnits (unit :: units) rest
  | '\\' :: letter :: rest => do
    let escaped ← shortEscape letter
    readUnits (escaped.toNat :: units) rest
  | character :: rest =>
    -- What is left are characters that stand for themselves, so no lone backslash and no control.
    if character == '\\' || character.toNat < 0x20 then none
    else readUnits (character.toNat :: units) rest

/-- Reads a number: no leading plus, no leading zeros, digits on both sides of a point. -/
def readNumber (text : List Char) : Option (NumberLiteral × List Char) := do
  let (negative, text) := match text with
    | '-' :: rest => (true, rest)
    | _ => (false, text)
  let (whole, rest) := splitDigits text
  -- A zero may stand alone, but not in front of other digits.
  if whole.isEmpty || (whole.head? == some '0' && 1 < whole.length) then none
  else
    let (fraction, hasPoint, rest) := match rest with
      | '.' :: rest => ((splitDigits rest).1, true, (splitDigits rest).2)
      | _ => ([], false, rest)
    -- A point needs digits behind it.
    if hasPoint && fraction.isEmpty then none
    else
      match rest with
      | mark :: after =>
        if mark == 'e' || mark == 'E' then
          let (below, after) := splitSign after
          let (power, rest) := splitDigits after
          if power.isEmpty then none
          else
            let size := Int.ofNat (digitsValue power)
            return (⟨negative, whole, fraction, if below then -size else size, false⟩, rest)
        else return (⟨negative, whole, fraction, 0, !hasPoint⟩, rest)
      | [] => return (⟨negative, whole, fraction, 0, !hasPoint⟩, rest)

/-- Reads a fixed word. -/
def readWord (word : List Char) (value : WrittenJson) (text : List Char) :
    Option (WrittenJson × List Char) :=
  if word.isPrefixOf text then some (value, text.drop word.length) else none

mutual

/-- Reads a value that starts at once. -/
def readValue : Nat → List Char → Option (WrittenJson × List Char)
  | 0, _ => none
  | _ + 1, [] => none
  | fuel + 1, character :: rest =>
    match character with
    -- The first character decides what kind of value it is.
    | 'n' => readWord "ull".toList .null rest
    | 't' => readWord "rue".toList (.flag true) rest
    | 'f' => readWord "alse".toList (.flag false) rest
    | '"' => (readUnits [] rest).map fun (units, rest) => (.text units, rest)
    | '[' =>
      match skipSpacing rest with
      | ']' :: rest => some (.list [], rest)
      | rest => (readItems fuel [] rest).map fun (items, rest) => (.list items, rest)
    | '{' =>
      match skipSpacing rest with
      | '}' :: rest => some (.object [], rest)
      | rest => (readEntries fuel [] rest).map fun (entries, rest) => (.object entries, rest)
    | _ => (readNumber (character :: rest)).map fun (literal, rest) => (.number literal, rest)

/-- Reads the items of a list up to its closing bracket; those read so far come reversed. -/
def readItems : Nat → List WrittenJson → List Char → Option (List WrittenJson × List Char)
  | 0, _, _ => none
  | fuel + 1, items, text => do
    -- An item must follow here, so that a comma before the bracket is refused.
    let (item, rest) ← readValue fuel text
    match skipSpacing rest with
    | ']' :: rest => return ((item :: items).reverse, rest)
    | ',' :: rest => readItems fuel (item :: items) (skipSpacing rest)
    | _ => none

/-- Reads the entries of an object up to its closing brace; those read so far come reversed. -/
def readEntries : Nat → List (List Nat × WrittenJson) → List Char →
    Option (List (List Nat × WrittenJson) × List Char)
  | 0, _, _ => none
  | fuel + 1, entries, text => do
    -- A key must follow here, so that a comma before the brace is refused.
    match text with
    | '"' :: rest =>
      let (key, rest) ← readUnits [] rest
      match skipSpacing rest with
      | ':' :: rest =>
        let (value, rest) ← readValue fuel (skipSpacing rest)
        match skipSpacing rest with
        | '}' :: rest => return (((key, value) :: entries).reverse, rest)
        | ',' :: rest => readEntries fuel ((key, value) :: entries) (skipSpacing rest)
        | _ => none
      | _ => none
    | _ => none

end

/-- Reads a whole document as written. -/
def read (text : String) : Option WrittenJson := do
  let characters := skipSpacing text.toList
  -- Every nested reading consumes a character, so the length bounds the depth of the recursion.
  let (value, rest) ← readValue (characters.length + 1) characters
  if (skipSpacing rest).isEmpty then some value else none

end JsonText

/-- The deepest nesting of lists and objects that a document may have. -/
def Json.deepest : Nat := 127

/-- Reads a document into its value. -/
def Json.read (text : String) : Option Json :=
  (JsonText.read text).bind (WrittenJson.value? Json.deepest)

end FlatKnit
