import FlatKnit.Decimal.Notation
import FlatKnit.Json.Value

/-! JSON texts: the compact form, and the form with one item a line. -/

namespace FlatKnit

namespace Json

/-- The text of a number; a double that is not finite is written as null. -/
def decimalText (value : Float) : String :=
  if value.isFinite then Notation.document.text value else "null"

/-- The lower-case hexadecimal digit of a value below sixteen. -/
def hexChar (value : Nat) : Char :=
  -- The digits above nine are letters in lower case.
  Nat.digitChar value

/-- A character inside quotes: quotes, backslashes and controls are escaped. -/
def escaped (character : Char) : List Char :=
  match character with
  | '"' => ['\\', '"']
  | '\\' => ['\\', '\\']
  | '\x08' => ['\\', 'b']
  | '\x0c' => ['\\', 'f']
  | '\n' => ['\\', 'n']
  | '\r' => ['\\', 'r']
  | '\t' => ['\\', 't']
  | _ =>
    -- Controls without a letter of their own are written by their code.
    if character.toNat < 0x20 then
      ['\\', 'u', '0', '0', hexChar (character.toNat / 16), hexChar (character.toNat % 16)]
    else [character]

/-- A text in quotes. -/
def quoted (value : String) : String :=
  String.ofList ('"' :: value.toList.flatMap escaped ++ ['"'])

mutual

/-- The compact text of a value. -/
def compact : Json → String
  | null => "null"
  | flag true => "true"
  | flag false => "false"
  | whole value => toString value
  | decimal value => decimalText value
  | text value => quoted value
  | list items => "[" ++ ",".intercalate (compactItems items) ++ "]"
  | object entries => "\x7b" ++ ",".intercalate (compactEntries entries) ++ "\x7d"

/-- The compact texts of the items of a list. -/
def compactItems : List Json → List String
  | [] => []
  | item :: items => compact item :: compactItems items

/-- The compact texts of the entries of an object. -/
def compactEntries : List (String × Json) → List String
  | [] => []
  | (key, value) :: entries => (quoted key ++ ":" ++ compact value) :: compactEntries entries

end

/-- A line break and the indentation of a depth. -/
def lineBreak (depth : Nat) : String :=
  String.ofList ('\n' :: List.replicate (2 * depth) ' ')

/-- Parts between brackets, one a line; no parts leave the brackets together. -/
def bracketed (opening closing : String) (depth : Nat) (parts : List String) : String :=
  -- The closing bracket stands as deep as the line that opened it.
  if parts.isEmpty then opening ++ closing
  else
    opening ++ lineBreak (depth + 1) ++ ("," ++ lineBreak (depth + 1)).intercalate parts ++
      lineBreak depth ++ closing

mutual

/-- The text of a value with one item a line, inside `depth` brackets. -/
def prettyAt (depth : Nat) : Json → String
  | null => "null"
  | flag true => "true"
  | flag false => "false"
  | whole value => toString value
  | decimal value => decimalText value
  | text value => quoted value
  | list items => bracketed "[" "]" depth (prettyItems (depth + 1) items)
  | object entries => bracketed "\x7b" "\x7d" depth (prettyEntries (depth + 1) entries)

/-- The texts of the items of a list. -/
def prettyItems (depth : Nat) : List Json → List String
  | [] => []
  | item :: items => prettyAt depth item :: prettyItems depth items

/-- The texts of the entries of an object. -/
def prettyEntries (depth : Nat) : List (String × Json) → List String
  | [] => []
  | (key, value) :: entries =>
    (quoted key ++ ": " ++ prettyAt depth value) :: prettyEntries depth entries

end

/-- The text of a value with one item a line. -/
def pretty (value : Json) : String :=
  prettyAt 0 value

end Json

end FlatKnit
