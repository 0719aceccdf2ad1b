import FlatKnit.Decimal.Notation
import FlatKnit.Toml.Value

/-! TOML texts: keys with plain values, one a line, under headers. -/

namespace FlatKnit

namespace Toml

/-- The length of the longest run of one character. -/
def longestRun (character : Char) (text : List Char) : Nat :=
  let step := fun (longest, current) (next : Char) =>
    let current := if next == character then current + 1 else 0
    (max longest current, current)
  (text.foldl step (0, 0)).1

/-- Whether a text holds a control other than a tab or a line feed. -/
def needsCodes (text : List Char) : Bool :=
  text.any fun character =>
    (character.toNat < 0x20 && character != '\t' && character != '\n') || character.toNat == 0x7F

/-- The upper-case hexadecimal digits of a code point, four of them. -/
def codeDigits (code : Nat) : List Char :=
  let digits := (Nat.toDigits 16 code).map Char.toUpper
  List.replicate (4 - digits.length) '0' ++ digits

/-- A character inside double quotes, where `inLines` keeps line feeds as they are. -/
def escaped (inLines : Bool) (character : Char) : List Char :=
  match character with
  | '\x08' => ['\\', 'b']
  | '\t' => ['\\', 't']
  | '\n' => if inLines then ['\n'] else ['\\', 'n']
  | '\x0c' => ['\\', 'f']
  | '\r' => ['\\', 'r']
  | '\\' => ['\\', '\\']
  | _ =>
    -- Controls without a letter of their own are written by their code.
    if character.toNat < 0x20 || character.toNat == 0x7F then
      '\\' :: 'u' :: codeDigits character.toNat
    else [character]

/-- A text inside double quotes; at most `allowed` quotes in a row stand without a backslash. -/
def escapedText (inLines : Bool) (allowed : Nat) : Nat → List Char → List Char
  | _, [] => []
  | run, '"' :: rest =>
    -- A quote that would complete the closing quotes gets a backslash.
    if run < allowed then '"' :: escapedText inLines allowed (run + 1) rest
    else '\\' :: '"' :: escapedText inLines allowed 0 rest
  | _, character :: rest => escaped inLines character ++ escapedText inLines allowed 0 rest

/-- A text between quotes; a text of several lines starts on a line of its own. -/
def between (quotes : String) (text : List Char) : String :=
  quotes ++ (if 1 < quotes.length && text.contains '\n' then "\n" else "") ++ String.ofList text ++
    quotes

/--
A text in the first of these forms that shows it as it is: double quotes, single quotes,
three double quotes, three single quotes. A text that none of them shows is escaped.
-/
def quoted (value : String) : String :=
  let text := value.toList
  -- Controls can only be shown by an escape, which single quotes do not have.
  let codes := needsCodes text
  let doubles := longestRun '"' text
  let singles := longestRun '\x27' text
  let hasBackslash := text.contains '\\'
  let hasBreak := text.contains '\n'
  if !codes && !hasBackslash && doubles == 0 && !hasBreak then
    between "\"" (escapedText false 0 0 text)
  else if !codes && singles == 0 && !hasBreak then between "\x27" text
  else if !codes && !hasBackslash && doubles ≤ 2 then
    between "\"\"\"" (escapedText true 2 0 text)
  else if !codes && singles ≤ 2 then between "\x27\x27\x27" text
  else if hasBreak then between "\"\"\"" (escapedText true 2 0 text)
  else between "\"" (escapedText false 0 0 text)

mutual

/-- The text of a value on one line. -/
def inlineText : Toml → String
  | text value => quoted value
  | whole value => toString value
  | decimal value => Notation.table.text value
  | flag true => "true"
  | flag false => "false"
  | moment written => written
  | list items => "[" ++ ", ".intercalate (inlineTexts items) ++ "]"
  | table entries => "\x7b " ++ ", ".intercalate (inlinePairs entries) ++ " \x7d"

/-- The texts of the items of a list. -/
def inlineTexts : List Toml → List String
  | [] => []
  | item :: items => inlineText item :: inlineTexts items

/-- The texts of the entries of a table. -/
def inlinePairs : List (String × Toml) → List String
  | [] => []
  | (key, value) :: entries => (key ++ " = " ++ inlineText value) :: inlinePairs entries

end

/-- The text of a section: its header, and a line for every entry. -/
def sectionText (header : String) (entries : List (String × Toml)) : String :=
  "[" ++ header ++ "]\n" ++ String.join ((inlinePairs entries).map (· ++ "\n"))

/-- The text of a document of sections, with a blank line between neighbours. -/
def documentText (sections : List (String × List (String × Toml))) : String :=
  "\n".intercalate (sections.map fun (header, entries) => sectionText header entries)

end Toml

end FlatKnit
