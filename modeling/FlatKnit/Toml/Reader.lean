import FlatKnit.Toml.Scalar

/-! Reading TOML: keys with values, under headers of tables. -/

namespace FlatKnit

namespace TomlText

/-- The text after a comment, if one starts here; its characters must be printable. -/
def afterComment (text : List Char) : Option (List Char) :=
  match text with
  | '#' :: rest =>
    let rest := rest.dropWhile isPrintable
    -- A comment runs up to a line break or the end, and nothing else may stop it.
    if rest.isEmpty || (lineBreak? rest).isSome then some rest else none
  | _ => some text

/-- The text after what may end a line: blanks, a comment, and a line break or the end. -/
def afterLine (text : List Char) : Option (List Char) := do
  let rest ← afterComment (skipSpace text)
  if rest.isEmpty then some [] else lineBreak? rest

/-- The text after blanks, line breaks and comments. -/
def skipLines : Nat → List Char → Option (List Char)
  | 0, _ => none
  | fuel + 1, text =>
    match skipBlankLines text with
    | '#' :: rest => do
      let rest ← afterComment ('#' :: rest)
      skipLines fuel rest
    | rest => some rest

/-- Reads a value that is not a list or a table. -/
def readPlain (text : List Char) : Option (Toml × List Char) :=
  match text with
  | [] => none
  | 't' :: 'r' :: 'u' :: 'e' :: rest => some (.flag true, rest)
  | 'f' :: 'a' :: 'l' :: 's' :: 'e' :: rest => some (.flag false, rest)
  | character :: _ =>
    if character == '"' || character == '\x27' then
      (readString text).map fun (value, rest) => (.text (String.ofList value), rest)
    else
      -- Dates and times come first, since they start with digits as well.
      match afterMoment text with
      | some rest => some (.moment (String.ofList (text.take (text.length - rest.length))), rest)
      | none =>
        -- A number with a point or an exponent is tried before a whole one.
        match readFloat text with
        | some (value, rest) => some (.decimal value, rest)
        | none => (readInteger text).map fun (value, rest) => (.whole value, rest)

mutual

/-- Reads a value; `depth` is the nesting that is still allowed. -/
def readValue : Nat → Nat → List Char → Option (Toml × List Char)
  | 0, _, _ => none
  | fuel + 1, depth, text =>
    match text with
    | '[' :: rest =>
      -- Each list and each table takes one level off the nesting.
      match depth with
      | 0 => none
      | depth + 1 => (readItems fuel depth [] rest).map fun (items, rest) => (.list items, rest)
    | '{' :: rest =>
      match depth, skipSpace rest with
      | 0, _ => none
      | _ + 1, '}' :: rest => some (.table [], rest)
      | depth + 1, rest =>
        (readPairs fuel depth [] rest).map fun (entries, rest) =>
          (.table (TomlNode.toEntries entries), rest)
    | _ => readPlain text

/-- Reads the items of a list up to its closing bracket; those read so far come reversed. -/
def readItems : Nat → Nat → List Toml → List Char → Option (List Toml × List Char)
  | 0, _, _, _ => none
  | fuel + 1, depth, items, text => do
    match ← skipLines (text.length + 1) text with
    | ']' :: rest => return (items.reverse, rest)
    | text =>
      let (item, rest) ← readValue fuel depth text
      -- A comma may stand in front of the closing bracket of a list.
      match ← skipLines (rest.length + 1) rest with
      | ',' :: rest => readItems fuel depth (item :: items) rest
      | ']' :: rest => return ((item :: items).reverse, rest)
      | _ => none

/-- Reads the pairs of a table in braces up to its closing brace, onto the entries read so far. -/
def readPairs : Nat → Nat → TomlEntries → List Char → Option (TomlEntries × List Char)
  | 0, _, _, _ => none
  | fuel + 1, depth, entries, text => do
    let ((path, key), rest) ← readKey text
    let rest ← expect '=' rest
    let (value, rest) ← readValue fuel depth (skipSpace rest)
    let entries ← entries.addValue path key value
    -- A comma in front of the closing brace of a table is refused.
    match skipSpace rest with
    | ',' :: rest => readPairs fuel depth entries rest
    | '}' :: rest => return (entries, rest)
    | _ => none

end

/-- Reads the lines of a document, onto the entries read so far, under the last header. -/
def readDocument : Nat → List String → TomlEntries → List Char → Option TomlEntries
  | 0, _, _, _ => none
  | fuel + 1, header, entries, text =>
    match skipBlankLines text with
    | [] => some entries
    | '#' :: rest => do
      let rest ← afterLine ('#' :: rest)
      readDocument fuel header entries rest
    -- Two brackets open a new element in a list of tables.
    | '[' :: '[' :: rest => do
      let ((path, key), rest) ← readKey rest
      let rest ← afterLine (← expect ']' (← expect ']' rest))
      readDocument fuel (path ++ [key]) (← entries.openElement path key) rest
    -- One bracket opens a table, and the lines behind it are entries of that.
    | '[' :: rest => do
      let ((path, key), rest) ← readKey rest
      let rest ← afterLine (← expect ']' rest)
      readDocument fuel (path ++ [key]) (← entries.openTable path key) rest
    | rest => do
      let ((path, key), rest) ← readKey rest
      let rest ← expect '=' rest
      let (value, rest) ← readValue (rest.length + 1) (nestingLimit - 1) (skipSpace rest)
      let rest ← afterLine rest
      readDocument fuel header (← entries.addValueUnder header path key value) rest

end TomlText

/-- Reads a document into the entries of its root table; a byte order mark may come first. -/
def Toml.read (text : String) : Option (List (String × Toml)) :=
  let characters := match text.toList with
    | '\ufeff' :: rest => rest
    | characters => characters
  -- Every line of a document is longer than nothing, so the length bounds the number of lines.
  (TomlText.readDocument (characters.length + 1) [] [] characters).map TomlNode.toEntries

end FlatKnit
