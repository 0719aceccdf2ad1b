/-! Blank characters of all scripts, and texts trimmed and split at them. -/

namespace FlatKnit

/-- The code points with the property of white space, as closed ranges in ascending order. -/
def blankRanges : List (Nat × Nat) :=
  [(0x9, 0xD), (0x20, 0x20), (0x85, 0x85), (0xA0, 0xA0), (0x1680, 0x1680), (0x2000, 0x200A),
   (0x2028, 0x2029), (0x202F, 0x202F), (0x205F, 0x205F), (0x3000, 0x3000)]

/-- Whether a character is blank. -/
def isBlank (character : Char) : Bool :=
  blankRanges.any fun (first, last) => first ≤ character.toNat && character.toNat ≤ last

/-- A text without what its end holds of a class of characters. -/
def dropEndWhile (inClass : Char → Bool) (text : List Char) : List Char :=
  (text.reverse.dropWhile inClass).reverse

/-- A text without blanks at either end. -/
def trimBlanks (text : List Char) : List Char :=
  dropEndWhile isBlank (text.dropWhile isBlank)

/-- The words of a text: what stands between blanks. -/
def words (text : List Char) : List (List Char) :=
  (text.splitOnP isBlank).filter fun word => !word.isEmpty

/-- A text without the repetitions of a part at its start; the fuel bounds their number. -/
def dropRepeats (part : List Char) : Nat → List Char → List Char
  | 0, text => text
  | fuel + 1, text =>
    -- Whole repetitions only are dropped.
    if part.isPrefixOf text then dropRepeats part fuel (text.drop part.length) else text

/-- A text without the repetitions of a part at its end. -/
def dropEndRepeats (part text : List Char) : List Char :=
  (dropRepeats part.reverse text.length text.reverse).reverse

end FlatKnit
