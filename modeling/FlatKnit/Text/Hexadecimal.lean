/-! Hexadecimal digits. -/

namespace FlatKnit

/-- The value of a hexadecimal digit in either case. -/
def hexDigit (character : Char) : Option Nat :=
  if character.isDigit then some (character.toNat - '0'.toNat)
  else if 'a' ≤ character && character ≤ 'f' then some (character.toNat - 'a'.toNat + 10)
  else if 'A' ≤ character && character ≤ 'F' then some (character.toNat - 'A'.toNat + 10)
  else none

/-- The value of hexadecimal digits, the first of them the highest. -/
def hexValue (digits : List Char) : Option Nat :=
  digits.foldlM (fun value digit => (hexDigit digit).map (value * 16 + ·)) 0

end FlatKnit
