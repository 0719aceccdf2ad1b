import FlatKnit.Text.Hidden

/-! Texts in quotes, in which what does not show is written as an escape. -/

namespace FlatKnit

/-- A character inside quotes: controls by letter, other hidden characters by their code point. -/
def visible (character : Char) : List Char :=
  match character with
  | '\x00' => ['\\', '0']
  | '\t' => ['\\', 't']
  | '\n' => ['\\', 'n']
  | '\r' => ['\\', 'r']
  | '"' => ['\\', '"']
  | '\\' => ['\\', '\\']
  | _ =>
    -- The code point stands in braces, in as few digits as it has.
    if isHidden character then
      ['\\', 'u', '\x7b'] ++ Nat.toDigits 16 character.toNat ++ ['\x7d']
    else [character]

/-- A text in quotes, fit to be shown in a message. -/
def quotedVisibly (text : String) : String :=
  String.ofList ('"' :: text.toList.flatMap visible ++ ['"'])

end FlatKnit
