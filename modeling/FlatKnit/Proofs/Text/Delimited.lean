import FlatKnit.Proofs.Decimal.Notation
import FlatKnit.Proofs.Text.Scan

/-! Delimited parts: where a part of a text ends can be told from the text alone. -/

namespace FlatKnit

/-- A text does not go on with a character of a class. -/
def Past (inClass : Char → Bool) (rest : List Char) : Prop :=
  ∀ character ∈ rest.head?, inClass character = false

/--
The ends of parts can be told from what may follow them.

Equal texts that begin with a part have the same part there, and go on alike behind it.
-/
def Delimits {α : Type} (text : α → List Char) (Follows : List Char → Prop) : Prop :=
  ∀ ⦃part other : α⦄ ⦃rest others : List Char⦄, Follows rest → Follows others →
    text part ++ rest = text other ++ others → part = other ∧ rest = others

/-- A text goes on past a class when its next character is not of the class. -/
theorem past_cons {inClass : Char → Bool} {next : Char} (outside : inClass next = false)
    (rest : List Char) : Past inClass (next :: rest) := by
  rintro _ ⟨⟩
  exact outside

section Delimits

variable {α : Type} {text : α → List Char} {inClass : Char → Bool}
  {Follows Ends : List Char → Prop}

/-- Parts of characters of one class end where the class does. -/
theorem delimits_of_inside (injective : Function.Injective text)
    (inside : ∀ part, ∀ character ∈ text part, inClass character = true) :
    Delimits text (Past inClass) := by
  intro part other rest others past pastOther same
  -- Scanning for the class yields the part, and what follows it.
  have front := congrArg (List.takeWhile inClass) same
  have behind := congrArg (List.dropWhile inClass) same
  rw [takeWhile_front (inside part) past, takeWhile_front (inside other) pastOther] at front
  rw [dropWhile_front (inside part) past, dropWhile_front (inside other) pastOther] at behind
  exact ⟨injective front, behind⟩

/--
Lists of delimited parts are delimited by what no part begins.

A part may follow another one, and so may what ends the list.
-/
theorem Delimits.flatMap (delimits : Delimits text Follows)
    (onward : ∀ part rest, Follows rest → Follows (text part ++ rest))
    (last : ∀ rest, Ends rest → Follows rest)
    (apart : ∀ part rest, ¬ Ends (text part ++ rest)) :
    Delimits (List.flatMap text) Ends := by
  -- Behind each part comes another part or the end, and both may follow it.
  have follows : ∀ (parts : List α) rest, Ends rest →
      Follows (parts.flatMap text ++ rest) := by
    intro parts rest ends
    induction parts with
    | nil => exact last rest ends
    | cons part parts ih =>
      rw [List.flatMap_cons, List.append_assoc]
      exact onward part _ ih
  intro parts
  -- Part by part: both lists go on, or both have come to their ends.
  induction parts with
  | nil =>
    intro otherParts rest others ends endsOther same
    cases otherParts with
    | nil => exact ⟨rfl, same⟩
    | cons other otherParts =>
      rw [List.flatMap_nil, List.nil_append, List.flatMap_cons, List.append_assoc] at same
      rw [same] at ends
      -- What ends on one side would start with a part on the other.
      exact absurd ends (apart other _)
  | cons part parts ih =>
    intro otherParts rest others ends endsOther same
    cases otherParts with
    | nil =>
      rw [List.flatMap_nil, List.nil_append, List.flatMap_cons, List.append_assoc] at same
      rw [← same] at endsOther
      exact absurd endsOther (apart part _)
    | cons other otherParts =>
      simp only [List.flatMap_cons, List.append_assoc] at same
      -- The first parts agree, and what is behind them is taken on by the induction.
      obtain ⟨rfl, onward⟩ := delimits (follows _ _ ends) (follows _ _ endsOther) same
      obtain ⟨rfl, alike⟩ := ih ends endsOther onward
      exact ⟨rfl, alike⟩

end Delimits

section Numbers

/-- The text of a counting number is its digits. -/
theorem toList_toString_nat (number : Nat) : (toString number).toList = Nat.toDigits 10 number := by
  rw [Nat.toString_eq_repr, Nat.toList_repr]

/-- The text of a counting number ends with its digits. -/
theorem delimits_nat : Delimits (fun number : Nat => (toString number).toList)
    (Past Char.isDigit) := by
  apply delimits_of_inside
  · intro number other same
    exact Nat.repr_inj.mp (String.toList_inj.mp same)
  · intro number
    rw [toList_toString_nat]
    exact allDigits_toDigits number

/-- The text of a counter ends with its digits. -/
theorem delimits_counter : Delimits (fun counter : UInt32 => (toString counter).toList)
    (Past Char.isDigit) := by
  -- A counter is written as its number is.
  intro counter other rest others past pastOther same
  obtain ⟨equal, alike⟩ := delimits_nat past pastOther same
  exact ⟨UInt32.toNat_inj.mp equal, alike⟩

/-- Whether a character may stand in the text of a number: a digit or a sign. -/
def isNumeral (character : Char) : Bool :=
  character.isDigit || character == '-' || character == '+'

/-- Digits may stand in the text of a number. -/
theorem isNumeral_of_allDigits {digits : List Char} (all : AllDigits digits) :
    ∀ character ∈ digits, isNumeral character = true := by
  intro character member
  rw [isNumeral, all character member]
  rfl

/-- Texts of numbers: of digits and signs only, never empty, and different for different ones. -/
structure WritesNumbers {α : Type} (text : α → String) : Prop where
  injective : Function.Injective text
  filled : ∀ number, (text number).toList ≠ []
  numerals : ∀ number, ∀ character ∈ (text number).toList, isNumeral character = true

/-- The text of a number ends with its digits and signs. -/
theorem WritesNumbers.delimits {α : Type} {text : α → String} (writes : WritesNumbers text) :
    Delimits (fun number => (text number).toList) (Past isNumeral) :=
  delimits_of_inside (fun _ _ same => writes.injective (String.toList_inj.mp same)) writes.numerals

/-- Whatever stands behind the text of a number, it starts with a digit or a sign. -/
theorem WritesNumbers.starts {α : Type} {text : α → String} (writes : WritesNumbers text)
    (number : α) (rest : List Char) : ∃ first others,
      (text number).toList ++ rest = first :: others ∧ isNumeral first = true := by
  -- The text of a number is not empty, so its first character is the first of all.
  have numerals := writes.numerals number
  cases written : (text number).toList with
  | nil => exact absurd written (writes.filled number)
  | cons first others =>
    rw [written] at numerals
    exact ⟨first, others ++ rest, rfl, numerals first List.mem_cons_self⟩

/-- The texts of counting numbers are texts of numbers. -/
theorem writesNumbers_nat : WritesNumbers (toString : Nat → String) where
  injective _ _ same := Nat.repr_inj.mp same
  filled number := by
    rw [toList_toString_nat]
    exact Nat.toDigits_ne_nil
  numerals number := by
    rw [toList_toString_nat]
    exact isNumeral_of_allDigits (allDigits_toDigits number)

/-- The texts of counters are texts of numbers. -/
theorem writesNumbers_counter : WritesNumbers (toString : UInt32 → String) where
  injective _ _ same := UInt32.toNat_inj.mp (writesNumbers_nat.injective same)
  filled counter := writesNumbers_nat.filled counter.toNat
  numerals counter := writesNumbers_nat.numerals counter.toNat

/-- The text of a whole number below zero is a minus with digits behind it. -/
theorem toList_toString_below (size : Nat) :
    (toString (Int.negSucc size)).toList = '-' :: Nat.toDigits 10 (size + 1) := by
  simp [Int.toString_eq_repr, Int.repr]

/-- The texts of whole numbers are texts of numbers. -/
theorem writesNumbers_int : WritesNumbers (toString : Int → String) where
  injective _ _ same := Int.repr_injective same
  filled number := by
    -- A number below zero is written as the minus and the digits of its size.
    cases number with
    | ofNat size => exact writesNumbers_nat.filled size
    | negSucc size =>
      rw [toList_toString_below]
      exact List.cons_ne_nil _ _
  numerals number := by
    cases number with
    | ofNat size => exact writesNumbers_nat.numerals size
    | negSucc size =>
      rw [toList_toString_below]
      exact List.forall_mem_cons.mpr ⟨rfl, isNumeral_of_allDigits (allDigits_toDigits _)⟩

/-- The texts of words are texts of numbers. -/
theorem writesNumbers_word : WritesNumbers (toString : Int64 → String) where
  injective _ _ same := Int64.toInt_inj.mp (writesNumbers_int.injective same)
  filled word := writesNumbers_int.filled word.toInt
  numerals word := writesNumbers_int.numerals word.toInt

end Numbers

end FlatKnit
