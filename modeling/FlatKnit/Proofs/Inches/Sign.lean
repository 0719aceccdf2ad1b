import FlatKnit.Proofs.Decimal.Notation
import FlatKnit.Proofs.Inches.Finite
import FlatKnit.Proofs.Text.Blank

/-! Signs of lengths: a minus in front of a length negates all of it. -/

namespace FlatKnit

section Bare

variable {first : Char} {text : List Char}

/-- A character that no trimming takes away: no blank, no mark of an inch, and no part of one. -/
structure IsKept (character : Char) : Prop where
  notBlank : isBlank character = false
  notQuote : (character == '"') = false
  notMark : character ∉ inchMark.toList

/-- A minus is kept. -/
theorem isKept_minus : IsKept '-' :=
  ⟨by decide, by decide, by decide⟩

/-- The mark of an inch in words has no digits. -/
theorem isDigit_of_inchMark : ∀ character ∈ inchMark.toList, character.isDigit = false := by
  have letters : inchMark.toList = ['i', 'n'] := by decide
  simp [letters, Char.isDigit]

/-- A digit is kept. -/
theorem isKept_of_isDigit (digit : first.isDigit = true) : IsKept first where
  notBlank := isBlank_of_isDigit digit
  notQuote := by
    -- A quote and the marks of an inch are no digits.
    apply beq_false_of_ne
    rintro rfl
    cases digit
  notMark := by
    intro mark
    rw [isDigit_of_inchMark first mark] at digit
    cases digit

/-- What is left of a length text when blanks and marks are taken away from its end. -/
def withoutMarks (text : List Char) : List Char :=
  dropEndWhile isBlank (dropEndWhile (· == '"')
    (dropEndRepeats inchMark.toList (dropEndWhile isBlank text)))

/-- A character that is kept stays in front of what is left. -/
theorem withoutMarks_cons (kept : IsKept first) :
    withoutMarks (first :: text) = first :: withoutMarks text := by
  -- Each of the four steps works from the end and stops at what is kept.
  have filled : inchMark.toList ≠ [] := by decide
  rw [withoutMarks, dropEndWhile_cons kept.notBlank, dropEndRepeats_cons filled kept.notMark,
    @dropEndWhile_cons first _ (· == '"') kept.notQuote, dropEndWhile_cons kept.notBlank,
    ← withoutMarks]

/-- A length text is bared at its end only, when it starts with a character that is kept. -/
theorem bareLength_eq {length : String} (starts : length.toList = first :: text)
    (kept : IsKept first) : bareLength length = first :: withoutMarks text := by
  -- Blanks are taken off at both ends, but there are none in front of what is kept.
  have filled : inchMark.toList ≠ [] := by decide
  rw [bareLength, starts, trimBlanks_cons kept.notBlank,
    dropEndRepeats_cons filled kept.notMark, @dropEndWhile_cons first _ (· == '"') kept.notQuote,
    trimBlanks_cons kept.notBlank, ← withoutMarks]

end Bare

section Minus

variable {first : Char} {text : List Char}

/-- A minus in front of a decimal negates it. -/
theorem readDecimal_minus (digit : first.isDigit = true) :
    readDecimal ('-' :: first :: text) = (readDecimal (first :: text)).map (- ·) := by
  -- A digit in front leaves the sign plain, and a minus in front of it turns only the sign.
  rw [readDecimal, readDecimal, splitSign_digit digit, splitSign, Option.map_map]
  rfl

/-- A minus in front of a decimal length negates it, and keeps it finite. -/
theorem readDecimalLength_minus (digit : first.isDigit = true) :
    readDecimalLength ('-' :: first :: text) = (readDecimalLength (first :: text)).map (- ·) := by
  -- The decimal is negated when it is read, and the negative is finite exactly when it is.
  rw [readDecimalLength, readDecimalLength, readDecimal_minus digit]
  cases readDecimal (first :: text) with
  | none => rfl
  | some value =>
    simp only [Option.map_some, isFinite_neg]
    split <;> rfl

/-- A minus in front of a length with fractions is taken off its first word. -/
theorem signedWords_minus_digit (digit : first.isDigit = true) :
    signedWords ('-' :: first :: text) = (true, (signedWords (first :: text)).2) ∧
      (signedWords (first :: text)).1 = false := by
  -- The minus stands at the digit without a blank between, so they share their word.
  obtain ⟨word, others, plain, signed⟩ :=
    @words_cons_cons '-' first text (by decide) (isBlank_of_isDigit digit)
  have unsigned : signedWords (first :: text) = (false, (first :: word) :: others) := by
    rw [signedWords_plain, plain]
    rw [plain]
    rintro behind rest same
    obtain ⟨rfl, _⟩ := List.cons.inj (List.cons.inj same).1
    cases digit
  rw [signedWords_minus signed, unsigned]
  exact ⟨rfl, rfl⟩

/-- A minus in front of a length with fractions negates the sum of all of its parts. -/
theorem readFractionLength_minus (digit : first.isDigit = true) :
    readFractionLength ('-' :: first :: text) = (readFractionLength (first :: text)).map (- ·) := by
  obtain ⟨negative, positive⟩ := @signedWords_minus_digit first text digit
  -- The sign is applied to the sum, which does not depend on it.
  rw [readFractionLength_eq, readFractionLength_eq, negative, positive]
  cases sumLengthParts 0.0 (signedWords (first :: text)).2 <;> rfl

end Minus

/--
A minus in front of a length that starts with a digit negates all of it.

The length may be a decimal or any number of fractions with or without a whole part, with marks and
blanks behind it; with the minus it is read when it is read without, and fails with the same fault.
-/
theorem readInches_minus (text : String)
    (starts : ∃ first ∈ text.toList.head?, first.isDigit = true) :
    readInches ("-" ++ text) = (readInches text).map (- ·) := by
  obtain ⟨first, starts, digit⟩ := starts
  obtain ⟨rest, whole⟩ : ∃ rest, text.toList = first :: rest := List.head?_eq_some_iff.mp starts
  have kept := isKept_of_isDigit digit
  have bare := bareLength_eq whole kept
  have signed : ("-" ++ text).toList = '-' :: first :: rest := by
    rw [String.toList_append, whole]
    rfl
  have bareMinus : bareLength ("-" ++ text) = '-' :: first :: withoutMarks rest := by
    rw [bareLength_eq signed isKept_minus, withoutMarks_cons kept]
  have noSlash : (bareLength ("-" ++ text)).contains '/' = (bareLength text).contains '/' := by
    rw [bareMinus, bare, List.contains_cons]
    rfl
  rw [readInches, readInches, noSlash, bareMinus, bare]
  dsimp only [List.isEmpty_cons]
  -- A slash anywhere behind the sign decides how both of them are read.
  cases (first :: withoutMarks rest).contains '/' with
  | true => exact readFractionLength_minus digit
  | false => exact readDecimalLength_minus digit

/-- A sum of three parts is negated as a whole, and a quotient by zero stays the fault it is. -/
theorem mixed_length_minus :
    readInches ("-" ++ "2 1/2 1/4 in ") = .ok (-2.75) ∧
    readInches ("-" ++ "2 1/0\"") = .error .zeroDenominator := by
  have length : readInches "2 1/2 1/4 in " = .ok 2.75 := by decide +kernel
  have fault : readInches "2 1/0\"" = .error .zeroDenominator := by decide +kernel
  -- Both are the length without the minus, negated; a fault has nothing to negate.
  constructor
  · rw [readInches_minus "2 1/2 1/4 in " ⟨'2', by decide, by decide⟩, length]
    rfl
  · rw [readInches_minus "2 1/0\"" ⟨'2', by decide, by decide⟩, fault]
    rfl

end FlatKnit
