import FlatKnit.Text.Blank
import Mathlib.Data.List.Basic

/-! Trimming and splitting behind a character that is kept: it stays where it stands. -/

namespace FlatKnit

variable {first second : Char} {text : List Char}

/-- Digits are not blank. -/
theorem isBlank_of_isDigit (digit : first.isDigit = true) : isBlank first = false := by
  -- The digits are one range of characters, and no range of blanks meets it.
  have range : 48 ≤ first.toNat ∧ first.toNat ≤ 57 := by
    simpa [Char.isDigit, UInt32.le_iff_toNat_le] using digit
  simp [isBlank, blankRanges]
  omega

section Ends

/-- What is dropped from the end of a text reaches no further than the last character outside. -/
theorem dropEndWhile_append {inClass : Char → Bool} (before : List Char)
    (outside : inClass first = false) : dropEndWhile inClass (before ++ first :: text) =
      before ++ first :: dropEndWhile inClass text := by
  rw [dropEndWhile, List.reverse_append, List.reverse_cons, List.append_assoc,
    List.dropWhile_append]
  -- Even where all of the text behind the character is dropped, the character itself is not.
  cases left : text.reverse.dropWhile inClass with
  | nil => simp [dropEndWhile, left, outside]
  | cons last others => simp [dropEndWhile, left]

/-- What is dropped from the end of a text does not reach past a character outside of the class. -/
theorem dropEndWhile_cons {inClass : Char → Bool} (outside : inClass first = false) :
    dropEndWhile inClass (first :: text) = first :: dropEndWhile inClass text :=
  dropEndWhile_append [] outside

/-- Nothing is dropped behind a last character outside of the class. -/
theorem dropEndWhile_of_last {inClass : Char → Bool} (ends : text.getLast? = some first)
    (outside : inClass first = false) : dropEndWhile inClass text = text := by
  -- Dropping from the end stops at the last character.
  obtain ⟨before, rfl⟩ := List.getLast?_eq_some_iff.mp ends
  rw [dropEndWhile_append before outside]
  rfl

/-- A text that starts with a character that is not blank is trimmed at its end only. -/
theorem trimBlanks_cons (notBlank : isBlank first = false) :
    trimBlanks (first :: text) = first :: dropEndWhile isBlank text := by
  rw [trimBlanks, List.dropWhile_cons_of_neg (by simp [notBlank]), dropEndWhile_cons notBlank]

variable {part : List Char}

/-- A part does not reach a character at the end that it does not hold. -/
theorem isPrefixOf_concat (absent : first ∉ part) :
    part.isPrefixOf (text ++ [first]) = part.isPrefixOf text := by
  -- A part that is longer than the text would have to go on with the character.
  induction part generalizing text with
  | nil => simp
  | cons head part ih =>
    obtain ⟨unlike, absent⟩ := not_or.mp (mt List.mem_cons.mpr absent)
    cases text with
    | nil => simp [List.isPrefixOf, beq_false_of_ne (Ne.symm unlike)]
    | cons other text => simp [List.isPrefixOf, ih absent]

/-- Repetitions are dropped in front of a character that they do not hold. -/
theorem dropRepeats_concat (absent : first ∉ part) (fuel : Nat) :
    dropRepeats part fuel (text ++ [first]) = dropRepeats part fuel text ++ [first] := by
  induction fuel generalizing text with
  | zero => rfl
  | succ fuel ih =>
    rw [dropRepeats, dropRepeats, isPrefixOf_concat absent]
    -- What is dropped ends before the last character, since the dropped part does not hold it.
    by_cases front : part.isPrefixOf text = true
    · have within : part.length ≤ text.length := (List.isPrefixOf_iff_prefix.mp front).length_le
      rw [if_pos front, if_pos front, List.drop_append_of_le_length within, ih]
    · rw [if_neg front, if_neg front]

/-- More fuel than there are characters drops no more of them. -/
theorem dropRepeats_fuel (filled : part ≠ []) {fuel : Nat} (enough : text.length ≤ fuel) :
    dropRepeats part (fuel + 1) text = dropRepeats part fuel text := by
  induction fuel generalizing text with
  | zero =>
    obtain rfl := List.length_eq_zero_iff.mp (Nat.le_zero.mp enough)
    simp [dropRepeats]
  | succ fuel ih =>
    -- Every repetition takes some characters along, and one unit of fuel.
    have shorter : (text.drop part.length).length ≤ fuel := by
      have some := List.length_pos_iff.mpr filled
      rw [List.length_drop]
      omega
    rw [dropRepeats, ih shorter]
    rfl

/-- The repetitions at the end of a text do not reach a character that they do not hold. -/
theorem dropEndRepeats_cons (filled : part ≠ []) (absent : first ∉ part) :
    dropEndRepeats part (first :: text) = first :: dropEndRepeats part text := by
  -- From the end, the character comes last, and dropping stops in front of it; the fuel is enough
  -- either way.
  have unheld : first ∉ part.reverse := by simpa using absent
  have fuel := @dropRepeats_fuel text.reverse part.reverse (by simpa using filled) _ (Nat.le_refl _)
  rw [List.length_reverse] at fuel
  rw [dropEndRepeats, dropEndRepeats, List.reverse_cons, List.length_cons,
    dropRepeats_concat unheld, fuel, List.reverse_concat]

end Ends

/-- A character that is not blank belongs to the word behind it. -/
theorem words_cons_cons (notBlank : isBlank first = false) (behind : isBlank second = false) :
    ∃ word others, words (second :: text) = (second :: word) :: others ∧
      words (first :: second :: text) = (first :: second :: word) :: others := by
  obtain ⟨word, others, split⟩ := List.exists_cons_of_ne_nil (List.splitOnP_ne_nil isBlank text)
  -- The first word of the rest goes on to the left, over both characters.
  refine ⟨word, others.filter fun word => !word.isEmpty, ?_⟩
  simp [words, List.splitOnP_cons_eq_if_modifyHead, notBlank, behind, split]

end FlatKnit
