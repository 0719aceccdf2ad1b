import FlatKnit.Shape.Taper
import Mathlib

/-! Words as whole numbers: arithmetic that stays within a word is exact, and checked so. -/

namespace FlatKnit

/-- The value of a word is within a word. -/
theorem isWord_toInt (word : Int64) : IsWord word.toInt :=
  ⟨word.le_toInt, word.toInt_lt⟩

/-- Wrapping leaves a number alone that a word holds. -/
theorem bmod_eq_of_isWord {number : Int} (held : IsWord number) :
    number.bmod (2 ^ 64) = number := by
  -- Words reach from minus two to the sixty-third up to one below it.
  obtain ⟨low, high⟩ := held
  exact Int.bmod_eq_of_le (by omega) (by omega)

/-- A sum that a word holds is exact. -/
theorem toInt_add_of_isWord {left right : Int64} (held : IsWord (left.toInt + right.toInt)) :
    (left + right).toInt = left.toInt + right.toInt := by
  rw [Int64.toInt_add, bmod_eq_of_isWord held]

/-- A difference that a word holds is exact. -/
theorem toInt_sub_of_isWord {left right : Int64} (held : IsWord (left.toInt - right.toInt)) :
    (left - right).toInt = left.toInt - right.toInt := by
  rw [Int64.toInt_sub, bmod_eq_of_isWord held]

/-- A product that a word holds is exact. -/
theorem toInt_mul_of_isWord {left right : Int64} (held : IsWord (left.toInt * right.toInt)) :
    (left * right).toInt = left.toInt * right.toInt := by
  rw [Int64.toInt_mul, bmod_eq_of_isWord held]

/-- The size of a word is exact, unless the word is the least one. -/
theorem toInt_abs_of_lt {word : Int64} (inside : word.toInt.natAbs < 2 ^ 63) :
    word.abs.toInt = word.toInt.natAbs := by
  -- Only the least word has no positive counterpart, and its size is two to the sixty-third.
  have notLeast : word.toBitVec ≠ BitVec.intMin 64 := by
    intro least
    have value : word.toInt = -2 ^ 63 := by
      rw [Int64.toInt, least]
      rfl
    omega
  exact BitVec.toInt_abs_eq_natAbs_of_ne_intMin notLeast

/-- The size of a word is exact up to wrapping, which only the size of the least word needs. -/
theorem toInt_abs (word : Int64) :
    word.abs.toInt = (word.toInt.natAbs : Int).bmod (2 ^ 64) := by
  by_cases inside : word.toInt.natAbs < 2 ^ 63
  · rw [toInt_abs_of_lt inside, bmod_eq_of_isWord ⟨by omega, by omega⟩]
  · -- Only the least word has a size that no word holds.
    have low := word.le_toInt
    have high := word.toInt_lt
    obtain rfl : word = Int64.minValue := by
      rw [← Int64.toInt_inj]
      have := Int64.toInt_minValue
      omega
    decide

/-- A sum with the size of a word is exact up to wrapping. -/
theorem toInt_add_abs (left right : Int64) :
    (left + right.abs).toInt = (left.toInt + right.toInt.natAbs).bmod (2 ^ 64) := by
  rw [Int64.toInt_add, toInt_abs, Int.add_bmod_bmod]

/-- The number after one that is not the last is one more. -/
theorem toNat_add_one {number : UInt32} (inside : number.toNat + 1 < 2 ^ 32) :
    (number + 1).toNat = number.toNat + 1 := by
  rw [UInt32.toNat_add, UInt32.toNat_one, Nat.mod_eq_of_lt inside]

/-- The sign of a word is the sign of its value. -/
theorem toInt_signOf (word : Int64) : (signOf word).toInt = word.toInt.sign := by
  -- Both signs are chosen by the same two comparisons with zero.
  unfold signOf
  split
  · rename_i positive
    have positive := Int64.lt_iff_toInt_lt.mp positive
    rw [Int64.toInt_zero] at positive
    rw [Int.sign_eq_one_of_pos positive, Int64.toInt_one]
  · rename_i notPositive
    split
    · rename_i negative
      have negative := Int64.lt_iff_toInt_lt.mp negative
      rw [Int64.toInt_zero] at negative
      rw [Int.sign_eq_neg_one_of_neg negative]
      rfl
    · rename_i notNegative
      rw [Int64.lt_iff_toInt_lt, Int64.toInt_zero] at notPositive notNegative
      have zero : word.toInt = 0 := by omega
      rw [zero, Int.sign_zero, Int64.toInt_zero]

/-- A quotient by a positive word is exact, and rounded towards zero. -/
theorem toInt_div_of_pos {left right : Int64} (positive : 0 < right.toInt) :
    (left / right).toInt = left.toInt.tdiv right.toInt := by
  -- Only a division by minus one could leave the word.
  have notOne : right ≠ -1 := by
    intro same
    subst same
    simp at positive
  exact Int64.toInt_div_of_ne_right left right notOne

/-- A quotient of a word that is not negative by a positive word is exact. -/
theorem toInt_div_of_nonneg {left right : Int64} (nonneg : 0 ≤ left.toInt)
    (positive : 0 < right.toInt) : (left / right).toInt = left.toInt / right.toInt := by
  -- Both roundings agree from zero on.
  rw [toInt_div_of_pos positive, Int.tdiv_eq_ediv_of_nonneg nonneg]

/-- A remainder of a word that is not negative is exact. -/
theorem toInt_mod_of_nonneg {left right : Int64} (nonneg : 0 ≤ left.toInt) :
    (left % right).toInt = left.toInt % right.toInt := by
  rw [Int64.toInt_mod, Int.tmod_eq_emod_of_nonneg nonneg]

section Checked

variable {left right result : Int64}

/-- A whole number has a word exactly when one has its value. -/
theorem word?_eq_some_iff {number : Int} :
    word? number = some result ↔ IsWord number ∧ Int64.ofInt number = result := by
  rw [word?]
  split
  case isTrue held => simp [held]
  case isFalse past => simp [past]

/-- A checked sum is the sum of the words, where that is exact. -/
theorem sum?_eq_some_iff :
    sum? left right = some result ↔ IsWord (left.toInt + right.toInt) ∧ left + right = result := by
  rw [sum?, word?_eq_some_iff, Int64.ofInt_add, Int64.ofInt_toInt, Int64.ofInt_toInt]

/-- A checked difference is the difference of the words, where that is exact. -/
theorem difference?_eq_some_iff : difference? left right = some result ↔
    IsWord (left.toInt - right.toInt) ∧ left - right = result := by
  rw [difference?, word?_eq_some_iff, Int64.ofInt_sub, Int64.ofInt_toInt, Int64.ofInt_toInt]

/-- A checked size is the size of the word, unless that is the least word. -/
theorem magnitude?_eq_some_iff {word : Int64} :
    magnitude? word = some result ↔ IsWord word.toInt.natAbs ∧ word.abs = result := by
  rw [magnitude?, word?_eq_some_iff]
  refine and_congr_right fun held => ?_
  rw [← toInt_abs_of_lt (by have := held.2; omega), Int64.ofInt_toInt]

/-- The number after a row number is there unless that is the last one. -/
theorem numberAfter?_eq_some_iff {number next : UInt32} :
    numberAfter? number = some next ↔ number.toNat + 1 < 2 ^ 32 ∧ number + 1 = next := by
  rw [numberAfter?, show UInt32.size = 2 ^ 32 from rfl]
  by_cases inside : number.toNat + 1 < 2 ^ 32
  · rw [if_pos inside, Option.some_inj, and_iff_right inside]
  · rw [if_neg inside]
    exact iff_of_false nofun fun ⟨below, _⟩ => inside below

end Checked

end FlatKnit
