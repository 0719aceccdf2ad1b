import Mathlib.Data.List.Basic

/-! Scanning: what stands at the front of a text up to the first character outside of a class. -/

namespace FlatKnit

variable {inClass : Char → Bool} {front rest : List Char}

/-- The scan takes all characters of the class, and stops at the first one outside. -/
theorem takeWhile_front (inside : ∀ character ∈ front, inClass character = true)
    (stops : ∀ character ∈ rest.head?, inClass character = false) :
    (front ++ rest).takeWhile inClass = front := by
  -- All of the front is taken, and then nothing more.
  rw [List.takeWhile_append_of_pos inside]
  cases rest with
  | nil => simp
  | cons first others => simp [stops first rfl]

/-- What the scan leaves starts with the first character outside of the class. -/
theorem dropWhile_front (inside : ∀ character ∈ front, inClass character = true)
    (stops : ∀ character ∈ rest.head?, inClass character = false) :
    (front ++ rest).dropWhile inClass = rest := by
  -- All of the front is dropped, and then nothing more.
  rw [List.dropWhile_append_of_pos inside]
  cases rest with
  | nil => rfl
  | cons first others => simp [stops first rfl]

end FlatKnit
