import FlatKnit.Gauge
import FlatKnit.Proofs.Decimal.Sign

/-! Equality of doubles: doubles that compare as equal are finite and usable together. -/

namespace FlatKnit

open Float.Model

/-- A finite unpacked double compares as equal with itself. -/
theorem compare_self_of_isFinite {value : UnpackedFloat} (finite : value.isFinite = true) :
    value.compare value = some .eq := by
  -- Only what is not a number differs from itself, and that is not finite.
  rcases value with (_ | _) | _ | _ | ⟨_ | _, _, _, _⟩
  · rfl
  · rfl
  · cases finite
  · rfl
  · simp [UnpackedFloat.compare]
  · simp [UnpackedFloat.compare]

/-- Unpacked doubles that compare as equal are finite together, and above zero together. -/
theorem isFinite_isAboveZero_of_compare {left right : UnpackedFloat}
    (equal : left.compare right = some .eq) :
    left.isFinite = right.isFinite ∧ isAboveZero left = isAboveZero right := by
  -- Doubles of different kinds, or with different signs, lie apart, zeros excepted.
  rcases left with (_ | _) | _ | _ | ⟨_ | _, _, _, _⟩ <;>
    rcases right with (_ | _) | _ | _ | ⟨_ | _, _, _, _⟩ <;>
    first
      | exact ⟨rfl, rfl⟩
      | cases equal

/-- Doubles are equal when their unpacked forms compare as equal. -/
theorem beq_iff_compare (left right : Float) :
    (left == right) = true
      ↔ left.toModel.unpack.compare right.toModel.unpack = some .eq := by
  -- Equality of doubles is defined by the comparison.
  show (left.toModel.unpack.compare right.toModel.unpack == some .eq) = true ↔ _
  exact beq_iff_eq

/-- A finite double equals itself. -/
theorem beq_self_of_isFinite {value : Float} (finite : value.isFinite = true) :
    (value == value) = true :=
  (beq_iff_compare value value).mpr (compare_self_of_isFinite finite)

/-- Doubles that compare as equal are finite together. -/
theorem isFinite_eq_of_beq {left right : Float} (equal : (left == right) = true) :
    left.isFinite = right.isFinite :=
  (isFinite_isAboveZero_of_compare ((beq_iff_compare left right).mp equal)).1

/-- Doubles that compare as equal can be used together. -/
theorem isUsable_eq_of_beq {left right : Float} (equal : (left == right) = true) :
    isUsable left = isUsable right := by
  -- Being usable is being finite and above zero, and the comparison sees both.
  have above := (isFinite_isAboveZero_of_compare ((beq_iff_compare left right).mp equal)).2
  have positive : decide (left > 0.0) = decide (right > 0.0) := by
    rw [decide_eq_decide]
    show 0.0 < left ↔ 0.0 < right
    rw [zero_lt_iff, zero_lt_iff, above]
  rw [isUsable, isUsable, isFinite_eq_of_beq equal, positive]

end FlatKnit
