import FlatKnit.Proofs.Decimal.Sign

/-! Finite doubles: a sum is finite only when both of its terms are. -/

namespace FlatKnit

open Float.Model

variable {format : Format}

/-- A pattern is that of a finite double exactly when one of its exponent bits is not set. -/
theorem isFinite_unpack_iff {bits : BitVec format.numBits} :
    (UnpackedFloat.unpack format bits).isFinite = true ↔
      UnpackedFloat.unpackExponent bits ≠ -1#_ := by
  unfold UnpackedFloat.unpack
  dsimp only
  by_cases all : UnpackedFloat.unpackExponent bits = -1#_
  · -- With all of them set, it is that of an infinity or of no number.
    rw [if_pos all]
    split <;> simp [all, UnpackedFloat.isFinite]
  · rw [if_neg all]
    repeat' split
    all_goals simp [all, UnpackedFloat.isFinite]

/-- What is not finite is packed into a double that is not finite. -/
theorem isFinite_of_pack {value : UnpackedFloat} (finite : (pack value).unpack.isFinite = true) :
    value.isFinite = true := by
  -- What is no finite number is packed with all of its exponent bits set.
  cases value with
  | zero | finite => rfl
  | notANumber =>
    exact absurd (UnpackedFloat.unpackExponent_packComponents ..) (isFinite_unpack_iff.mp finite)
  | infinity sign =>
    exact absurd (UnpackedFloat.unpackExponent_packComponents ..) (isFinite_unpack_iff.mp finite)

/-- A sum of unpacked doubles is finite only when both of its terms are. -/
theorem isFinite_of_add {left right : UnpackedFloat}
    (finite : (UnpackedFloat.add format left right).isFinite = true) :
    left.isFinite = true ∧ right.isFinite = true := by
  -- Two infinities give an infinity or no number, and one of them outweighs whatever is finite.
  rcases left with (_ | _) | _ | _ | _ <;> rcases right with (_ | _) | _ | _ | _ <;>
    first
      | exact ⟨rfl, rfl⟩
      | cases finite

/-- A sum of doubles is finite only when both of its terms are. -/
theorem isFinite_add {left right : Float} (finite : (left + right).isFinite = true) :
    left.isFinite = true ∧ right.isFinite = true :=
  isFinite_of_add (isFinite_of_pack finite)

/-- A double that is finite is no infinity. -/
theorem isInf_of_isFinite {value : Float} (finite : value.isFinite = true) :
    value.isInf = false := by
  -- Both tests look at the kind of the unpacked double.
  change value.toModel.unpack.isFinite = true at finite
  show value.toModel.unpack.isInf = false
  cases form : value.toModel.unpack <;> rw [form] at finite <;> first | rfl | cases finite

/-- The sign of a finite double has no part in the exponent that it is packed with. -/
theorem unpackExponent_pack_finite (one other : UnpackedFloat.Sign) {mantissa : Nat}
    {exponent : Int} {positive : 0 < mantissa} :
    UnpackedFloat.unpackExponent
        (UnpackedFloat.pack format (.finite one mantissa exponent positive)) =
      UnpackedFloat.unpackExponent
        (UnpackedFloat.pack format (.finite other mantissa exponent positive)) := by
  -- The sign is only put in front, whichever way the number is packed.
  unfold UnpackedFloat.pack
  dsimp only
  repeat' split
  all_goals simp only [UnpackedFloat.packedInfinity, UnpackedFloat.unpackExponent_packComponents]

/-- A double and its negative are finite together. -/
theorem isFinite_neg (value : Float) : (-value).isFinite = value.isFinite := by
  show (pack value.toModel.unpack.neg).unpack.isFinite = value.toModel.unpack.isFinite
  have packed := UnpackedFloat.pack_unpack_of_valid value.toModel.valid
  have finite := @isFinite_unpack_iff .binary64 value.toModel.toBits.toBitVec
  generalize unpacked : value.toModel.unpack = form
  cases form with
  | notANumber => rfl
  | infinity sign => cases sign <;> rfl
  | zero sign => cases sign <;> rfl
  | finite sign mantissa exponent positive =>
    change UnpackedFloat.unpack .binary64 value.toModel.toBits.toBitVec = _ at unpacked
    rw [unpacked] at packed finite
    -- The negative is packed with the exponent of the double, and that was not all set.
    have exponents := @unpackExponent_pack_finite .binary64 (-sign) sign mantissa exponent positive
    rw [packed] at exponents
    show (UnpackedFloat.unpack .binary64 (UnpackedFloat.pack .binary64
      (.finite (-sign) mantissa exponent positive))).isFinite = true
    rw [isFinite_unpack_iff, exponents]
    exact finite.mp rfl

end FlatKnit
