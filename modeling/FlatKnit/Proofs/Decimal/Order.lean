import FlatKnit.Proofs.Decimal.Finite

/-! Order of doubles: of two numbers one is at most the other unless it is greater. -/

namespace FlatKnit

open Float.Model

/-- The comparison of two unpacked doubles the other way round. -/
theorem compare_swap (left right : UnpackedFloat) :
    right.compare left = (left.compare right).map Ordering.swap := by
  -- Only finite doubles with one sign are compared by more than their kinds.
  rcases left with (_ | _) | _ | _ | ⟨_ | _, _, _, _⟩ <;>
    rcases right with (_ | _) | _ | _ | ⟨_ | _, _, _, _⟩ <;>
    first
      | rfl
      | simp only [UnpackedFloat.compare, Option.map_some, Ordering.swap_then,
          ← Std.OrientedCmp.eq_swap]

/-- Two unpacked doubles can be compared unless one of them is no number. -/
theorem compare_isSome {left right : UnpackedFloat} (leftHolds : left.isNaN = false)
    (rightHolds : right.isNaN = false) : (left.compare right).isSome = true := by
  -- All pairs of kinds are compared, apart from those with what is no number.
  rcases left with (_ | _) | _ | _ | ⟨_ | _, _, _, _⟩ <;>
    rcases right with (_ | _) | _ | _ | ⟨_ | _, _, _, _⟩ <;>
    first
      | rfl
      | exact absurd leftHolds (by decide)
      | exact absurd rightHolds (by decide)

/-- A number is at most another one unless it is greater. -/
theorem le_iff_not_lt {left right : Float} (leftHolds : left.isNaN = false)
    (rightHolds : right.isNaN = false) : left ≤ right ↔ ¬ right < left := by
  have le : left ≤ right
      ↔ (left.toModel.unpack.compare right.toModel.unpack).any (·.isLE) = true :=
    decide_eq_true_iff
  have lt : right < left
      ↔ (right.toModel.unpack.compare left.toModel.unpack == some .lt) = true :=
    decide_eq_true_iff
  rw [le, lt, compare_swap left.toModel.unpack]
  -- Numbers compare in one of three ways, and only the last of them is greater.
  obtain ⟨way, compared⟩ := Option.isSome_iff_exists.mp (compare_isSome leftHolds rightHolds)
  rw [compared]
  cases way <;> decide

section Packing

variable {format : Format}

/-- Only a pattern with all exponent bits and some mantissa bit set is that of no number. -/
theorem isNaN_unpack_packComponents {sign : UnpackedFloat.Sign}
    {exponent : BitVec format.exponentBits}
    {mantissa : BitVec format.mantissaBitsWithoutImplicit}
    (plain : exponent ≠ -1#_ ∨ mantissa = 0#_) :
    (UnpackedFloat.unpack format
      (UnpackedFloat.packComponents format sign exponent mantissa)).isNaN = false := by
  unfold UnpackedFloat.unpack
  simp only [UnpackedFloat.unpackExponent_packComponents,
    UnpackedFloat.unpackMantissa_packComponents]
  -- With all exponent bits set it is infinity, since its mantissa is then zero.
  by_cases all : exponent = -1#_
  · rw [if_pos all, if_pos (plain.resolve_left (not_not_intro all))]
    rfl
  · rw [if_neg all]
    repeat' split
    all_goals rfl

/-- An exponent below the largest one does not have all of its bits set. -/
theorem ofNat_ne_allOnes {width exponent : Nat} (small : ¬ 2 ^ width ≤ exponent + 1) :
    BitVec.ofNat width exponent ≠ -1#_ := by
  -- All bits together are the largest number of that width.
  intro all
  have same := congrArg BitVec.toNat all
  rw [BitVec.toNat_ofNat, Nat.mod_eq_of_lt (by omega), BitVec.neg_one_eq_allOnes,
    BitVec.toNat_allOnes] at same
  omega

/-- A number is packed into a number. -/
theorem isNaN_pack {value : UnpackedFloat} (number : value.isNaN = false) :
    (pack value).unpack.isNaN = false := by
  show (UnpackedFloat.unpack .binary64 (UnpackedFloat.pack .binary64 value)).isNaN = false
  cases value with
  | notANumber => cases number
  | infinity sign => exact isNaN_unpack_packComponents (.inr rfl)
  | zero sign => cases sign <;> decide
  | finite sign mantissa exponent positive =>
    -- What is too large is packed as an infinity, and the rest has an exponent of its own.
    unfold UnpackedFloat.pack
    dsimp only
    split
    · exact isNaN_unpack_packComponents (.inr rfl)
    · rename_i small
      split
      · exact isNaN_unpack_packComponents (.inl (ofNat_ne_allOnes small))
      · exact isNaN_unpack_packComponents (.inl (by decide))

end Packing

/-- A finite double is a number. -/
theorem isNaN_of_isFinite {value : Float} (finite : value.isFinite = true) :
    value.isNaN = false := by
  -- Both tests look at the kind of the unpacked double.
  change value.toModel.unpack.isFinite = true at finite
  show value.toModel.unpack.isNaN = false
  cases form : value.toModel.unpack <;> rw [form] at finite <;> first | rfl | cases finite

/-- The size of a number is a number. -/
theorem isNaN_abs {value : Float} (number : value.isNaN = false) : value.abs.isNaN = false := by
  -- Taking the size changes the sign alone, and packing makes no number of none.
  change value.toModel.unpack.isNaN = false at number
  apply isNaN_pack
  cases form : value.toModel.unpack <;> rw [form] at number <;> first | rfl | cases number

/-- Half of a number is a number. -/
theorem isNaN_half {value : Float} (number : value.isNaN = false) :
    (value / 2.0).isNaN = false := by
  change value.toModel.unpack.isNaN = false at number
  obtain ⟨mantissa, exponent, positive, two⟩ : ∃ mantissa exponent positive,
      (2.0 : Float).toModel.unpack = .finite .positive mantissa exponent positive :=
    ⟨_, _, _, rfl⟩
  apply isNaN_pack
  rw [two]
  -- Only a finite number is divided digit by digit, and rounding gives a number.
  cases form : value.toModel.unpack with
  | notANumber => rw [form] at number; cases number
  | infinity | zero => rfl
  | finite sign =>
    show (UnpackedFloat.roundWithAccuracy _ _ _ _ _).isNaN = false
    unfold UnpackedFloat.roundWithAccuracy
    dsimp only
    split <;> rfl

end FlatKnit
