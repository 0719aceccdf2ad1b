import FlatKnit.Decimal.Whole
import Mathlib

/-! Signs of doubles: what is made of numbers that are not below zero is not below zero either. -/

namespace FlatKnit

open Float.Model

/-- Whether an unpacked double lies below zero; a zero does not, whatever its sign is. -/
def isBelowZero : UnpackedFloat → Bool
  | .infinity .negative => true
  | .finite .negative _ _ _ => true
  | _ => false

/-- Whether an unpacked double lies above zero. -/
def isAboveZero : UnpackedFloat → Bool
  | .infinity .positive => true
  | .finite .positive _ _ _ => true
  | _ => false

/-- The comparison with zero looks at the unpacked double. -/
theorem lt_zero_iff (value : Float) :
    value < 0.0 ↔ isBelowZero value.toModel.unpack = true := by
  -- Comparing with a zero on the right leaves one case for each kind of double.
  have zero : (0.0 : Float).toModel.unpack = .zero .positive := rfl
  have compared : value < 0.0
      ↔ (value.toModel.unpack.compare (0.0 : Float).toModel.unpack == some .lt) = true :=
    decide_eq_true_iff
  rw [compared, zero]
  rcases value.toModel.unpack with (_ | _) | _ | _ | ⟨_ | _, _, _, _⟩ <;> rfl

/-- The comparison of zero with a double looks at the unpacked double. -/
theorem zero_lt_iff (value : Float) :
    0.0 < value ↔ isAboveZero value.toModel.unpack = true := by
  -- Comparing with a zero on the left leaves one case for each kind of double.
  have zero : (0.0 : Float).toModel.unpack = .zero .positive := rfl
  have compared : 0.0 < value
      ↔ ((0.0 : Float).toModel.unpack.compare value.toModel.unpack == some .lt) = true :=
    decide_eq_true_iff
  rw [compared, zero]
  rcases value.toModel.unpack with (_ | _) | _ | _ | ⟨_ | _, _, _, _⟩ <;> rfl

/-- A double that is not below zero is no number, a zero, or positive. -/
theorem cases_of_not_isBelowZero {value : UnpackedFloat} (notBelow : isBelowZero value = false) :
    value = .notANumber ∨ (∃ sign, value = .zero sign) ∨ value = .infinity .positive ∨
      ∃ mantissa exponent positive, value = .finite .positive mantissa exponent positive := by
  rcases value with (_ | _) | _ | _ | ⟨_ | _, _, _, _⟩ <;> simp_all [isBelowZero]

/-- A double above zero is positive. -/
theorem cases_of_isAboveZero {value : UnpackedFloat} (above : isAboveZero value = true) :
    value = .infinity .positive ∨
      ∃ mantissa exponent positive, value = .finite .positive mantissa exponent positive := by
  rcases value with (_ | _) | _ | _ | ⟨_ | _, _, _, _⟩ <;> simp_all [isAboveZero]

/-- A double above zero is not below it. -/
theorem not_lt_zero_of_zero_lt {value : Float} (positive : 0.0 < value) : ¬ value < 0.0 := by
  -- Above zero are the positive finite doubles and infinity.
  rw [zero_lt_iff] at positive
  rw [lt_zero_iff]
  rcases cases_of_isAboveZero positive with same | ⟨_, _, _, same⟩ <;> simp [same, isBelowZero]

section Packing

variable {format : Format}

/-- The sign bit of a pattern is the one that it was put together from. -/
@[simp] theorem unpackSign_packComponents (sign : UnpackedFloat.Sign)
    (exponent : BitVec format.exponentBits)
    (mantissa : BitVec format.mantissaBitsWithoutImplicit) :
    UnpackedFloat.unpackSign (UnpackedFloat.packComponents format sign exponent mantissa)
      = sign.toBitVec := by
  -- The sign is one bit, and it stands above all others.
  ext index within
  obtain rfl : index = 0 := by omega
  simp [UnpackedFloat.unpackSign, UnpackedFloat.packComponents, BitVec.getLsbD_append,
    BitVec.getElem_append]

/-- A pattern with a positive sign is not that of a double below zero. -/
theorem isBelowZero_unpack_positive (exponent : BitVec format.exponentBits)
    (mantissa : BitVec format.mantissaBitsWithoutImplicit) :
    isBelowZero (UnpackedFloat.unpack format
      (UnpackedFloat.packComponents format .positive exponent mantissa)) = false := by
  -- The sign comes back positive, and with it no kind of double is below zero.
  have sign : UnpackedFloat.Sign.ofBitVec (UnpackedFloat.Sign.positive.toBitVec) = .positive := rfl
  unfold UnpackedFloat.unpack
  simp only [unpackSign_packComponents, sign]
  repeat' split
  all_goals rfl

/-- A double that is packed is not below zero unless it was before. -/
theorem isBelowZero_unpack_pack {value : UnpackedFloat} (notBelow : isBelowZero value = false) :
    isBelowZero (pack value).unpack = false := by
  show isBelowZero (UnpackedFloat.unpack .binary64 (UnpackedFloat.pack .binary64 value)) = false
  rcases value with (_ | _) | _ | (_ | _) | ⟨_ | _, _, _, _⟩
  · cases notBelow
  · exact isBelowZero_unpack_positive _ _
  · exact isBelowZero_unpack_positive _ _
  · -- A zero with a sign comes back as it is.
    decide
  · exact isBelowZero_unpack_positive _ _
  · cases notBelow
  · unfold UnpackedFloat.pack
    dsimp only
    repeat' split
    all_goals exact isBelowZero_unpack_positive _ _

end Packing

/-- Rounding a positive number gives no double below zero. -/
theorem isBelowZero_roundWithAccuracy (format : Format) (mantissa : Nat) (exponent : Int)
    (accuracy : UnpackedFloat.Accuracy) :
    isBelowZero (UnpackedFloat.roundWithAccuracy format .positive mantissa exponent accuracy)
      = false := by
  -- Rounding gives zero or a number with the sign that it was given.
  unfold UnpackedFloat.roundWithAccuracy
  dsimp only
  split <;> rfl

/-- A product of numbers that are not below zero is not below zero. -/
theorem mul_not_lt_zero {left right : Float} (leftHolds : ¬ left < 0.0)
    (rightHolds : ¬ right < 0.0) : ¬ left * right < 0.0 := by
  rw [lt_zero_iff, Bool.not_eq_true] at leftHolds rightHolds ⊢
  apply isBelowZero_unpack_pack
  -- Only a product of finite numbers is rounded, and it is rounded as a positive one.
  rcases cases_of_not_isBelowZero leftHolds with left | ⟨_, left⟩ | left | ⟨_, _, _, left⟩ <;>
    rcases cases_of_not_isBelowZero rightHolds with right | ⟨_, right⟩ | right | ⟨_, _, _, right⟩
  all_goals rw [left, right]
  case inr.inr.inr.inr.inr.inr => exact isBelowZero_roundWithAccuracy _ _ _ _
  all_goals rfl

/-- A quotient of a number that is not below zero by one above zero is not below zero. -/
theorem div_not_lt_zero {left right : Float} (leftHolds : ¬ left < 0.0)
    (positive : 0.0 < right) : ¬ left / right < 0.0 := by
  rw [lt_zero_iff, Bool.not_eq_true] at leftHolds ⊢
  rw [zero_lt_iff] at positive
  apply isBelowZero_unpack_pack
  -- Only a quotient of finite numbers is rounded, and it is rounded as a positive one.
  rcases cases_of_not_isBelowZero leftHolds with left | ⟨_, left⟩ | left | ⟨_, _, _, left⟩ <;>
    rcases cases_of_isAboveZero positive with right | ⟨_, _, _, right⟩
  all_goals rw [left, right]
  case inr.inr.inr.inr => exact isBelowZero_roundWithAccuracy _ _ _ _
  all_goals rfl

section Patterns

variable (bits : BitVec 64)

/-- The mantissa bits of a pattern are the lowest ones. -/
theorem toNat_unpackMantissa :
    (@UnpackedFloat.unpackMantissa .binary64 bits).toNat = bits.toNat % 2 ^ 52 := by
  simp [UnpackedFloat.unpackMantissa]

/-- The exponent bits of a pattern come next. -/
theorem toNat_unpackExponent :
    (@UnpackedFloat.unpackExponent .binary64 bits).toNat = bits.toNat / 2 ^ 52 % 2 ^ 11 := by
  simp [UnpackedFloat.unpackExponent, BitVec.extractLsb_toNat, Nat.shiftRight_eq_div_pow]

/-- The sign bit of a pattern is the highest one. -/
theorem toNat_unpackSign :
    (@UnpackedFloat.unpackSign .binary64 bits).toNat = bits.toNat / 2 ^ 63 % 2 := by
  simp [UnpackedFloat.unpackSign, BitVec.extractLsb_toNat, Nat.shiftRight_eq_div_pow]

/-- A finite pattern with its sign bit set lies below zero, unless no other bit is set. -/
theorem isBelowZero_unpack (negative : bits.toNat / 2 ^ 63 % 2 = 1)
    (finite : bits.toNat / 2 ^ 52 % 2 ^ 11 ≠ 2047)
    (nonzero : bits.toNat / 2 ^ 52 % 2 ^ 11 = 0 → bits.toNat % 2 ^ 52 ≠ 0) :
    isBelowZero (UnpackedFloat.unpack .binary64 bits) = true := by
  -- The sign and the exponent are fields of the pattern, and are read off its number.
  have sign : UnpackedFloat.Sign.ofBitVec (@UnpackedFloat.unpackSign .binary64 bits)
      = .negative := by
    rw [UnpackedFloat.Sign.ofBitVec, if_neg]
    intro none
    have value := congrArg BitVec.toNat none
    rw [toNat_unpackSign, negative] at value
    cases value
  have notAll : @UnpackedFloat.unpackExponent .binary64 bits ≠ -1#_ := by
    intro all
    have value := congrArg BitVec.toNat all
    rw [toNat_unpackExponent] at value
    exact finite value
  -- What is left are the patterns of zero, of a subnormal number, and of a normal one.
  unfold UnpackedFloat.unpack
  simp only [sign, if_neg notAll]
  split
  · rename_i noExponent
    have value := congrArg BitVec.toNat noExponent
    rw [toNat_unpackExponent] at value
    split
    · rename_i noMantissa
      have rest := congrArg BitVec.toNat noMantissa
      rw [toNat_unpackMantissa] at rest
      exact absurd rest (nonzero value)
    · rfl
  · rfl

end Patterns

/-- A double that denotes a negative number other than zero lies below zero. -/
theorem lt_zero_of_negative {value : Float} {mantissa : Nat} {exponent : Int}
    (denotes : Denotation.of value = .finite true mantissa exponent) (some : mantissa ≠ 0) :
    value < 0.0 := by
  -- Order and denotation are both defined on the bits, by different functions.
  rw [lt_zero_iff]
  show isBelowZero (UnpackedFloat.unpack .binary64 value.toBits.toBitVec) = true
  have bits : value.toBits.toNat = value.toBits.toBitVec.toNat := rfl
  unfold Denotation.of Denotation.ofBits at denotes
  rw [bits] at denotes
  simp only [twoTo, beq_iff_eq] at denotes
  repeat' split at denotes
  all_goals simp only [reduceCtorEq, Denotation.finite.injEq, beq_iff_eq] at denotes
  · -- Without scale bits the mantissa is all that there is, and it is not zero.
    rename_i finite noScale
    obtain ⟨negative, rfl, _⟩ := denotes
    exact isBelowZero_unpack _ negative finite fun _ => some
  · -- With scale bits there is no need to look at the mantissa.
    rename_i finite scale
    exact isBelowZero_unpack _ denotes.1 finite fun noScale => absurd noScale scale

/-- A whole number that is not negative is not negative when it is clamped to a word. -/
theorem clampWord_nonneg {number : Int} (nonneg : 0 ≤ number) : 0 ≤ (clampWord number).toInt := by
  have least : Int64.minValue.toInt = -2 ^ 63 := rfl
  have greatest : Int64.maxValue.toInt = 2 ^ 63 - 1 := rfl
  unfold clampWord
  rw [least, greatest]
  split
  · omega
  · split
    · rw [greatest]
      omega
    · rw [Int64.toInt_ofInt_of_le (by omega) (by omega)]
      exact nonneg

/-- The whole number nearest to a double that is not below zero is not negative. -/
theorem nearestWhole_nonneg {value : Float} (notBelow : ¬ value < 0.0) :
    0 ≤ (nearestWhole value).toInt := by
  unfold nearestWhole
  split
  · exact Int.le_refl 0
  · exact Int.le_refl 0
  · rename_i negative mantissa exponent denotes
    apply clampWord_nonneg
    cases negative with
    | false => exact Int.natCast_nonneg _
    | true =>
      -- Of the numbers with a negative sign, only zero is not below zero.
      obtain rfl : mantissa = 0 := by
        by_contra nonzero
        exact notBelow (lt_zero_of_negative denotes nonzero)
      simp [dyadicNumerator, nearestEven]

end FlatKnit
