import FlatKnit.Gauge
import FlatKnit.Proofs.Decimal.Finite

/-! Rounding: a quotient near a double is rounded to the pattern of that double. -/

namespace FlatKnit

open Float.Model

section Patterns

/-- The fields of a finite double above zero: no sign, not the last scale, and not all unset. -/
theorem fields_of_isAboveZero {bits : BitVec 64}
    (above : isAboveZero (UnpackedFloat.unpack .binary64 bits) = true)
    (finite : (UnpackedFloat.unpack .binary64 bits).isFinite = true) :
    bits.toNat < 2 ^ 63 ∧ bits.toNat / 2 ^ 52 % 2 ^ 11 ≠ 2047 ∧ bits.toNat ≠ 0 := by
  have notAll := isFinite_unpack_iff.mp finite
  -- Each of the three is excluded in turn: the sign bit, the last scale, and the pattern of zero.
  refine ⟨?_, ?_, ?_⟩
  · by_contra negative
    have sign : @UnpackedFloat.unpackSign .binary64 bits ≠ 0#1 := by
      intro none
      have highest := congrArg BitVec.toNat none
      have width := bits.isLt
      rw [toNat_unpackSign, BitVec.toNat_ofNat] at highest
      omega
    -- With the sign bit set, nothing that is unpacked lies above zero.
    unfold UnpackedFloat.unpack at above
    dsimp only at above
    rw [if_neg notAll, UnpackedFloat.Sign.ofBitVec, if_neg sign] at above
    repeat' split at above
    all_goals cases above
  · intro last
    apply notAll
    apply BitVec.eq_of_toNat_eq
    rw [toNat_unpackExponent, last]
    rfl
  · intro none
    obtain rfl : bits = 0#64 := BitVec.eq_of_toNat_eq none
    cases above

end Patterns

/--
What a finite double above zero is made of: a mantissa, and how often it is doubled.

The least scale is that of the least doubles; only they may have a mantissa without its leading bit.
-/
structure MadeOf (mantissa scale : Nat) (value : Float) : Prop where
  bits : value.toBits.toNat = scale * 2 ^ 52 + mantissa
  denotes : Denotation.of value = .finite false mantissa (scale - 1074)
  positive : 0 < mantissa
  small : mantissa < 2 ^ 53
  leading : scale = 0 ∨ 2 ^ 52 ≤ mantissa
  limit : scale ≤ 2045

/-- A double that can be used is finite and above zero, and so has a mantissa and a scale. -/
theorem exists_madeOf {value : Float} (usable : isUsable value = true) :
    ∃ mantissa scale, MadeOf mantissa scale value := by
  -- The sign is unset and the scale is not the last one, so that the pattern denotes a finite
  -- number.
  rw [isUsable, Bool.and_eq_true, decide_eq_true_eq] at usable
  obtain ⟨positive, finite, nonzero⟩ :=
    fields_of_isAboveZero ((zero_lt_iff value).mp usable.2) usable.1
  have bits : value.toModel.toBits.toBitVec.toNat = value.toBits.toNat := rfl
  rw [bits] at positive finite nonzero
  have denotes : Denotation.of value = Denotation.ofBits value.toBits.toNat := rfl
  generalize same : value.toBits.toNat = number at positive finite nonzero denotes
  have sign : (number / 2 ^ 63 % 2 == 1) = false := by
    rw [beq_eq_false_iff_ne]
    omega
  have notLast : (number / 2 ^ 52 % 2048 == 2047) = false := beq_eq_false_iff_ne.mpr finite
  unfold Denotation.ofBits at denotes
  simp only [twoTo, Nat.pow_eq, sign, notLast, Bool.false_eq_true, if_false] at denotes
  by_cases none : number / 2 ^ 52 % 2048 = 0
  · rw [if_pos (beq_iff_eq.mpr none)] at denotes
    exact ⟨number % 2 ^ 52, 0, by omega, denotes, by omega, by omega, .inl rfl, by omega⟩
  · -- The leading bit of the mantissa takes one away from the scale that is written.
    rw [if_neg (by simpa using none)] at denotes
    refine ⟨2 ^ 52 + number % 2 ^ 52, number / 2 ^ 52 - 1, by omega, ?_, by omega, by omega,
      .inr (by omega), by omega⟩
    rw [denotes]
    congr 1
    rw [Int.ofNat_eq_natCast]
    omega

/-- A quotient is rounded to a whole number within half of it, and from a half to an even one. -/
theorem nearestEven_near {denominator : Nat} (numerator : Nat) (positive : 0 < denominator) :
    2 * (nearestEven numerator denominator * denominator) ≤ 2 * numerator + denominator ∧
      2 * numerator ≤ 2 * (nearestEven numerator denominator * denominator) + denominator ∧
      (2 * (nearestEven numerator denominator * denominator) = 2 * numerator + denominator ∨
        2 * numerator = 2 * (nearestEven numerator denominator * denominator) + denominator →
          nearestEven numerator denominator % 2 = 0) := by
  have divided := Nat.div_add_mod numerator denominator
  have rest := Nat.mod_lt numerator positive
  unfold nearestEven
  dsimp only
  generalize numerator / denominator = quotient at *
  generalize numerator % denominator = remainder at *
  rw [Nat.mul_comm] at divided
  -- The remainder decides between the quotient that is cut off and the one after it.
  split
  · omega
  · split
    · rw [Nat.add_mul]
      omega
    · -- A half goes to the even neighbour.
      rcases Nat.mod_two_eq_zero_or_one quotient with even | odd
      · rw [even, Nat.add_zero]
        omega
      · rw [odd, Nat.add_mul]
        omega

/-- A quotient within half of two numbers lies halfway between them, and they are neighbours. -/
theorem neighbours_of_near {numerator denominator low high : Nat} (positive : 0 < denominator)
    (apart : low < high) (above : 2 * numerator ≤ 2 * (low * denominator) + denominator)
    (below : 2 * (high * denominator) ≤ 2 * numerator + denominator) :
    high = low + 1 ∧ 2 * numerator = 2 * (low * denominator) + denominator ∧
      2 * (high * denominator) = 2 * numerator + denominator := by
  -- The numbers are at least a whole apart, and both bounds leave no more than that.
  have wide := Nat.mul_le_mul_right denominator apart
  rw [Nat.succ_mul] at wide
  have next : high * denominator = (low + 1) * denominator := by
    rw [Nat.succ_mul]
    omega
  have neighbours := Nat.eq_of_mul_eq_mul_right positive next
  rw [Nat.succ_mul] at next
  exact ⟨neighbours, by omega, by omega⟩

/-- A quotient within half of a whole number is rounded to it; from both halves, if it is even. -/
theorem nearestEven_eq {numerator denominator number : Nat} (positive : 0 < denominator)
    (lower : 2 * (number * denominator) ≤ 2 * numerator + denominator)
    (upper : 2 * numerator ≤ 2 * (number * denominator) + denominator)
    (even : 2 * (number * denominator) = 2 * numerator + denominator ∨
      2 * numerator = 2 * (number * denominator) + denominator → number % 2 = 0) :
    nearestEven numerator denominator = number := by
  obtain ⟨least, most, tie⟩ := nearestEven_near numerator positive
  generalize nearestEven numerator denominator = other at *
  -- Two numbers within half would be neighbours at a half, and both of them even.
  rcases Nat.lt_trichotomy other number with less | same | more
  · obtain ⟨next, below, above⟩ := neighbours_of_near positive less most lower
    omega
  · exact same
  · obtain ⟨next, below, above⟩ := neighbours_of_near positive more upper least
    omega

/-- The scale of a number of units is the one that leaves its mantissa between two powers of two. -/
theorem log2_sub_eq {number scale : Nat} (least : scale = 0 ∨ 2 ^ (scale + 52) ≤ number)
    (most : number < 2 ^ (scale + 53)) : Nat.log2 number - 52 = scale := by
  -- At the least scale the subtraction stops at zero, and above it the logarithm is known.
  rcases least with rfl | least
  · by_cases none : number = 0
    · rw [none]
      rfl
    · have short := (Nat.log2_lt none).mpr most
      omega
  · have nonzero : number ≠ 0 := by
      have power := Nat.two_pow_pos (scale + 52)
      omega
    rw [(Nat.log2_eq_iff nonzero).mpr ⟨least, most⟩]
    omega

/-- The scale of a quotient, by the multiples of its divisor that the dividend lies between. -/
theorem log2_div_sub_eq {number denominator scale : Nat} (positive : 0 < denominator)
    (least : scale = 0 ∨ 2 ^ 52 * (denominator * 2 ^ scale) ≤ number)
    (most : number < 2 ^ 53 * (denominator * 2 ^ scale)) :
    Nat.log2 (number / denominator) - 52 = scale := by
  -- Both bounds are divided by the divisor, and the powers of two are brought together.
  apply log2_sub_eq
  · rcases least with rfl | least
    · exact .inl rfl
    · right
      rw [Nat.le_div_iff_mul_le positive, Nat.pow_add, Nat.mul_right_comm, Nat.mul_comm (2 ^ scale)]
      omega
  · rw [Nat.div_lt_iff_lt_mul positive, Nat.pow_add, Nat.mul_right_comm, Nat.mul_comm (2 ^ scale)]
    omega

/--
A quotient of units lies around a mantissa: within half of it, or within a quarter below a power of
two, where the doubles lie closer. The ends belong to a mantissa that is even.
-/
structure LiesAround (mantissa scale numerator denominator : Nat) : Prop where
  lower : 4 * (mantissa * denominator) ≤ 4 * numerator + 2 * denominator
  upper : 4 * numerator ≤ 4 * (mantissa * denominator) + 2 * denominator
  even : 4 * (mantissa * denominator) = 4 * numerator + 2 * denominator ∨
    4 * numerator = 4 * (mantissa * denominator) + 2 * denominator → mantissa % 2 = 0
  closer : mantissa = 2 ^ 52 → scale ≠ 0 →
    4 * (mantissa * denominator) ≤ 4 * numerator + denominator

/-- A quotient that lies around a mantissa is rounded to the pattern of that mantissa. -/
theorem nearestBits_eq {mantissa scale numerator denominator : Nat} (positive : 0 < denominator)
    (small : mantissa < 2 ^ 53) (leading : scale = 0 ∨ 2 ^ 52 ≤ mantissa) (limit : scale ≤ 2045)
    (near : LiesAround mantissa scale (numerator * twoTo 1074) (denominator * twoTo scale)) :
    nearestBits numerator denominator = scale * 2 ^ 52 + mantissa := by
  obtain ⟨lower, upper, even, closer⟩ := near
  unfold nearestBits
  dsimp only
  generalize numerator * twoTo 1074 = number at *
  simp only [twoTo, Nat.pow_eq] at *
  -- The quotient is counted in least doubles from here on, and compared with multiples of its
  -- spacing.
  have spaced : 0 < denominator * 2 ^ scale := Nat.mul_pos positive (Nat.two_pow_pos scale)
  have most : mantissa * (denominator * 2 ^ scale) ≤ (2 ^ 53 - 1) * (denominator * 2 ^ scale) :=
    Nat.mul_le_mul_right _ (by omega)
  by_cases above : scale = 0 ∨ 2 ^ 52 * (denominator * 2 ^ scale) ≤ number
  · -- The scale is that of the mantissa, and the quotient is rounded to the mantissa.
    have scaled : Nat.log2 (number / denominator) - 52 = scale :=
      log2_div_sub_eq positive above (by omega)
    rw [scaled, @nearestEven_eq _ _ mantissa spaced (by omega) (by omega) (by omega)]
    omega
  · -- Just below a power of two, the quotient has the scale before, and is rounded up to the power.
    obtain ⟨nonzero, under⟩ := not_or.mp above
    obtain ⟨before, rfl⟩ : ∃ before, scale = before + 1 := ⟨scale - 1, by omega⟩
    have power : mantissa = 2 ^ 52 := by
      have least : 2 ^ 52 ≤ mantissa := leading.resolve_left nonzero
      by_contra other
      have next := Nat.mul_le_mul_right (denominator * 2 ^ (before + 1))
        (show 2 ^ 52 + 1 ≤ mantissa by omega)
      rw [Nat.add_mul] at next
      omega
    have quarter := closer power nonzero
    have doubled : denominator * 2 ^ (before + 1) = 2 * (denominator * 2 ^ before) := by
      rw [Nat.pow_succ]
      ring
    rw [power, doubled] at quarter
    rw [doubled] at under
    have scaled : Nat.log2 (number / denominator) - 52 = before :=
      log2_div_sub_eq positive (.inr (by omega)) (by omega)
    -- The rounded mantissa is a power of two, which carries into the scale.
    have carried : nearestEven number (denominator * 2 ^ before) = 2 ^ 53 := by
      apply nearestEven_eq (Nat.mul_pos positive (Nat.two_pow_pos before))
      · omega
      · omega
      · omega
    rw [scaled, carried, power, Nat.min_eq_left (by omega)]
    omega

end FlatKnit
