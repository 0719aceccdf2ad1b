import FlatKnit.Proofs.Decimal.Notation
import FlatKnit.Proofs.Text.Scan

/-! Texts with a set number of places: they denote the nearest number that has so many places. -/

namespace FlatKnit

/-- A size with a minus in front, or as it is. -/
def signedNumber (negative : Bool) (size : ℚ) : ℚ :=
  if negative then -size else size

/-- The number that a finite double is. -/
def Denotation.number? : Denotation → Option ℚ
  | finite negative mantissa exponent => some (signedNumber negative (mantissa * 2 ^ exponent))
  | _ => none

/-- Digits with a minus in front, or as they are. -/
def withSign (negative : Bool) (digits : List Char) : List Char :=
  if negative then '-' :: digits else digits

/--
The number that a decimal text denotes: digits behind a sign or none, and perhaps a point with more
digits. No other text denotes a number, and so none with an exponent does.
-/
def decimalNumber? (text : List Char) : Option ℚ :=
  let (negative, unsigned) := splitSign text
  match splitDigits unsigned with
  | ([], _) => none
  | (whole, []) => some (signedNumber negative (digitsValue whole))
  | (whole, '.' :: fraction) =>
    if fraction.all Char.isDigit then
      some (signedNumber negative (digitsValue (whole ++ fraction) / 10 ^ fraction.length))
    else none
  | _ => none

/-- The digits of a decimal text in front of its point. -/
def wholeDigits (text : List Char) : List Char :=
  (splitDigits (splitSign text).2).1

/--
A number is rounded to some places: it becomes a multiple of the last place, and none is nearer.

Halfway between two of them it becomes the even one.
-/
def RoundsTo (places : Nat) (number rounded : ℚ) : Prop :=
  ∃ multiple : ℤ, rounded = multiple / 10 ^ places ∧
    |number * 10 ^ places - multiple| ≤ 1 / 2 ∧
    (|number * 10 ^ places - multiple| = 1 / 2 → Even multiple)

section Parts

variable {whole fraction rest : List Char} {negative : Bool}

/-- The sign in front of digits is split off. -/
theorem splitSign_withSign (digits : AllDigits whole) (filled : whole ≠ []) :
    splitSign (withSign negative (whole ++ rest)) = (negative, whole ++ rest) := by
  -- A digit in front is not taken for a sign.
  obtain ⟨first, others, rfl⟩ := List.exists_cons_of_ne_nil filled
  cases negative with
  | true => rfl
  | false => exact splitSign_digit (digits first List.mem_cons_self) (others ++ rest)

/-- Digits are split off in front of a point. -/
theorem splitDigits_point (digits : AllDigits whole) :
    splitDigits (whole ++ '.' :: rest) = (whole, '.' :: rest) := by
  -- The point is the first character that is no digit.
  have stops : ∀ character ∈ ('.' :: rest).head?, character.isDigit = false := by simp
  rw [splitDigits, takeWhile_front digits stops, dropWhile_front digits stops]

/-- A text of digits only is split off as a whole. -/
theorem splitDigits_self (digits : AllDigits whole) : splitDigits whole = (whole, []) := by
  rw [splitDigits, List.takeWhile_eq_self_iff.mpr digits, List.dropWhile_eq_nil_iff.mpr digits]

/-- Digits around a point denote their count of the last place. -/
theorem decimalNumber?_point (digits : AllDigits whole) (filled : whole ≠ [])
    (places : AllDigits fraction) :
    decimalNumber? (withSign negative (whole ++ '.' :: fraction)) =
      some (signedNumber negative (digitsValue (whole ++ fraction) / 10 ^ fraction.length)) := by
  -- The sign is split off, and then the digits up to the point; what is left are digits as well.
  have all : fraction.all Char.isDigit = true := List.all_eq_true.mpr places
  obtain ⟨first, others, rfl⟩ := List.exists_cons_of_ne_nil filled
  rw [decimalNumber?, splitSign_withSign digits filled]
  simp only [splitDigits_point digits, all, if_true]

/-- Digits without a point denote their value. -/
theorem decimalNumber?_whole (digits : AllDigits whole) (filled : whole ≠ []) :
    decimalNumber? (withSign negative whole) =
      some (signedNumber negative (digitsValue whole)) := by
  -- Nothing is left behind the digits, so that there is no point to look for.
  have sign := @splitSign_withSign whole [] negative digits filled
  rw [List.append_nil] at sign
  obtain ⟨first, others, rfl⟩ := List.exists_cons_of_ne_nil filled
  rw [decimalNumber?, sign]
  simp only [splitDigits_self digits]

/-- The digits in front of the point are those that are written there. -/
theorem wholeDigits_point (digits : AllDigits whole) (filled : whole ≠ []) :
    wholeDigits (withSign negative (whole ++ '.' :: fraction)) = whole := by
  rw [wholeDigits, splitSign_withSign digits filled, splitDigits_point digits]

/-- A text without a point has all of its digits in front of it. -/
theorem wholeDigits_whole (digits : AllDigits whole) (filled : whole ≠ []) :
    wholeDigits (withSign negative whole) = whole := by
  -- With nothing behind the digits, all of them are taken.
  have sign := @splitSign_withSign whole [] negative digits filled
  rw [List.append_nil] at sign
  rw [wholeDigits, sign, splitDigits_self digits]

end Parts

/-- Digits around a point: some before it, a set number behind it, and a count of the last place. -/
structure PointedAt (places count : Nat) (whole fraction : List Char) : Prop where
  wholeDigits : AllDigits whole
  wholeSome : whole ≠ []
  fractionDigits : AllDigits fraction
  written : pointed places count = whole ++ '.' :: fraction
  placed : fraction.length = places
  counted : digitsValue (whole ++ fraction) = count

/-- A count of the last place is written around a point. -/
theorem exists_pointedAt (places count : Nat) :
    ∃ whole fraction, PointedAt places count whole fraction := by
  -- Zeros in front add nothing to the value, and make the text longer than its places.
  have digits := (allDigits_zeros (places + 1 - (Nat.toDigits 10 count).length)).append
    (allDigits_toDigits count)
  have value : digitsValue (zeros (places + 1 - (Nat.toDigits 10 count).length) ++
      Nat.toDigits 10 count) = count := by
    rw [digitsValue_append, digitsValue_zeros, digitsValue_toDigits]
    omega
  have long : places < (zeros (places + 1 - (Nat.toDigits 10 count).length) ++
      Nat.toDigits 10 count).length := by
    rw [List.length_append, zeros, List.length_replicate]
    omega
  generalize padded : zeros (places + 1 - (Nat.toDigits 10 count).length) ++
    Nat.toDigits 10 count = text at digits value long
  -- So there is at least one digit in front of the point.
  refine ⟨text.take (text.length - places), text.drop (text.length - places),
    ⟨?_, ?_, ?_, ?_, ?_, ?_⟩⟩
  · exact fun digit member => digits digit (List.mem_of_mem_take member)
  · rw [ne_eq, List.take_eq_nil_iff, ← List.length_eq_zero_iff]
    omega
  · exact fun digit member => digits digit (List.mem_of_mem_drop member)
  · rw [pointed, padded]
  · rw [List.length_drop]
    omega
  · rw [List.take_append_drop, value]

/-- A finite double denotes a number. -/
theorem exists_denotes {value : Float} (finite : value.isFinite = true) :
    ∃ negative mantissa exponent, Denotation.of value = .finite negative mantissa exponent := by
  have notAll := isFinite_unpack_iff.mp (show
    (Float.Model.UnpackedFloat.unpack .binary64 value.toBits.toBitVec).isFinite = true from finite)
  have notLast : value.toBits.toNat / 2 ^ 52 % 2 ^ 11 ≠ 2047 := by
    intro last
    apply notAll
    apply BitVec.eq_of_toNat_eq
    rw [toNat_unpackExponent]
    exact last
  have scale : (value.toBits.toNat / twoTo 52 % 2048 == 2047) = false :=
    beq_eq_false_iff_ne.mpr notLast
  -- Only the last scale is that of infinities and of what is no number.
  unfold Denotation.of Denotation.ofBits
  simp only [scale, Bool.false_eq_true, if_false]
  split <;> exact ⟨_, _, _, rfl⟩

/-- The quotient of a mantissa and its power of two is the number that they stand for. -/
theorem dyadic_quotient (mantissa : Nat) (exponent : Int) :
    (dyadicNumerator mantissa exponent : ℚ) / dyadicDenominator exponent =
      mantissa * 2 ^ exponent := by
  -- Of the two powers of two one is the first, depending on the sign of the exponent.
  have power : (2 : ℚ) ^ exponent * 2 ^ (-exponent).toNat = 2 ^ exponent.toNat :=
    zpow_mul_pow_toNat two_ne_zero exponent
  rw [dyadicNumerator, dyadicDenominator, Nat.cast_mul, cast_twoTo, cast_twoTo, ← power]
  field_simp

/-- The distance of a quotient from the whole number that it is rounded to. -/
theorem nearestEven_distance {denominator : Nat} (numerator : Nat) (positive : 0 < denominator) :
    |(numerator / denominator : ℚ) - nearestEven numerator denominator| ≤ 1 / 2 ∧
      (|(numerator / denominator : ℚ) - nearestEven numerator denominator| = 1 / 2 →
        Even (nearestEven numerator denominator)) := by
  obtain ⟨lower, upper, even⟩ := nearestEven_near numerator positive
  generalize nearestEven numerator denominator = whole at *
  have scale : (0 : ℚ) < denominator := by exact_mod_cast positive
  have lowerCast : (2 : ℚ) * (whole * denominator) ≤ 2 * numerator + denominator := by
    exact_mod_cast lower
  have upperCast : (2 : ℚ) * numerator ≤ 2 * (whole * denominator) + denominator := by
    exact_mod_cast upper
  -- The bounds are those of the distance, multiplied by twice the denominator.
  have split : (numerator / denominator : ℚ) * denominator = numerator :=
    div_mul_cancel₀ _ scale.ne'
  generalize (numerator / denominator : ℚ) = quotient at split
  rw [← split] at lowerCast upperCast
  refine ⟨?_, ?_⟩
  · rw [abs_le]
    constructor <;> nlinarith
  · intro half
    rw [Nat.even_iff]
    apply even
    -- At half of the distance, one of the bounds is reached.
    rcases (abs_eq (by norm_num : (0 : ℚ) ≤ 1 / 2)).mp half with above | below
    · right
      have cast : (2 : ℚ) * numerator = 2 * (whole * denominator) + denominator := by
        rw [← split, eq_add_of_sub_eq above]
        ring
      exact_mod_cast cast
    · left
      have cast : (2 : ℚ) * (whole * denominator) = 2 * numerator + denominator := by
        rw [← split, eq_add_of_sub_eq below]
        ring
      exact_mod_cast cast

/-- A sign in front of a rounded number is that of the number. -/
theorem RoundsTo.signed {places count : Nat} {size : ℚ} (negative : Bool)
    (near : |size * 10 ^ places - count| ≤ 1 / 2)
    (even : |size * 10 ^ places - count| = 1 / 2 → Even count) :
    RoundsTo places (signedNumber negative size) (signedNumber negative (count / 10 ^ places)) := by
  cases negative with
  | false =>
    -- Without a sign, the count itself is the multiple.
    exact ⟨count, rfl, near, fun half => by exact_mod_cast even half⟩
  | true =>
    -- The negative of the multiple is as far away from the negative of the number.
    have distance : |-size * 10 ^ places - (-count : ℤ)| = |size * 10 ^ places - count| := by
      rw [← abs_neg]
      congr 1
      push_cast
      ring
    refine ⟨-count, ?_, ?_, ?_⟩
    · simp only [signedNumber, if_true]
      push_cast
      ring
    · simp only [signedNumber, if_true]
      rw [distance]
      exact near
    · simp only [signedNumber, if_true]
      rw [distance]
      intro half
      exact (by exact_mod_cast even half : Even (count : ℤ)).neg

/-- A double is written with digits around a point for the count of places that it is rounded to. -/
structure FixedAt (places : Nat) (value : Float) (negative : Bool) (count : Nat)
    (whole fraction : List Char) : Prop extends PointedAt places count whole fraction where
  text : fixedText places value = withSign negative (pointed places count)
  rounds : ∃ exact, (.of value : Denotation).number? = some exact ∧
    RoundsTo places exact (signedNumber negative (count / 10 ^ places))

/-- A finite double is written with any number of places. -/
theorem exists_fixedAt {value : Float} (finite : value.isFinite = true) (places : Nat) :
    ∃ negative count whole fraction, FixedAt places value negative count whole fraction := by
  obtain ⟨negative, mantissa, exponent, denotes⟩ := exists_denotes finite
  obtain ⟨whole, fraction, digits⟩ := exists_pointedAt places
    (nearestEven (dyadicNumerator mantissa exponent * tenTo places) (dyadicDenominator exponent))
  refine ⟨negative, _, whole, fraction, digits, ?_, ?_⟩
  · simp only [fixedText, denotes, withSign]
  · -- The quotient that is rounded is the number, counted in the last place.
    have distance := nearestEven_distance (dyadicNumerator mantissa exponent * tenTo places)
      (show 0 < dyadicDenominator exponent from twoTo_pos _)
    rw [Nat.cast_mul, cast_tenTo, mul_div_right_comm, dyadic_quotient] at distance
    exact ⟨_, by rw [denotes, Denotation.number?],
      RoundsTo.signed negative distance.1 distance.2⟩

/-- A text with fixed places denotes the number that its double is rounded to. -/
theorem FixedAt.number {places count : Nat} {value : Float} {negative : Bool}
    {whole fraction : List Char} (fixed : FixedAt places value negative count whole fraction) :
    decimalNumber? (fixedText places value) =
      some (signedNumber negative (count / 10 ^ places)) := by
  -- The digits count the last place, of which there are as many as the power of ten says.
  rw [fixed.text, fixed.written, decimalNumber?_point fixed.wholeDigits fixed.wholeSome
    fixed.fractionDigits, fixed.counted, fixed.placed]

end FlatKnit
