import FlatKnit.Decimal.Notation
import FlatKnit.Proofs.Decimal.Shortest

/-! Texts of doubles: digits around a point, or with an exponent, for their shortest decimals. -/

namespace FlatKnit

/-- The digits of a number above zero do not start with a zero. -/
theorem head?_toDigits {number : Nat} (nonzero : 0 < number) :
    (Nat.toDigits 10 number).head? ≠ some '0' := by
  induction number using Nat.strongRecOn with
  | ind number ih =>
    rw [Nat.toDigits_eq_if (by decide)]
    split
    case isTrue single =>
      have digits : ∀ digit < 10, 0 < digit → [digit.digitChar].head? ≠ some '0' := by decide
      exact digits number single nonzero
    case isFalse several =>
      -- The first digit is that of the number without its last digit.
      have shorter := ih (number / 10) (by omega) (by omega)
      rw [List.head?_append_of_ne_nil _ Nat.toDigits_ne_nil]
      exact shorter

/-- All characters of a list are digits. -/
def AllDigits (characters : List Char) : Prop :=
  ∀ character ∈ characters, character.isDigit = true

/-- The digits of a number are digits. -/
theorem allDigits_toDigits (number : Nat) : AllDigits (Nat.toDigits 10 number) :=
  fun _ member => Nat.isDigit_of_mem_toDigits (by decide) (by decide) member

/-- Zeros are digits. -/
theorem allDigits_zeros (count : Nat) : AllDigits (zeros count) := by
  intro character member
  rw [List.eq_of_mem_replicate member]
  rfl

/-- Digits behind digits are digits. -/
theorem AllDigits.append {first second : List Char} (one : AllDigits first)
    (two : AllDigits second) : AllDigits (first ++ second) := by
  intro character member
  rcases List.mem_append.mp member with earlier | later
  · exact one character earlier
  · exact two character later

/-- A digit is no sign. -/
theorem splitSign_digit {first : Char} (digit : first.isDigit = true) (others : List Char) :
    splitSign (first :: others) = (false, first :: others) := by
  unfold splitSign
  split
  case h_1 same =>
    obtain ⟨rfl, _⟩ := List.cons.inj same
    cases digit
  case h_2 same =>
    obtain ⟨rfl, _⟩ := List.cons.inj same
    cases digit
  case h_3 => rfl

/-- The value of the digits of a number is the number. -/
@[simp] theorem digitsValue_toDigits (number : Nat) :
    digitsValue (Nat.toDigits 10 number) = number :=
  Nat.ofDigitChars_ten_toDigits

/-- The value of digits behind digits: the first ones are shifted by as many places. -/
theorem digitsValue_append (first second : List Char) :
    digitsValue (first ++ second) =
      digitsValue first * 10 ^ second.length + digitsValue second := by
  rw [digitsValue, Nat.ofDigitChars_append, Nat.ofDigitChars_eq_ofDigitChars_zero]
  rw [Nat.mul_comm]
  rfl

/-- Zeros have no value. -/
@[simp] theorem digitsValue_zeros (count : Nat) : digitsValue (zeros count) = 0 := by
  rw [digitsValue, zeros, Nat.ofDigitChars_replicate_zero, Nat.mul_zero]

/-- Digits with a point between them stand for a number; no zero comes before other whole digits. -/
structure Pointed (whole fraction : List Char) (number : ℚ) : Prop where
  wholeDigits : AllDigits whole
  fractionDigits : AllDigits fraction
  wholeSome : whole ≠ []
  fractionSome : fraction ≠ []
  leading : whole = ['0'] ∨ whole.head? ≠ some '0'
  positive : 0 < digitsValue (whole ++ fraction)
  number : (digitsValue (whole ++ fraction) : ℚ) * 10 ^ (-fraction.length : Int) = number

namespace Scientific

variable {decimal : Scientific}

/-- Positional notation that ends whole numbers in a point and a zero has digits around a point. -/
theorem pointed_positionalText (nonzero : 0 < decimal.digits) : ∃ whole fraction,
    decimal.positionalText true = whole ++ '.' :: fraction ∧
      Pointed whole fraction decimal.number := by
  have digits := allDigits_toDigits decimal.digits
  have nonempty : Nat.toDigits 10 decimal.digits ≠ [] := Nat.toDigits_ne_nil
  have first := head?_toDigits nonzero
  have value := digitsValue_toDigits decimal.digits
  have counted := List.length_pos_iff.mpr nonempty
  unfold positionalText Scientific.number
  simp only [Int.ofNat_eq_natCast]
  generalize Nat.toDigits 10 decimal.digits = text at *
  split
  case isTrue wide =>
    -- The zeros stand for the power of ten, and one more of them behind the point.
    have appended : digitsValue (text ++ zeros decimal.exponent.toNat ++ ['0']) =
        decimal.digits * 10 ^ decimal.exponent.toNat * 10 := by
      have zero : digitsValue ['0'] = 0 := rfl
      rw [digitsValue_append, digitsValue_append, value, digitsValue_zeros, zero, zeros,
        List.length_replicate]
      simp
    refine ⟨text ++ zeros decimal.exponent.toNat, ['0'], by simp, digits.append (allDigits_zeros _),
      allDigits_zeros 1, by simp [nonempty], by simp, ?_, ?_, ?_⟩
    · right
      rw [List.head?_append_of_ne_nil _ nonempty]
      exact first
    · rw [appended]
      positivity
    · have whole : (10 : ℚ) ^ decimal.exponent = 10 ^ decimal.exponent.toNat := by
        rw [← zpow_natCast, Int.toNat_of_nonneg wide]
      rw [appended, whole]
      simp
  case isFalse narrow =>
    split
    case isTrue inside =>
      -- The point stands among the digits, before as many of them as the exponent says.
      refine ⟨text.take (text.length + decimal.exponent : Int).toNat,
        text.drop (text.length + decimal.exponent : Int).toNat, rfl,
        fun digit member => digits digit (List.mem_of_mem_take member),
        fun digit member => digits digit (List.mem_of_mem_drop member), ?_, ?_, ?_, ?_, ?_⟩
      · rw [ne_eq, List.take_eq_nil_iff, not_or]
        exact ⟨by omega, nonempty⟩
      · rw [ne_eq, List.drop_eq_nil_iff]
        omega
      · right
        rw [List.head?_take, if_neg (by omega)]
        exact first
      · rw [List.take_append_drop, value]
        exact nonzero
      · rw [List.take_append_drop, value]
        refine congrArg (fun power : Int => (decimal.digits : ℚ) * 10 ^ power) ?_
        rw [List.length_drop]
        omega
    case isFalse before =>
      have appended : digitsValue (['0'] ++ (zeros (-(text.length + decimal.exponent : Int)).toNat
          ++ text)) = decimal.digits := by
        have zero : digitsValue ['0'] = 0 := rfl
        rw [digitsValue_append, digitsValue_append, value, digitsValue_zeros, zero]
        simp
      refine ⟨['0'], zeros (-(text.length + decimal.exponent : Int)).toNat ++ text, by simp,
        allDigits_zeros 1, (allDigits_zeros _).append digits, by simp, by simp [nonempty],
        .inl rfl, ?_, ?_⟩
      · rw [appended]
        exact nonzero
      · rw [appended]
        refine congrArg (fun power : Int => (decimal.digits : ℚ) * 10 ^ power) ?_
        rw [List.length_append, zeros, List.length_replicate]
        omega

/-- Exponent notation has the first digit before the point and the others, if any, behind it. -/
theorem exponentText_eq (decimal : Scientific) : ∃ first rest,
    Nat.toDigits 10 decimal.digits = first :: rest ∧
      decimal.exponentText = first :: ((if rest.isEmpty then [] else '.' :: rest) ++
        'e' :: (if decimal.leadingPower < 0 then '-' else '+') ::
          Nat.toDigits 10 decimal.leadingPower.natAbs) := by
  -- A count has at least one digit, which is the one in front.
  obtain ⟨first, rest, split⟩ := List.exists_cons_of_ne_nil (@Nat.toDigits_ne_nil decimal.digits 10)
  refine ⟨first, rest, split, ?_⟩
  unfold exponentText
  dsimp only
  rw [split]
  simp

end Scientific

namespace MadeOf

variable {value : Float} {mantissa scale : Nat}

/-- The shortest decimal of a double is not zero, and any digits for its number are read as it. -/
theorem shortest_reads (made : MadeOf mantissa scale value) (tie : TieRule) :
    0 < (shortest tie mantissa (scale - 1074)).digits ∧
      ∀ (digits : Nat) (exponent : Int), 0 < digits →
        (digits * 10 ^ exponent : ℚ) = (shortest tie mantissa (scale - 1074)).number →
          nearestDouble digits exponent = value := by
  -- The decimal lies in the interval of the double, and whatever has its number does too.
  obtain ⟨counted, held⟩ := shortest_holds tie made.positive made.small
    (show -1074 ≤ (scale - 1074 : Int) by omega)
  refine ⟨counted, ?_⟩
  intro digits exponent positive same
  rw [← same] at held
  exact nearestDouble_eq made positive held

/-- In a settings table, a double is written with digits around a point that are read as it. -/
theorem text_table (made : MadeOf mantissa scale value) : ∃ whole fraction number,
    Notation.table.text value = String.ofList (whole ++ '.' :: fraction) ∧
      Pointed whole fraction number ∧
      nearestDouble (digitsValue (whole ++ fraction)) (-fraction.length) = value := by
  -- The shortest digits read as the value, and writing them around a point keeps what they count.
  obtain ⟨counted, reads⟩ := made.shortest_reads .upward
  obtain ⟨whole, fraction, written, pointed⟩ := Scientific.pointed_positionalText counted
  refine ⟨whole, fraction, _, ?_, pointed, reads _ _ pointed.positive pointed.number⟩
  have nonzero : (mantissa == 0) = false := beq_eq_false_iff_ne.mpr made.positive.ne'
  simp only [Notation.text, made.denotes, Notation.magnitude, nonzero, Notation.table,
    Bool.false_eq_true, if_false]
  rw [written]

/-- In a document, a double is written with digits around a point, or with an exponent. -/
theorem text_document (made : MadeOf mantissa scale value) :
    (∃ whole fraction number,
      Notation.document.text value = String.ofList (whole ++ '.' :: fraction) ∧
        Pointed whole fraction number ∧
        nearestDouble (digitsValue (whole ++ fraction)) (-fraction.length) = value) ∨
    ∃ first rest power, Notation.document.text value =
        String.ofList (first :: ((if rest.isEmpty then [] else '.' :: rest) ++
          'e' :: (if power < 0 then '-' else '+') :: Nat.toDigits 10 power.natAbs)) ∧
      AllDigits (first :: rest) ∧ first ≠ '0' ∧
      nearestDouble (digitsValue (first :: rest)) (power - rest.length) = value := by
  -- The digits found are not zero, and every way of writing their number reads back.
  obtain ⟨counted, reads⟩ := made.shortest_reads .toEven
  have nonzero : (mantissa == 0) = false := beq_eq_false_iff_ne.mpr made.positive.ne'
  generalize shown : shortest .toEven mantissa (scale - 1074) = decimal at counted reads
  have text : Notation.document.text value = String.ofList
      (if -5 ≤ decimal.leadingPower && decimal.leadingPower < 16 then decimal.positionalText true
        else decimal.exponentText) := by
    simp only [Notation.text, made.denotes, Notation.magnitude, nonzero, Notation.document,
      Bool.false_eq_true, if_false, shown]
  rw [text]
  -- A leading power that is neither small nor large has its digits written in position.
  split
  case isTrue =>
    left
    obtain ⟨whole, fraction, written, pointed⟩ := Scientific.pointed_positionalText counted
    exact ⟨whole, fraction, _, by rw [written], pointed,
      reads _ _ pointed.positive pointed.number⟩
  case isFalse =>
    right
    obtain ⟨first, rest, digits, written⟩ := decimal.exponentText_eq
    have value : digitsValue (first :: rest) = decimal.digits := by
      rw [← digits, digitsValue_toDigits]
    refine ⟨first, rest, decimal.leadingPower, by rw [written], ?_, ?_, ?_⟩
    · rw [← digits]
      exact allDigits_toDigits _
    · -- The digits are those of a number that is not zero, and so is the first of them.
      have leading := head?_toDigits counted
      rw [digits] at leading
      simpa using leading
    · -- The power is that of the first digit, and the exponent is that of the last one.
      rw [value]
      apply reads _ _ counted
      rw [Scientific.number]
      refine congrArg (fun power : Int => (decimal.digits : ℚ) * 10 ^ power) ?_
      rw [Scientific.leadingPower, digitCount, digits, List.length_cons, Int.ofNat_eq_natCast]
      omega

end MadeOf

end FlatKnit
