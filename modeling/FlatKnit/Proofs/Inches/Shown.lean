import FlatKnit.Inches
import FlatKnit.Proofs.Decimal.Fixed
import FlatKnit.Proofs.Text.Blank

/-! Lengths as they are shown: nothing idle is written, and nothing up to three decimals is lost. -/

namespace FlatKnit

/-- A decimal text that writes nothing idle. -/
structure IsSuccinct (text : List Char) : Prop where
  filled : text ≠ []
  notMinusZero : text ≠ ['-', '0']
  /-- There is no exponent, since there are no letters. -/
  plain : ∀ character ∈ text, character.isDigit = true ∨ character = '-' ∨ character = '.'
  /-- A point has something behind it, and that does not end with a zero. -/
  pointed : ∀ before after, text = before ++ '.' :: after →
    ∃ last, after.getLast? = some last ∧ last ≠ '0'

section Texts

variable {whole fraction rest : List Char} {negative : Bool} {last : Char}

/-- Digits behind signed digits have the same sign in front. -/
theorem withSign_append (first second : List Char) :
    withSign negative (first ++ second) = withSign negative first ++ second := by
  cases negative <;> rfl

/-- Signed digits are no empty text. -/
theorem withSign_ne_nil (filled : whole ≠ []) : withSign negative whole ≠ [] := by
  cases negative <;> simp [withSign, filled]

/-- A sign in front of digits does not change the last of them. -/
theorem getLast?_withSign (ends : whole.getLast? = some last) :
    (withSign negative whole).getLast? = some last := by
  cases negative with
  | false => exact ends
  | true => simp [withSign, List.getLast?_cons, ends]

/-- Signed digits are a minus or digits, and so have no point. -/
theorem plain_withSign (digits : AllDigits whole) :
    ∀ character ∈ withSign negative whole, character.isDigit = true ∨ character = '-' := by
  intro character member
  cases negative with
  | false => exact .inl (digits character member)
  | true =>
    rcases List.mem_cons.mp member with minus | digit
    · exact .inr minus
    · exact .inl (digits character digit)

/-- A digit is no point. -/
theorem ne_point_of_isDigit (digit : last.isDigit = true) : last ≠ '.' := by
  rintro rfl
  cases digit

/-- Digits alone are no minus in front of a zero. -/
theorem AllDigits.ne_minusZero (digits : AllDigits whole) : whole ≠ ['-', '0'] := by
  -- A minus is no digit.
  rintro rfl
  exact absurd (digits '-' List.mem_cons_self) (by decide)

/-- What ends behind a point ends the text. -/
theorem getLast?_point (before : List Char) (ends : fraction.getLast? = some last) :
    (before ++ '.' :: fraction).getLast? = some last := by
  rw [List.getLast?_append_of_ne_nil _ (List.cons_ne_nil _ _), List.getLast?_cons, ends,
    Option.getD_some]

/-- A text that does not end with a zero or a point has something behind every point. -/
theorem pointed_of_last {text : List Char} (ends : text.getLast? = some last) (notZero : last ≠ '0')
    (notPoint : last ≠ '.') (before after : List Char) (split : text = before ++ '.' :: after) :
    ∃ last, after.getLast? = some last ∧ last ≠ '0' := by
  rw [split, List.getLast?_append_of_ne_nil _ (List.cons_ne_nil _ _), List.getLast?_cons,
    Option.some.injEq] at ends
  -- Without anything behind the point, the point would be last.
  cases behind : after.getLast? with
  | none =>
    rw [behind, Option.getD_none] at ends
    exact absurd ends.symm notPoint
  | some final =>
    rw [behind, Option.getD_some] at ends
    exact ⟨final, rfl, ends ▸ notZero⟩

/-- The zeros at the end of digits are those that are dropped. -/
theorem exists_zeros (digits : List Char) :
    ∃ count, digits = dropEndWhile (· == '0') digits ++ zeros count := by
  -- What is dropped is the longest end that consists of zeros.
  refine ⟨(digits.rtakeWhile (· == '0')).length, ?_⟩
  have dropped : digits.rtakeWhile (· == '0')
      = zeros (digits.rtakeWhile (· == '0')).length := by
    rw [zeros, List.eq_replicate_iff]
    refine ⟨rfl, ?_⟩
    intro digit member
    have zero := List.mem_rtakeWhile_imp member
    exact beq_iff_eq.mp zero
  rw [← dropped]
  exact List.rdropWhile_append_rtakeWhile.symm

/-- Zeros at the end of a fraction do not change the number. -/
theorem digitsValue_zeros_behind (digits fraction : List Char) (count : Nat) :
    (digitsValue (digits ++ (fraction ++ zeros count)) : ℚ) / 10 ^ (fraction ++ zeros count).length
      = digitsValue (digits ++ fraction) / 10 ^ fraction.length := by
  -- Each zero makes the count and the power of the places ten times as large.
  rw [← List.append_assoc, digitsValue_append, digitsValue_zeros, List.length_append, pow_add]
  simp only [zeros, List.length_replicate, Nat.add_zero, Nat.cast_mul, Nat.cast_pow,
    Nat.cast_ofNat]
  field_simp

end Texts

section Dropping

variable {whole fraction : List Char} {negative : Bool} {last : Char}

/-- A fraction that does not end with a zero once they are dropped is shown up to its last digit. -/
theorem dropIdleDigits_fraction (places : AllDigits fraction)
    (ends : (dropEndWhile (· == '0') fraction).getLast? = some last) :
    dropIdleDigits (withSign negative (whole ++ '.' :: fraction))
      = withSign negative (whole ++ '.' :: dropEndWhile (· == '0') fraction) := by
  have kept : last.isDigit = true :=
    places last ((List.rdropWhile_prefix _ _).subset (List.mem_of_getLast? ends))
  have notPoint := beq_false_of_ne (ne_point_of_isDigit kept)
  have shown := getLast?_point (withSign negative whole) ends
  -- The zeros end at the point at the latest, and the point stays in front of the last digit.
  rw [dropIdleDigits, withSign_append, dropEndWhile_append _ (by decide),
    dropEndWhile_of_last shown notPoint, withSign_append]
  -- With a point in it, the text is neither empty nor a minus in front of a zero.
  have filled : (withSign negative whole ++ '.' :: dropEndWhile (· == '0') fraction).isEmpty
      = false := by simp
  have pointed : (withSign negative whole ++ '.' :: dropEndWhile (· == '0') fraction
      == ['-', '0']) = false := by
    apply beq_false_of_ne
    intro same
    have point : '.' ∈ ['-', '0'] := by
      rw [← same]
      simp
    exact absurd point (by decide)
  simp only [filled, pointed, Bool.or_self, Bool.false_eq_true, if_false]

/-- A fraction of zeros is not shown, and neither is a minus in front of a zero. -/
theorem dropIdleDigits_whole (digits : AllDigits whole) (filled : whole ≠ [])
    (idle : dropEndWhile (· == '0') fraction = []) :
    dropIdleDigits (withSign negative (whole ++ '.' :: fraction))
      = withSign (negative && whole != ['0']) whole := by
  obtain ⟨last, ends⟩ : ∃ last, whole.getLast? = some last :=
    ⟨whole.getLast filled, List.getLast?_eq_some_getLast filled⟩
  have notPoint : (last == '.') = false :=
    beq_false_of_ne (ne_point_of_isDigit (digits last (List.mem_of_getLast? ends)))
  -- The point is last once the zeros are dropped, and the digit in front of it is last after it.
  have bare : dropEndWhile (· == '.') (withSign negative whole ++ ['.'])
      = withSign negative whole := by
    rw [dropEndWhile, List.reverse_append]
    exact dropEndWhile_of_last (getLast?_withSign ends) notPoint
  have shown : (withSign negative whole).isEmpty = false := by
    simpa using withSign_ne_nil filled
  rw [dropIdleDigits, withSign_append, dropEndWhile_append _ (by decide), idle, bare]
  simp only [shown, Bool.false_or]
  cases negative with
  | false =>
    -- Digits alone are no minus.
    have unsigned : (withSign false whole == ['-', '0']) = false :=
      beq_false_of_ne digits.ne_minusZero
    simp [unsigned]
  | true =>
    by_cases zero : whole = ['0']
    · simp [zero, withSign]
    · have nonzero : (withSign true whole == ['-', '0']) = false := by
        simp [withSign, zero]
      have kept : (whole != ['0']) = true := bne_iff_ne.mpr zero
      simp [nonzero, kept]

end Dropping

section Shown

variable {whole fraction : List Char} {negative : Bool}

/-- Digits around a point are shown without their fraction, or up to its last digit but zeros. -/
theorem dropIdleDigits_cases (digits : AllDigits whole) (filled : whole ≠ [])
    (places : AllDigits fraction) :
    (dropEndWhile (· == '0') fraction = [] ∧
      dropIdleDigits (withSign negative (whole ++ '.' :: fraction))
        = withSign (negative && whole != ['0']) whole) ∨
    ∃ last, (dropEndWhile (· == '0') fraction).getLast? = some last ∧ last ≠ '0' ∧
      dropIdleDigits (withSign negative (whole ++ '.' :: fraction))
        = withSign negative (whole ++ '.' :: dropEndWhile (· == '0') fraction) := by
  by_cases idle : dropEndWhile (· == '0') fraction = []
  · exact .inl ⟨idle, dropIdleDigits_whole digits filled idle⟩
  · -- The last digit that is left is the first from the end that is no zero.
    right
    have last := List.rdropWhile_last_not (· == '0') fraction idle
    have ends := List.getLast?_eq_some_getLast idle
    exact ⟨_, ends, fun zero => last (beq_iff_eq.mpr zero), dropIdleDigits_fraction places ends⟩

/-- What is left of a fraction is digits. -/
theorem allDigits_kept (places : AllDigits fraction) :
    AllDigits (dropEndWhile (· == '0') fraction) :=
  fun digit member => places digit ((List.rdropWhile_prefix _ _).subset member)

/-- A text that is shown denotes the number that was written. -/
theorem decimalNumber?_dropIdleDigits (digits : AllDigits whole) (filled : whole ≠ [])
    (places : AllDigits fraction) :
    decimalNumber? (dropIdleDigits (withSign negative (whole ++ '.' :: fraction)))
      = decimalNumber? (withSign negative (whole ++ '.' :: fraction)) := by
  obtain ⟨count, zeros⟩ := exists_zeros fraction
  have value := digitsValue_zeros_behind whole (dropEndWhile (· == '0') fraction) count
  rw [← zeros] at value
  rw [decimalNumber?_point digits filled places, value]
  rcases @dropIdleDigits_cases whole fraction negative digits filled places with
    ⟨idle, shown⟩ | ⟨last, _, _, shown⟩
  · rw [shown, decimalNumber?_whole digits filled, idle, List.append_nil, List.length_nil, pow_zero,
      div_one]
    -- Only the minus in front of a zero is not shown, and that does not change the number.
    by_cases zero : whole = ['0']
    · have none : digitsValue ['0'] = 0 := rfl
      simp [zero, none, signedNumber]
    · have kept : (whole != ['0']) = true := bne_iff_ne.mpr zero
      rw [kept, Bool.and_true]
  · rw [shown, decimalNumber?_point digits filled (allDigits_kept places)]

/-- The digits in front of the point are shown as they are. -/
theorem wholeDigits_dropIdleDigits (digits : AllDigits whole) (filled : whole ≠ [])
    (places : AllDigits fraction) :
    wholeDigits (dropIdleDigits (withSign negative (whole ++ '.' :: fraction)))
      = wholeDigits (withSign negative (whole ++ '.' :: fraction)) := by
  -- What is dropped stands behind the point, or is the point itself.
  rw [wholeDigits_point digits filled]
  rcases @dropIdleDigits_cases whole fraction negative digits filled places with
    ⟨_, shown⟩ | ⟨last, _, _, shown⟩
  · rw [shown, wholeDigits_whole digits filled]
  · rw [shown, wholeDigits_point digits filled]

/-- A text that is shown has nothing idle. -/
theorem isSuccinct_dropIdleDigits (digits : AllDigits whole) (filled : whole ≠ [])
    (places : AllDigits fraction) :
    IsSuccinct (dropIdleDigits (withSign negative (whole ++ '.' :: fraction))) := by
  rcases @dropIdleDigits_cases whole fraction negative digits filled places with
    ⟨_, shown⟩ | ⟨last, ends, notZero, shown⟩
  · -- Without a fraction there is no point, and a zero has no minus.
    rw [shown]
    refine ⟨withSign_ne_nil filled, ?_, ?_, ?_⟩
    · intro same
      cases signed : negative && whole != ['0'] with
      | false =>
        rw [signed] at same
        exact digits.ne_minusZero same
      | true =>
        rw [signed] at same
        obtain ⟨_, nonzero⟩ := Bool.and_eq_true_iff.mp signed
        exact bne_iff_ne.mp nonzero (List.cons.inj same).2
    · intro character member
      exact (plain_withSign digits character member).imp_right .inl
    · intro before after split
      have point := plain_withSign digits '.' (split ▸ List.mem_append_right _ List.mem_cons_self)
      exact absurd point (by decide)
  · have kept := allDigits_kept places
    have digit : last.isDigit = true := kept last (List.mem_of_getLast? ends)
    have notPoint := ne_point_of_isDigit digit
    have final := getLast?_point (withSign negative whole) ends
    rw [shown, withSign_append]
    refine ⟨by simp, ?_, ?_, pointed_of_last final notZero notPoint⟩
    · -- A minus and a zero would end in a zero.
      intro same
      rw [same] at final
      exact notZero (Option.some.inj final).symm
    · intro character member
      rcases List.mem_append.mp member with front | behind
      · exact (plain_withSign digits character front).imp_right .inl
      · rcases List.mem_cons.mp behind with point | place
        · exact .inr (.inr point)
        · exact .inl (kept character place)

end Shown

/-- Sizes with signs that are the same number have the same size, and the same sign unless zero. -/
theorem signedNumber_inj {negative other : Bool} {size otherSize : ℚ} (nonneg : 0 ≤ size)
    (otherNonneg : 0 ≤ otherSize)
    (same : signedNumber negative size = signedNumber other otherSize) :
    size = otherSize ∧ (negative = other ∨ size = 0) := by
  -- With signs that differ, neither of two sizes can be above zero.
  cases negative <;> cases other <;>
    simp only [signedNumber, Bool.false_eq_true, if_false, if_true] at same
  · exact ⟨same, .inl rfl⟩
  · exact ⟨by linarith, .inr (by linarith)⟩
  · exact ⟨by linarith, .inr (by linarith)⟩
  · exact ⟨by linarith, .inl rfl⟩

/-- A length is its text with three places, without what is idle in it. -/
theorem toList_inchesText (inches : Float) :
    (inchesText inches).toList = dropIdleDigits (fixedText 3 inches) :=
  String.toList_ofList

/-- Lengths that are rounded to the same number have the same text. -/
theorem inchesText_of_same {inches other : Float} (finite : inches.isFinite = true)
    (otherFinite : other.isFinite = true)
    (same : decimalNumber? (fixedText 3 inches) = decimalNumber? (fixedText 3 other)) :
    inchesText inches = inchesText other := by
  obtain ⟨negative, count, _, _, fixed⟩ := exists_fixedAt finite 3
  obtain ⟨otherNegative, otherCount, _, _, otherFixed⟩ := exists_fixedAt otherFinite 3
  rw [fixed.number, otherFixed.number, Option.some.injEq] at same
  -- Both numbers are counts of thousandths, and so the counts are the same.
  obtain ⟨sizes, signs⟩ := signedNumber_inj (by positivity) (by positivity) same
  have counts : count = otherCount := by
    have cast := (div_left_inj' (by norm_num)).mp sizes
    exact_mod_cast cast
  rw [inchesText, inchesText, fixed.text, otherFixed.text, ← counts]
  -- Either the texts are the same before anything is dropped, or both of them are zeros.
  rcases signs with signs | zero
  · rw [signs]
  · have none : count = 0 := by simpa using zero
    have shown : ∀ sign, dropIdleDigits (withSign sign (pointed 3 0)) = ['0'] := by decide
    rw [none, shown, shown]

/--
A finite length is shown as the number that it is rounded to at the third decimal, and nothing of
its text is idle.

No digit in front of the point is lost, and two lengths are shown alike exactly when they are
rounded to the same number.
-/
theorem inchesText_succinct {inches : Float} (finite : inches.isFinite = true) :
    (∃ exact rounded, (.of inches : Denotation).number? = some exact ∧ RoundsTo 3 exact rounded ∧
      decimalNumber? (fixedText 3 inches) = some rounded ∧
      decimalNumber? (inchesText inches).toList = some rounded) ∧
    IsSuccinct (inchesText inches).toList ∧
    wholeDigits (inchesText inches).toList = wholeDigits (fixedText 3 inches) ∧
    ∀ other : Float, other.isFinite = true →
      (inchesText inches = inchesText other ↔
        decimalNumber? (fixedText 3 inches) = decimalNumber? (fixedText 3 other)) := by
  -- The number of a text is the same before and after the idle digits are dropped.
  have kept : ∀ length : Float, length.isFinite = true →
      decimalNumber? (inchesText length).toList = decimalNumber? (fixedText 3 length) := by
    intro length lengthFinite
    obtain ⟨_, _, _, _, written⟩ := exists_fixedAt lengthFinite 3
    rw [toList_inchesText, written.text, written.written]
    exact decimalNumber?_dropIdleDigits written.wholeDigits written.wholeSome written.fractionDigits
  obtain ⟨negative, count, whole, fraction, fixed⟩ := exists_fixedAt finite 3
  obtain ⟨exact, denotes, rounds⟩ := fixed.rounds
  refine ⟨⟨exact, _, denotes, rounds, fixed.number, (kept inches finite).trans fixed.number⟩,
    ?_, ?_, ?_⟩
  · rw [toList_inchesText, fixed.text, fixed.written]
    exact isSuccinct_dropIdleDigits fixed.wholeDigits fixed.wholeSome fixed.fractionDigits
  · rw [toList_inchesText, fixed.text, fixed.written]
    exact wholeDigits_dropIdleDigits fixed.wholeDigits fixed.wholeSome fixed.fractionDigits
  · intro other otherFinite
    constructor
    · intro same
      rw [← kept inches finite, ← kept other otherFinite, same]
    · exact inchesText_of_same finite otherFinite

/-- A length too little below zero is shown as zero, and one that becomes round keeps its zeros. -/
theorem rounded_lengths_succinct :
    ((-0.0004 : Float).isFinite = true ∧ (0.0 : Float).isFinite = true ∧
        (1199.9996 : Float).isFinite = true) ∧
      inchesText (-0.0004) = inchesText 0.0 ∧ inchesText (-0.0004) ≠ inchesText 1199.9996 ∧
      decimalNumber? (inchesText 1199.9996).toList = some 1200 ∧
      wholeDigits (inchesText 1199.9996).toList = ['1', '2', '0', '0'] ∧
      IsSuccinct (inchesText 1199.9996).toList := by
  have below : (-0.0004 : Float).isFinite = true := by decide +kernel
  have zero : (0.0 : Float).isFinite = true := by decide +kernel
  have round : (1199.9996 : Float).isFinite = true := by decide +kernel
  -- Texts are compared through the numbers that the lengths are rounded to.
  have alike := (inchesText_succinct below).2.2.2
  obtain ⟨⟨_, _, _, _, written, shown⟩, succinct, whole, _⟩ := inchesText_succinct round
  refine ⟨⟨below, zero, round⟩, (alike 0.0 zero).mpr (by decide +kernel),
    mt (alike 1199.9996 round).mp (by decide +kernel), ?_, ?_, succinct⟩
  · rw [shown, ← written]
    decide +kernel
  · rw [whole]
    decide +kernel

end FlatKnit
