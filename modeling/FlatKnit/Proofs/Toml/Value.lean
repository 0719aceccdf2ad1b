import FlatKnit.Proofs.Decimal.Notation
import FlatKnit.Proofs.Toml.Quoted
import FlatKnit.Toml.Reader

/-! TOML values: texts, flags and usable numbers are read back from the ends of their lines. -/

namespace FlatKnit

namespace TomlText

section Numbers

variable {whole fraction rest : List Char} {number : ℚ}

/-- Digits are read up to what is neither a digit nor an underscore. -/
theorem readDigits_append {fuel : Nat} (digits : AllDigits whole) (nonempty : whole ≠ [])
    (stops : ∀ character ∈ rest.head?, character.isDigit = false ∧ character ≠ '_')
    (enough : whole.length ≤ fuel) :
    readDigits Char.isDigit fuel (whole ++ rest) = some (whole, rest) := by
  -- One digit is taken off at a time; an underscore would have to stand between two of them.
  induction whole generalizing fuel with
  | nil => exact absurd rfl nonempty
  | cons first others ih =>
    rw [List.length_cons] at enough
    obtain ⟨fuel, rfl⟩ : ∃ smaller, fuel = smaller + 1 := ⟨fuel - 1, by omega⟩
    have digit := digits first List.mem_cons_self
    cases others with
    | nil =>
      -- The last digit is followed by what stops the number, or by nothing.
      cases rest with
      | nil => simp [readDigits, digit]
      | cons next rest =>
        obtain ⟨noDigit, noUnderscore⟩ := stops next rfl
        rw [List.singleton_append, readDigits]
        · simp [digit, noDigit]
        · exact noUnderscore
    | cons next others =>
      -- The next character is a digit again, so that the reader goes on with it.
      have later : AllDigits (next :: others) :=
        fun character member => digits character (List.mem_cons_of_mem _ member)
      have another := later next List.mem_cons_self
      have read := @ih fuel later (List.cons_ne_nil _ _) (by omega)
      rw [List.cons_append] at read
      rw [List.cons_append, List.cons_append, readDigits]
      · simp [digit, another, read]
      · rintro rfl
        cases another

/-- The whole digits of a number are read up to its point. -/
theorem readWholeDigits_pointed (pointed : Pointed whole fraction number) :
    readWholeDigits (whole ++ '.' :: rest) = some (whole, '.' :: rest) := by
  -- The digits are a lone zero, or they do not begin with a zero.
  rcases pointed.leading with rfl | leading
  · rfl
  · unfold readWholeDigits
    split
    case h_1 same =>
      -- The first digit is no zero.
      rw [List.append_eq_cons_iff] at same
      rcases same with ⟨none, _⟩ | ⟨others, first, _⟩
      · exact absurd none pointed.wholeSome
      · exact absurd (congrArg List.head? first) leading
    case h_2 =>
      refine readDigits_append pointed.wholeDigits pointed.wholeSome ?_ ?_
      · intro character first
        rw [← Option.some.inj first]
        decide
      · rw [List.length_append]
        omega

/-- Behind digits that were taken for a field of a date, there is a digit or the point. -/
theorem expect_of_readField {count least most value : Nat} {mark : Char}
    (digits : AllDigits whole) (noDigit : mark.isDigit = false) (noPoint : mark ≠ '.')
    {left : List Char}
    (read : readField count least most (whole ++ '.' :: rest) = some (value, left)) :
    expect mark left = none := by
  -- A field that was read took as many digits as it asks for.
  unfold readField at read
  dsimp only at read
  split at read
  case isFalse => cases read
  case isTrue taken =>
    simp only [Bool.and_eq_true, beq_iff_eq, List.all_eq_true] at taken
    obtain ⟨⟨⟨_, allDigits⟩, _⟩, _⟩ := taken
    -- The point is no digit, so it was not taken.
    have within : count ≤ whole.length := by
      by_contra beyond
      have point : '.' ∈ (whole ++ '.' :: rest).take count := by
        rw [List.take_append, List.mem_append]
        refine .inr ?_
        obtain ⟨more, positive⟩ : ∃ more, count - whole.length = more + 1 :=
          ⟨count - whole.length - 1, by omega⟩
        rw [positive, List.take_succ_cons]
        exact List.mem_cons_self
      exact absurd (allDigits '.' point) (by decide)
    obtain rfl : (whole ++ '.' :: rest).drop count = left := (Prod.mk.inj (Option.some.inj read)).2
    rw [List.drop_append_of_le_length within]
    -- Behind the field stands either the point or another digit, and the mark is neither.
    cases remaining : whole.drop count with
    | nil => simp [expect, noPoint.symm]
    | cons next others =>
      have digit := digits next (List.mem_of_mem_drop (remaining ▸ List.mem_cons_self))
      have other : next ≠ mark := by
        rintro rfl
        rw [noDigit] at digit
        cases digit
      simp [expect, other]

/-- Digits with a point behind them are no date and no time. -/
theorem afterMoment_pointed (digits : AllDigits whole) :
    afterMoment (whole ++ '.' :: rest) = none := by
  -- A date needs a hyphen behind its year, and a time a colon behind its hour.
  have noDate : afterDate (whole ++ '.' :: rest) = none := by
    unfold afterDate
    cases read : readField 4 0 9999 (whole ++ '.' :: rest) with
    | none => rfl
    | some field =>
      obtain ⟨_, left⟩ := field
      -- Behind the digits stands the point, which is no hyphen.
      have missing : expect '-' left = none :=
        expect_of_readField digits rfl (by decide) read
      simp [missing]
  have noTime : afterTime (whole ++ '.' :: rest) = none := by
    unfold afterTime
    cases read : readField 2 0 23 (whole ++ '.' :: rest) with
    | none => rfl
    | some field =>
      obtain ⟨_, left⟩ := field
      have missing : expect ':' left = none :=
        expect_of_readField digits rfl (by decide) read
      simp [missing]
  rw [afterMoment, noDate, noTime]

/-- A digit does not start any value but a number, a date or a time. -/
theorem readPlain_digit {first : Char} {others : List Char} (digit : first.isDigit = true)
    (noMoment : afterMoment (first :: others) = none) {value : Float}
    (read : readFloat (first :: others) = some (value, rest)) :
    readPlain (first :: others) = some (.decimal value, rest) := by
  -- A digit is neither a quote nor the first letter of a flag.
  have noQuote : (first == '"' || first == '\x27') = false := by
    rw [← Bool.not_eq_true, Bool.or_eq_true, beq_iff_eq, beq_iff_eq]
    rintro (rfl | rfl) <;> cases digit
  unfold readPlain
  split
  case h_1 same => cases same
  case h_2 same =>
    obtain ⟨rfl, _⟩ := List.cons.inj same
    cases digit
  case h_3 same =>
    obtain ⟨rfl, _⟩ := List.cons.inj same
    cases digit
  case h_4 same =>
    obtain ⟨rfl, rfl⟩ := List.cons.inj same
    simp only [noQuote, noMoment, read]
    rfl

/-- A literal with digits around its point is read as the double nearest to it. -/
theorem readFloat_pointed (pointed : Pointed whole fraction number) {value : Float}
    (finite : value.isFinite = true)
    (nearest : nearestDouble (digitsValue (whole ++ fraction)) (-fraction.length) = value) :
    readFloat (whole ++ '.' :: (fraction ++ '\n' :: rest)) = some (value, '\n' :: rest) := by
  -- Both runs of digits end where the number says, and no exponent follows.
  have before := @readWholeDigits_pointed whole fraction (fraction ++ '\n' :: rest) _ pointed
  have behind := @readDigits_append fraction ('\n' :: rest)
    ((fraction ++ '\n' :: rest).length + 1) pointed.fractionDigits pointed.fractionSome
    (by simp) (by rw [List.length_append]; omega)
  have noPower : readPower ('\n' :: rest) = some ((false, 0), '\n' :: rest) := rfl
  have filled : fraction.isEmpty = false := by simpa using pointed.fractionSome
  have places : (0 : Int) - Int.ofNat fraction.length = -fraction.length := by simp
  -- A digit comes first, so there is no sign, and no word for infinity or for not a number.
  obtain ⟨first, others, rfl⟩ := List.exists_cons_of_ne_nil pointed.wholeSome
  have digit := pointed.wholeDigits first List.mem_cons_self
  rw [List.cons_append] at before ⊢
  unfold readFloat
  rw [splitSign_digit digit]
  dsimp only
  split
  case h_1 same =>
    obtain ⟨rfl, _⟩ := List.cons.inj same
    cases digit
  case h_2 same =>
    obtain ⟨rfl, _⟩ := List.cons.inj same
    cases digit
  case h_3 =>
    simp only [before, behind, noPower, filled, places, nearest, isInf_of_isFinite finite,
      Option.bind_eq_bind, Option.bind_some]
    rfl

end Numbers

section Values

variable {rest : List Char}

/-- A value is written as a text that is read as this value up to the end of its line. -/
structure Reads (value : Toml) : Prop where
  starts : ∃ first others, (Toml.inlineText value).toList = first :: others ∧ isSpace first = false
  reads : ∀ fuel depth rest,
    readValue (fuel + 1) depth ((Toml.inlineText value).toList ++ '\n' :: rest) =
      some (value, '\n' :: rest)

/-- A value that is no list and no table is read as it is alone. -/
theorem readValue_plain {first : Char} {others : List Char} (notList : first ≠ '[')
    (notTable : first ≠ '\x7b') (fuel depth : Nat) :
    readValue (fuel + 1) depth (first :: others) = readPlain (first :: others) := by
  -- Lists and tables are told by their brackets.
  rw [readValue]
  · exact fun _ same => notList (List.cons.inj same).1
  · exact fun _ same => notTable (List.cons.inj same).1

/-- A value that opens no list and no table is read when its line is read as a plain value. -/
theorem reads_plain {value : Toml} {first : Char} {others : List Char}
    (shown : (Toml.inlineText value).toList = first :: others) (notSpace : isSpace first = false)
    (notList : first ≠ '[') (notTable : first ≠ '\x7b')
    (reads : ∀ rest, readPlain (first :: (others ++ '\n' :: rest)) = some (value, '\n' :: rest)) :
    Reads value := by
  refine ⟨⟨_, _, shown, notSpace⟩, ?_⟩
  intro fuel depth rest
  rw [shown, List.cons_append, readValue_plain notList notTable, reads]

/-- A flag is read as it is. -/
theorem reads_flag (value : Bool) : Reads (.flag value) := by
  -- Each of the two words is read whole.
  cases value with
  | true =>
    have shown : (Toml.inlineText (.flag true)).toList = 't' :: "rue".toList := by
      rw [Toml.inlineText]
      rfl
    exact reads_plain shown rfl (by decide) (by decide) fun _ => rfl
  | false =>
    have shown : (Toml.inlineText (.flag false)).toList = 'f' :: "alse".toList := by
      rw [Toml.inlineText]
      rfl
    exact reads_plain shown rfl (by decide) (by decide) fun _ => rfl

/-- A number that can be used is read as it is. -/
theorem reads_decimal {value : Float} (usable : isUsable value = true) :
    Reads (.decimal value) := by
  have finite : value.isFinite = true := (Bool.and_eq_true_iff.mp usable).1
  -- Settings tables print digits on both sides of a point, and the nearest double is the value.
  obtain ⟨mantissa, scale, made⟩ := exists_madeOf usable
  obtain ⟨whole, fraction, number, written, pointed, nearest⟩ := made.text_table
  have text : (Toml.inlineText (.decimal value)).toList = whole ++ '.' :: fraction := by
    rw [Toml.inlineText, written, String.toList_ofList]
  obtain ⟨first, others, split⟩ := List.exists_cons_of_ne_nil pointed.wholeSome
  have digit := pointed.wholeDigits first (split ▸ List.mem_cons_self)
  have line (tail : List Char) : whole ++ '.' :: tail = first :: (others ++ '.' :: tail) := by
    rw [split, List.cons_append]
  -- The first digit is no blank and no bracket.
  have notValue : isSpace first = false ∧ first ≠ '[' ∧ first ≠ '\x7b' := by
    rw [← Bool.not_eq_true, isSpace, Bool.or_eq_true, beq_iff_eq, beq_iff_eq]
    refine ⟨?_, ?_, ?_⟩
    · rintro (rfl | rfl) <;> cases digit
    · rintro rfl
      cases digit
    · rintro rfl
      cases digit
  refine reads_plain (text.trans (line fraction)) notValue.1 notValue.2.1 notValue.2.2 ?_
  intro rest
  -- Digits before a point start no date and no time.
  have noMoment := @afterMoment_pointed whole (fraction ++ '\n' :: rest) pointed.wholeDigits
  have read := @readFloat_pointed whole fraction rest number pointed value finite nearest
  rw [line] at noMoment read
  rw [List.append_assoc, List.cons_append, readPlain_digit digit noMoment read]

/-- The text between quotes starts with the first of them. -/
theorem head?_between {quotes : String} {quote : Char} (first : quotes.toList.head? = some quote)
    (text : List Char) : (Toml.between quotes text).toList.head? = some quote := by
  -- The quotes come first in what is joined.
  rw [Toml.between]
  simp [first]

/-- A text starts with a quote, whatever quotes it is written with. -/
theorem quoted_starts (value : String) :
    ∃ quote others, (Toml.quoted value).toList = quote :: others ∧ IsQuote quote := by
  -- In each of the forms, the first character is one of the two quotes.
  have first : (Toml.quoted value).toList.head? = some '"' ∨
      (Toml.quoted value).toList.head? = some '\x27' := by
    unfold Toml.quoted
    dsimp only
    repeat' split
    all_goals first
      | exact .inl (head?_between rfl _)
      | exact .inr (head?_between rfl _)
  rcases first with double | single
  · obtain ⟨others, text⟩ := List.head?_eq_some_iff.mp double
    exact ⟨_, others, text, .inl rfl⟩
  · obtain ⟨others, text⟩ := List.head?_eq_some_iff.mp single
    exact ⟨_, others, text, .inr rfl⟩

/-- Quotes start a string. -/
theorem readPlain_quote {quote : Char} (kind : IsQuote quote) (others : List Char) :
    readPlain (quote :: others) =
      (readString (quote :: others)).map fun (value, rest) =>
        (.text (String.ofList value), rest) := by
  rcases kind with rfl | rfl <;> rfl

/-- A text is read as it is, whatever its characters are. -/
theorem reads_text (value : String) : Reads (.text value) := by
  obtain ⟨quote, others, text, kind⟩ := quoted_starts value
  -- Neither quote is a blank or the bracket of a list or a table.
  have notValue : isSpace quote = false ∧ quote ≠ '[' ∧ quote ≠ '\x7b' := by
    rcases kind with rfl | rfl <;> decide
  have shown : (Toml.inlineText (.text value)).toList = quote :: others := by
    rw [Toml.inlineText, text]
  refine reads_plain shown notValue.1 notValue.2.1 notValue.2.2 ?_
  intro rest
  -- The line feed behind the text is no quote, so that the string ends where it should.
  have read := @readString_quoted ('\n' :: rest) value (by simp [NoQuote])
  rw [text, List.cons_append] at read
  rw [readPlain_quote kind, read]
  simp

end Values

end TomlText

end FlatKnit
