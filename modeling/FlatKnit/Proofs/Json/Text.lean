import FlatKnit.Json.Printer
import FlatKnit.Json.Reader
import FlatKnit.Proofs.Decimal.Notation
import FlatKnit.Proofs.Text.Scan
import FlatKnit.Settings.Tree

/-! JSON texts: what is printed with one item a line is read back to the same tree. -/

namespace FlatKnit

namespace JsonText

/-- What may follow a value that is printed on its line: a comma, a line break, or nothing. -/
def Stops (rest : List Char) : Prop :=
  ∀ character ∈ rest.head?, character = ',' ∨ character = '\n'

/-- A character that stops a value is no part of a number. -/
theorem Stops.not_number {rest : List Char} (stops : Stops rest) :
    ∀ character ∈ rest.head?, character.isDigit = false ∧ character ≠ '.' ∧ character ≠ 'e' ∧
      character ≠ 'E' := by
  -- Neither a comma nor a line break is one of the characters that a number is made of.
  intro character first
  rcases stops character first with rfl | rfl <;> decide

section Numbers

variable {whole fraction rest : List Char} {number : ℚ}

/-- Digits are split off up to what is no digit. -/
theorem splitDigits_append (digits : AllDigits whole)
    (stops : ∀ character ∈ rest.head?, character.isDigit = false) :
    splitDigits (whole ++ rest) = (whole, rest) := by
  -- The run of digits ends where the stop begins, so that all digits are split off and no more.
  rw [splitDigits, takeWhile_front digits stops, dropWhile_front digits stops]

/-- The literal of digits around a point, and with the exponent that may follow them. -/
def literalOf (whole fraction : List Char) (hasPoint : Bool) (rest : List Char) :
    Option (NumberLiteral × List Char) :=
  match rest with
  | mark :: after =>
    if mark == 'e' || mark == 'E' then
      let (below, after) := splitSign after
      let (power, rest) := splitDigits after
      if power.isEmpty then none
      else
        let size := Int.ofNat (digitsValue power)
        some (⟨false, whole, fraction, if below then -size else size, false⟩, rest)
    else some (⟨false, whole, fraction, 0, !hasPoint⟩, rest)
  | [] => some (⟨false, whole, fraction, 0, !hasPoint⟩, rest)

/-- Whole digits that a number may have: some, and no zero before others. -/
def LeadsNumber (whole : List Char) : Prop :=
  (whole.isEmpty || (whole.head? == some '0' && 1 < whole.length)) = false

/-- Without a minus in front, a number is not negative and all of its text is left to read. -/
theorem unmarked_of_unsigned {text unmarked : List Char} {negative : Bool}
    (same : (match text with
      | '-' :: rest => (true, rest)
      | _ => (false, text)) = (negative, unmarked))
    (unsigned : text.head? ≠ some '-') : negative = false ∧ unmarked = text := by
  split at same
  · simp at unsigned
  · obtain ⟨rfl, rfl⟩ := Prod.mk.inj same
    exact ⟨rfl, rfl⟩

/-- A number with a point is read as its digits on both sides, and what follows them. -/
theorem readNumber_point {text tail : List Char} (unsigned : text.head? ≠ some '-')
    (before : splitDigits text = (whole, '.' :: tail))
    (behind : splitDigits tail = (fraction, rest))
    (leading : LeadsNumber whole) (filled : fraction.isEmpty = false) :
    readNumber text = literalOf whole fraction true rest := by
  -- The sign is settled first: a text that does not begin with a minus is unmarked.
  rw [LeadsNumber] at leading
  unfold readNumber
  split
  rename_i negative unmarked same
  obtain ⟨rfl, rfl⟩ := unmarked_of_unsigned same unsigned
  -- The scans of both sides of the point are given, so that the reader has no choice left.
  simp only [before, behind, leading, filled]
  rfl

/-- A number without a point is read as its digits and the exponent behind them. -/
theorem readNumber_power {text after : List Char} (unsigned : text.head? ≠ some '-')
    (before : splitDigits text = (whole, 'e' :: after)) (leading : LeadsNumber whole) :
    readNumber text = literalOf whole [] false ('e' :: after) := by
  -- As with a point, an unmarked text has no sign.
  rw [LeadsNumber] at leading
  unfold readNumber
  split
  rename_i negative unmarked same
  obtain ⟨rfl, rfl⟩ := unmarked_of_unsigned same unsigned
  -- The scan stops at the mark of the exponent, which is no point.
  simp only [before, leading]
  simp [literalOf]

/-- Nothing belongs to a number that stops behind its digits. -/
theorem literalOf_stops (stops : Stops rest) (whole fraction : List Char) (hasPoint : Bool) :
    literalOf whole fraction hasPoint rest =
      some (⟨false, whole, fraction, 0, !hasPoint⟩, rest) := by
  -- With nothing behind the digits there is no exponent, and what stops is no mark of one.
  cases rest with
  | nil => rfl
  | cons mark after =>
    obtain ⟨_, _, lower, upper⟩ := stops.not_number mark rfl
    simp [literalOf, lower, upper]

/-- An exponent with its sign belongs to the number. -/
theorem literalOf_power (stops : Stops rest) (whole fraction : List Char) (hasPoint : Bool)
    (power : Int) :
    literalOf whole fraction hasPoint ('e' :: (if power < 0 then '-' else '+') ::
        (Nat.toDigits 10 power.natAbs ++ rest)) =
      some (⟨false, whole, fraction, power, false⟩, rest) := by
  -- The digits of the exponent end where the number stops, and there is at least one of them.
  have behind := splitDigits_append (allDigits_toDigits power.natAbs)
    fun character first => (stops.not_number character first).1
  have filled : (Nat.toDigits 10 power.natAbs).isEmpty = false := by simp
  -- The written sign and the size give the exponent back, whichever side of zero it is on.
  by_cases below : power < 0
  · simp only [literalOf, below, if_true, splitSign, behind, filled]
    simp [abs_of_neg below]
  · simp only [literalOf, below, if_false, splitSign, behind, filled]
    simp [abs_of_nonneg (Int.not_lt.mp below)]

/-- A first digit that is no zero may lead a number, whatever digits follow it. -/
theorem leadsNumber_cons {first : Char} (nonzero : first ≠ '0') (others : List Char) :
    LeadsNumber (first :: others) := by
  simp [LeadsNumber, nonzero]

/-- A text that starts with a digit has no sign. -/
theorem head?_ne_minus {first : Char} (digit : first.isDigit = true) (others : List Char) :
    (first :: others).head? ≠ some '-' := by
  -- A minus is no digit.
  rw [List.head?_cons, ne_eq, Option.some.injEq]
  rintro rfl
  cases digit

/-- A literal with digits around its point is read with the digits of both sides. -/
theorem readNumber_pointed (pointed : Pointed whole fraction number) (stops : Stops rest) :
    readNumber (whole ++ '.' :: fraction ++ rest) =
      some (⟨false, whole, fraction, 0, false⟩, rest) := by
  -- There is a digit before the point, and a zero leads only where it stands alone.
  obtain ⟨first, others, rfl⟩ := List.exists_cons_of_ne_nil pointed.wholeSome
  have digit := pointed.wholeDigits first List.mem_cons_self
  have leading : LeadsNumber (first :: others) := by
    rcases pointed.leading with single | other
    · rw [single]
      rfl
    · exact leadsNumber_cons (by simpa using other) others
  -- The point ends the digits before it, and what stops the number ends those behind it.
  have behind := splitDigits_append pointed.fractionDigits
    fun character first => (stops.not_number character first).1
  have before := @splitDigits_append (first :: others) ('.' :: (fraction ++ rest))
    pointed.wholeDigits (by simp)
  have read := readNumber_point (head?_ne_minus digit _) before behind leading
    (by simpa using pointed.fractionSome)
  -- Nothing follows that belongs to the number.
  rw [literalOf_stops stops] at read
  simpa using read

/-- A literal with an exponent is read with all of its digits and its power. -/
theorem readNumber_exponent {first : Char} {others : List Char}
    (digits : AllDigits (first :: others)) (nonzero : first ≠ '0') (power : Int)
    (stops : Stops rest) :
    readNumber (first :: ((if others.isEmpty then [] else '.' :: others) ++
        'e' :: (if power < 0 then '-' else '+') :: Nat.toDigits 10 power.natAbs) ++ rest) =
      some (⟨false, [first], others, power, false⟩, rest) := by
  -- The first digit stands alone before the point, and the others follow it if there are any.
  have digit := digits first List.mem_cons_self
  have single : AllDigits [first] := by simpa [AllDigits] using digit
  cases others with
  | nil =>
    have before := @splitDigits_append [first] ('e' :: (if power < 0 then '-' else '+') ::
      (Nat.toDigits 10 power.natAbs ++ rest)) single (by simp)
    have read := readNumber_power (head?_ne_minus digit _) before (leadsNumber_cons nonzero [])
    rw [literalOf_power stops] at read
    simpa using read
  | cons second later =>
    -- The digits end at the exponent, before which the point ends the first of them.
    have tail : AllDigits (second :: later) :=
      fun character member => digits character (List.mem_cons_of_mem _ member)
    have behind := @splitDigits_append (second :: later) ('e' :: (if power < 0 then '-' else '+') ::
      (Nat.toDigits 10 power.natAbs ++ rest)) tail (by simp)
    have before := @splitDigits_append [first] ('.' :: (second :: later ++ 'e' ::
      (if power < 0 then '-' else '+') :: (Nat.toDigits 10 power.natAbs ++ rest))) single (by simp)
    have read := readNumber_point (head?_ne_minus digit _) before behind
      (leadsNumber_cons nonzero []) rfl
    rw [literalOf_power stops] at read
    simpa using read

/-- A number that is printed starts with a digit, and is read up to what stops it. -/
theorem readNumber_document {value : Float} (usable : isUsable value = true) :
    (∃ first others, (Notation.document.text value).toList = first :: others ∧
      first.isDigit = true) ∧
    ∃ literal, ∀ rest, Stops rest →
      readNumber ((Notation.document.text value).toList ++ rest) = some (literal, rest) := by
  -- The text of the number is laid out around a point, or with an exponent behind its digits.
  obtain ⟨mantissa, scale, made⟩ := exists_madeOf usable
  rcases made.text_document with ⟨whole, fraction, number, text, pointed, _⟩ |
    ⟨first, others, power, text, digits, nonzero, _⟩
  · obtain ⟨first, others, rfl⟩ := List.exists_cons_of_ne_nil pointed.wholeSome
    refine ⟨⟨first, others ++ '.' :: fraction, by rw [text, String.toList_ofList]; rfl,
      pointed.wholeDigits first List.mem_cons_self⟩, ⟨false, first :: others, fraction, 0, false⟩,
      ?_⟩
    intro rest stops
    rw [text, String.toList_ofList]
    exact readNumber_pointed pointed stops
  · refine ⟨⟨first, _, by rw [text, String.toList_ofList], digits first List.mem_cons_self⟩,
      ⟨false, [first], others, power, false⟩, ?_⟩
    intro rest stops
    rw [text, String.toList_ofList]
    exact readNumber_exponent digits nonzero power stops

/--
The text of a number is read as that number.

Not every number has such a text: the digits of one with sixteen or seventeen of them may be read
as a double next to it, since the reader rounds more than once.
-/
def ReadsBack (value : Float) : Prop :=
  (readNumber (Json.decimalText value).toList).map (fun (literal, _) => literal.double) = some value

instance (value : Float) : Decidable (ReadsBack value) :=
  inferInstanceAs (Decidable (_ = _))

example : ¬ ReadsBack 51.248178375505404 := by decide +kernel

end Numbers

section Texts

/-- The escapes of controls are read as their code points. -/
theorem hexValue_control (code : Nat) (control : code < 0x20) :
    hexValue ['0', '0', Json.hexChar (code / 16), Json.hexChar (code % 16)] = some code := by
  -- There are few enough controls to check each of them.
  have all : ∀ code < 0x20,
      hexValue ['0', '0', Json.hexChar (code / 16), Json.hexChar (code % 16)] = some code := by
    decide
  exact all code control

/-- One character inside quotes is read as its code point, escaped or not. -/
theorem readUnits_escaped (character : Char) (units : List Nat) (rest : List Char) :
    readUnits units (Json.escaped character ++ rest) =
      readUnits (character.toNat :: units) rest := by
  -- Seven characters have an escape of their own, and the last case is all that have none.
  unfold Json.escaped
  split
  case h_8 notQuote notBackslash _ _ _ _ _ =>
    split
    case isTrue control =>
      -- No letter stands for this control, so it is written by its code point.
      simp only [List.cons_append, List.nil_append, readUnits, hexValue_control _ control]
      rfl
    case isFalse shown =>
      -- A character that is shown is no quote, no backslash and no control, so that it stands for
      -- itself.
      have plain : (character == '\\' || decide (character.toNat < 0x20)) = false := by
        simp only [Bool.or_eq_false_iff, beq_eq_false_iff_ne, decide_eq_false_iff_not]
        exact ⟨notBackslash, shown⟩
      rw [List.singleton_append, readUnits.eq_def]
      split
      case h_1 same => cases same
      case h_2 same => exact absurd (List.cons.inj same).1 notQuote
      case h_3 same => exact absurd (List.cons.inj same).1 notBackslash
      case h_4 same => exact absurd (List.cons.inj same).1 notBackslash
      case h_5 same =>
        obtain ⟨rfl, rfl⟩ := List.cons.inj same
        rw [plain]
        rfl
  all_goals rfl

/-- The units of a text that is printed in quotes are the code points of its characters. -/
theorem readUnits_quoted (text : List Char) (units : List Nat) (rest : List Char) :
    readUnits units (text.flatMap Json.escaped ++ '"' :: rest) =
      some (units.reverse ++ text.map Char.toNat, rest) := by
  -- Each character adds its code point, and the quote behind the last one ends the text.
  induction text generalizing units with
  | nil => simp [readUnits]
  | cons character text ih =>
    rw [List.flatMap_cons, List.append_assoc, readUnits_escaped, ih]
    simp

/-- Code points of characters are joined to those characters, for none of them is a surrogate. -/
theorem joinUnits_toNat (text : List Char) : joinUnits (text.map Char.toNat) = some text := by
  induction text with
  | nil => rfl
  | cons character text ih =>
    -- A character is no surrogate, so that no unit waits for another one to complete it.
    have valid : character.toNat < 0xD800 ∨ 0xDFFF < character.toNat ∧ character.toNat < 0x110000 :=
      character.valid
    have notHigh :
        (decide (0xD800 ≤ character.toNat) && decide (character.toNat < 0xDC00)) = false := by
      rw [← Bool.not_eq_true, Bool.and_eq_true, decide_eq_true_eq, decide_eq_true_eq]
      omega
    have notLow :
        (decide (0xDC00 ≤ character.toNat) && decide (character.toNat < 0xE000)) = false := by
      rw [← Bool.not_eq_true, Bool.and_eq_true, decide_eq_true_eq, decide_eq_true_eq]
      omega
    rw [List.map_cons, joinUnits.eq_def]
    simp only [notHigh, notLow, ih, Char.ofNat_toNat]
    rfl

/-- The text of the code points of a text is that text. -/
theorem unitsText_toNat (text : String) : unitsText (text.toList.map Char.toNat) = some text := by
  rw [unitsText, joinUnits_toNat, Option.map_some, String.ofList_toList]

end Texts

section Values

/-- A text is not empty, and does not start with spacing. -/
def StartsValue (text : List Char) : Prop :=
  ∃ first others, text = first :: others ∧ isSpacing first = false

/-- Nothing is skipped before a value. -/
theorem StartsValue.skipSpacing_append {text : List Char} (starts : StartsValue text)
    (rest : List Char) : skipSpacing (text ++ rest) = text ++ rest := by
  -- The first character of the value ends the skipping at once.
  obtain ⟨first, others, rfl, shown⟩ := starts
  rw [skipSpacing, List.cons_append, List.dropWhile_cons_of_neg]
  rw [shown]
  exact Bool.false_ne_true

/-- A line break is skipped with its indentation. -/
theorem skipSpacing_lineBreak (depth : Nat) (rest : List Char) :
    skipSpacing ((Json.lineBreak depth).toList ++ rest) = skipSpacing rest := by
  -- The break and every blank of the indentation are spacing.
  rw [Json.lineBreak, String.toList_ofList, skipSpacing, List.dropWhile_append_of_pos]
  · rfl
  · intro character member
    rcases List.mem_cons.mp member with rfl | blank
    · rfl
    · rw [List.eq_of_mem_replicate blank]
      rfl

/-- A text is read as a part of a settings tree, whatever may follow it. -/
structure Reads (text : String) (part : SettingsTree) : Prop where
  starts : StartsValue text.toList
  reads : ∃ written, SettingsTree.ofWritten written = part ∧
    ∀ fuel rest, text.toList.length ≤ fuel → Stops rest →
      readValue fuel (text.toList ++ rest) = some (written, rest)

variable {depth : Nat}

/-- A reading that has enough fuel for some text has some fuel. -/
theorem exists_fuel {fuel : Nat} {first : Char} {others : List Char}
    (enough : (first :: others).length ≤ fuel) :
    ∃ smaller, fuel = smaller + 1 ∧ others.length ≤ smaller := by
  -- The first character alone takes one unit of it.
  rw [List.length_cons] at enough
  exact ⟨fuel - 1, by omega, by omega⟩

/-- A fixed word is read as what it stands for, whatever may follow it. -/
theorem reads_word {text : String} {first : Char} {others : List Char} {part : SettingsTree}
    (written : WrittenJson) (shown : text.toList = first :: others)
    (starts : isSpacing first = false)
    (same : SettingsTree.ofWritten written = part)
    (reads : ∀ fuel rest, readValue (fuel + 1) (first :: (others ++ rest)) = some (written, rest)) :
    Reads text part := by
  refine ⟨⟨_, _, shown, starts⟩, written, same, ?_⟩
  -- The word is read whole, so that no more fuel is needed than for its first letter.
  intro fuel rest enough _
  rw [shown] at enough ⊢
  obtain ⟨fuel, rfl, _⟩ := exists_fuel enough
  exact reads fuel rest

/-- Null is read as null. -/
theorem reads_null : Reads (Json.prettyAt depth .null) .null := by
  have shown : (Json.prettyAt depth .null).toList = 'n' :: "ull".toList := by
    rw [Json.prettyAt]
    rfl
  -- Its first letter tells the word from all other values.
  exact reads_word .null shown rfl (by rw [SettingsTree.ofWritten]) fun fuel rest => by
    simp [readValue, readWord]

/-- A flag is read as it is. -/
theorem reads_flag (value : Bool) : Reads (Json.prettyAt depth (.flag value)) (.flag value) := by
  -- The two words differ in their first letters already.
  cases value with
  | true =>
    have shown : (Json.prettyAt depth (.flag true)).toList = 't' :: "rue".toList := by
      rw [Json.prettyAt]
      rfl
    exact reads_word (.flag true) shown rfl (by rw [SettingsTree.ofWritten]) fun fuel rest => by
      simp [readValue, readWord]
  | false =>
    have shown : (Json.prettyAt depth (.flag false)).toList = 'f' :: "alse".toList := by
      rw [Json.prettyAt]
      rfl
    exact reads_word (.flag false) shown rfl (by rw [SettingsTree.ofWritten]) fun fuel rest => by
      simp [readValue, readWord]

/-- A text in quotes starts and ends with a quote. -/
theorem toList_quoted (value : String) :
    (Json.quoted value).toList = '"' :: (value.toList.flatMap Json.escaped ++ ['"']) := by
  rw [Json.quoted, String.toList_ofList, List.cons_append]

/-- A text is read as it is, whatever its characters are. -/
theorem reads_text (value : String) : Reads (Json.prettyAt depth (.text value)) (.text value) := by
  have text : (Json.prettyAt depth (.text value)).toList =
      '"' :: (value.toList.flatMap Json.escaped ++ ['"']) := by
    rw [Json.prettyAt, toList_quoted]
  -- What is written is kept as units first, which are then joined to characters again.
  refine ⟨⟨_, _, text, rfl⟩, .text (value.toList.map Char.toNat), ?_, ?_⟩
  · rw [SettingsTree.ofWritten, unitsText_toNat]
  · intro fuel rest enough _
    rw [text] at enough ⊢
    obtain ⟨fuel, rfl, _⟩ := exists_fuel enough
    simp [readValue, readUnits_quoted]

/-- A digit is no spacing. -/
theorem isSpacing_of_digit {character : Char} (digit : character.isDigit = true) :
    isSpacing character = false := by
  rw [← Bool.not_eq_true]
  intro spacing
  simp only [isSpacing, Bool.or_eq_true, beq_iff_eq] at spacing
  -- Each of the four kinds of spacing is some other character.
  rcases spacing with ((rfl | rfl) | rfl) | rfl <;> cases digit

/-- A digit does not start any value but a number. -/
theorem readValue_digit {first : Char} (digit : first.isDigit = true) (fuel : Nat)
    (others : List Char) : readValue (fuel + 1) (first :: others) =
      (readNumber (first :: others)).map fun (literal, rest) => (.number literal, rest) := by
  rw [readValue]
  -- Every other kind of value begins with a character that is no digit.
  all_goals
    rintro rfl
    cases digit

/-- A number that can be used is read as it is, if its digits alone are. -/
theorem reads_decimal {value : Float} (usable : isUsable value = true) (back : ReadsBack value) :
    Reads (Json.prettyAt depth (.decimal value)) (.number value) := by
  -- A number that can be used is finite, so that its digits are printed and not null.
  have finite : value.isFinite = true := (Bool.and_eq_true_iff.mp usable).1
  have text : Json.prettyAt depth (.decimal value) = Notation.document.text value := by
    rw [Json.prettyAt, Json.decimalText, if_pos finite]
  obtain ⟨⟨first, others, split, digit⟩, literal, reads⟩ := readNumber_document usable
  -- What is read of the digits does not depend on what stops them, so it is the number itself.
  have same : literal.double = value := by
    have alone := reads [] (by simp [Stops])
    rw [List.append_nil] at alone
    rw [ReadsBack, Json.decimalText, if_pos finite, alone] at back
    exact Option.some.inj back
  rw [text]
  refine ⟨⟨first, others, split, isSpacing_of_digit digit⟩, .number literal, ?_, ?_⟩
  · rw [SettingsTree.ofWritten, same, if_pos finite]
  · intro fuel rest enough stops
    -- The first digit leads the reader to its case for numbers.
    have read := reads rest stops
    rw [split] at enough read ⊢
    obtain ⟨fuel, rfl, _⟩ := exists_fuel enough
    rw [List.cons_append] at read ⊢
    rw [readValue_digit digit, read]
    rfl

/-- The parts of a table under their keys, as an object holds them. -/
def keyed (parts : List (String × SettingsTree)) : List (Option String × SettingsTree) :=
  parts.map fun (key, part) => (some key, part)

/-- An entry and a part agree: they have one key, and the text of the entry is read as the part. -/
def Agrees (depth : Nat) (entry : String × Json) (part : String × SettingsTree) : Prop :=
  entry.1 = part.1 ∧ Reads (Json.prettyAt depth entry.2) part.2

/-- An entry is read up to what follows its value, which decides whether another entry comes. -/
theorem readEntries_entry {key text : String} {part : SettingsTree} (reads : Reads text part) :
    ∃ written, SettingsTree.ofWritten written = part ∧
      ∀ fuel gathered rest, text.toList.length ≤ fuel → Stops rest →
        readEntries (fuel + 1) gathered ((Json.quoted key ++ ": " ++ text).toList ++ rest) =
          match skipSpacing rest with
          | '}' :: rest => some (((key.toList.map Char.toNat, written) :: gathered).reverse, rest)
          | ',' :: rest =>
            readEntries fuel ((key.toList.map Char.toNat, written) :: gathered) (skipSpacing rest)
          | _ => none := by
  obtain ⟨starts, written, same, value⟩ := reads
  refine ⟨written, same, ?_⟩
  intro fuel gathered rest enough stops
  -- The line of an entry is its key in quotes, a colon, a blank, and the text of the value.
  have line : (Json.quoted key ++ ": " ++ text).toList ++ rest =
      '"' :: (key.toList.flatMap Json.escaped ++ '"' :: ':' :: ' ' :: (text.toList ++ rest)) := by
    rw [String.toList_append, String.toList_append, toList_quoted]
    simp
  have colon : skipSpacing (':' :: ' ' :: (text.toList ++ rest)) =
      ':' :: ' ' :: (text.toList ++ rest) := rfl
  have blank : skipSpacing (' ' :: (text.toList ++ rest)) = text.toList ++ rest :=
    starts.skipSpacing_append rest
  -- The key ends at its closing quote, and the value is read up to where it stops.
  rw [line, readEntries]
  simp only [readUnits_quoted, colon, blank, value fuel rest enough stops, Option.bind_eq_bind,
    Option.bind_some]
  rfl

/-- The texts of some entries, one a line. -/
def entriesText (depth : Nat) (entries : List (String × Json)) : List Char :=
  (("," ++ Json.lineBreak depth).intercalate (Json.prettyEntries depth entries)).toList

/-- The text of one entry. -/
theorem entriesText_single (depth : Nat) (key : String) (value : Json) :
    entriesText depth [(key, value)] =
      (Json.quoted key ++ ": " ++ Json.prettyAt depth value).toList := by
  rw [entriesText, Json.prettyEntries, Json.prettyEntries, String.intercalate_singleton]

/-- The text of an entry before others: a comma and a line break stand between them. -/
theorem entriesText_cons (depth : Nat) (key : String) (value : Json)
    (next : String × Json) (later : List (String × Json)) :
    entriesText depth ((key, value) :: next :: later) =
      (Json.quoted key ++ ": " ++ Json.prettyAt depth value).toList ++
        ',' :: ((Json.lineBreak depth).toList ++ entriesText depth (next :: later)) := by
  -- The separator of the join ends the line of the first entry.
  obtain ⟨other, item⟩ := next
  rw [entriesText, entriesText, Json.prettyEntries, Json.prettyEntries,
    String.intercalate_cons_cons]
  simp only [String.toList_append, List.append_assoc]
  rfl

/-- Entries start with the quote of a key. -/
theorem startsValue_entriesText (depth : Nat) (entry : String × Json)
    (later : List (String × Json)) :
    ∃ others, entriesText depth (entry :: later) = '"' :: others := by
  -- The first line begins with a key, whether or not other lines follow it.
  obtain ⟨key, value⟩ := entry
  cases later with
  | nil =>
    rw [entriesText_single, String.toList_append, String.toList_append, toList_quoted]
    exact ⟨_, rfl⟩
  | cons next later =>
    rw [entriesText_cons, String.toList_append, String.toList_append, toList_quoted]
    exact ⟨_, rfl⟩

/-- A line break stops a value. -/
theorem stops_lineBreak (depth : Nat) (rest : List Char) :
    Stops ((Json.lineBreak depth).toList ++ rest) := by
  rw [Json.lineBreak, String.toList_ofList]
  -- The break itself is the first character of a line break.
  intro character first
  obtain rfl := Option.some.inj first
  exact .inr rfl

/-- Fuel for an entry is fuel for its value, and more. -/
theorem fuel_of_entry {fuel : Nat} {key text : String}
    (enough : (Json.quoted key ++ ": " ++ text).toList.length ≤ fuel) :
    ∃ smaller, fuel = smaller + 1 ∧ text.toList.length ≤ smaller := by
  rw [String.toList_append, String.toList_append, List.length_append, List.length_append] at enough
  -- The colon and the blank behind the key take more than one unit.
  have space : ": ".toList.length = 2 := rfl
  exact ⟨fuel - 1, by omega, by omega⟩

/-- Entries that agree with the parts of a table are read as those parts. -/
theorem readEntries_agree {entries : List (String × Json)} {parts : List (String × SettingsTree)}
    (agree : List.Forall₂ (Agrees depth) entries parts) (nonempty : entries ≠ []) :
    ∃ written, SettingsTree.ofWrittenEntries written = keyed parts ∧
      ∀ fuel gathered outer rest, (entriesText depth entries).length ≤ fuel →
        readEntries fuel gathered (entriesText depth entries ++
            ((Json.lineBreak outer).toList ++ '}' :: rest)) =
          some (gathered.reverse ++ written, rest) := by
  -- Entries and parts are taken off in pairs; what is gathered stays quantified over.
  induction agree with
  | nil => exact absurd rfl nonempty
  | @cons entry part entries parts one later ih =>
    obtain ⟨key, value⟩ := entry
    obtain ⟨name, part⟩ := part
    obtain ⟨rfl, reads⟩ : key = name ∧ Reads (Json.prettyAt depth value) part := one
    obtain ⟨written, same, read⟩ := @readEntries_entry key _ _ reads
    have units := unitsText_toNat key
    cases later with
    | nil =>
      -- The last entry is followed by a line break and the brace that closes the object.
      refine ⟨[(key.toList.map Char.toNat, written)], ?_, ?_⟩
      · rw [SettingsTree.ofWrittenEntries, SettingsTree.ofWrittenEntries, same, units]
        rfl
      · intro fuel gathered outer rest enough
        rw [entriesText_single] at enough ⊢
        obtain ⟨fuel, rfl, short⟩ := fuel_of_entry enough
        have closing : skipSpacing ((Json.lineBreak outer).toList ++ '}' :: rest) = '}' :: rest :=
          skipSpacing_lineBreak outer _
        rw [read fuel gathered _ short (stops_lineBreak outer _), closing]
        simp
    | @cons next _ following _ _ _ =>
      obtain ⟨others, sameOthers, readOthers⟩ := ih (List.cons_ne_nil _ _)
      refine ⟨(key.toList.map Char.toNat, written) :: others, ?_, ?_⟩
      · rw [SettingsTree.ofWrittenEntries, same, units, sameOthers]
        rfl
      · intro fuel gathered outer rest enough
        rw [entriesText_cons] at enough ⊢
        rw [List.length_append, List.length_cons, List.length_append] at enough
        obtain ⟨fuel, rfl, short⟩ := fuel_of_entry (Nat.le_trans (Nat.le_add_right _ _) enough)
        have comma (text : List Char) : Stops (',' :: text) := by
          intro character first
          exact .inl (Option.some.inj first).symm
        -- The comma leads on to the next entry, behind a line break.
        obtain ⟨_, quote⟩ := startsValue_entriesText depth next following
        have onward (text : List Char) : skipSpacing ((Json.lineBreak depth).toList ++
            (entriesText depth (next :: following) ++ text)) =
              entriesText depth (next :: following) ++ text := by
          rw [skipSpacing_lineBreak, quote]
          rfl
        have stays (text : List Char) : skipSpacing (',' :: text) = ',' :: text := rfl
        rw [List.append_assoc, List.cons_append, List.append_assoc,
          read fuel gathered _ short (comma _), stays]
        simp only [onward, readOthers fuel _ outer rest (by omega)]
        simp

/-- An object whose entries agree with the parts of a table is read as that table. -/
theorem reads_object {entries : List (String × Json)} {parts : List (String × SettingsTree)}
    (agree : List.Forall₂ (Agrees (depth + 1)) entries parts) (nonempty : entries ≠ []) :
    Reads (Json.prettyAt depth (.object entries)) (.table (keyed parts)) := by
  obtain ⟨written, same, read⟩ := readEntries_agree agree nonempty
  obtain ⟨entry, later, rfl⟩ := List.exists_cons_of_ne_nil nonempty
  -- An object is its entries between braces, each brace on a line of its own.
  have text : (Json.prettyAt depth (.object (entry :: later))).toList =
      '\x7b' :: ((Json.lineBreak (depth + 1)).toList ++ (entriesText (depth + 1) (entry :: later) ++
        ((Json.lineBreak depth).toList ++ ['\x7d']))) := by
    have filled : (Json.prettyEntries (depth + 1) (entry :: later)).isEmpty = false := by
      rw [Json.prettyEntries]
      rfl
    rw [Json.prettyAt, Json.bracketed, filled, if_neg Bool.false_ne_true]
    simp only [String.toList_append, List.append_assoc]
    rfl
  obtain ⟨_, quote⟩ := startsValue_entriesText (depth + 1) entry later
  refine ⟨⟨_, _, text, rfl⟩, .object written, ?_, ?_⟩
  · rw [SettingsTree.ofWritten, same]
  · intro fuel rest enough _
    rw [text] at enough ⊢
    -- The opening brace takes one unit of fuel, and the rest is enough for the entries.
    obtain ⟨fuel, rfl, short⟩ := exists_fuel enough
    rw [List.length_append, List.length_append] at short
    have inner := read fuel [] depth rest (by omega)
    have skipped : skipSpacing ((Json.lineBreak (depth + 1)).toList ++
        (entriesText (depth + 1) (entry :: later) ++
          ((Json.lineBreak depth).toList ++ '\x7d' :: rest))) =
        entriesText (depth + 1) (entry :: later) ++
          ((Json.lineBreak depth).toList ++ '\x7d' :: rest) := by
      rw [skipSpacing_lineBreak, quote]
      rfl
    simp only [List.cons_append, List.append_assoc, List.nil_append]
    rw [readValue]
    simp only [skipped]
    split
    case h_1 closed =>
      -- The first entry starts with a quote, so the object does not end at once.
      rw [quote] at closed
      cases closed
    case h_2 =>
      rw [inner]
      rfl

/-- A value that is printed alone is read as its part of a settings tree. -/
theorem read_pretty {value : Json} {part : SettingsTree}
    (reads : Reads (Json.prettyAt 0 value) part) :
    (read value.pretty).map SettingsTree.ofWritten = some part := by
  obtain ⟨starts, written, same, value⟩ := reads
  -- Nothing follows a value that is printed alone, and nothing stands before it.
  have alone := value ((Json.prettyAt 0 _).toList.length + 1) [] (Nat.le_succ _) (by simp [Stops])
  have first := starts.skipSpacing_append []
  rw [List.append_nil] at first alone
  rw [Json.pretty, read, first, alone, ← same]
  rfl

end Values

end JsonText

end FlatKnit
