import FlatKnit.Proofs.Text.Scan
import FlatKnit.Toml.Printer
import FlatKnit.Toml.Scalar

/-! Quoted TOML strings: a text is read back from every form of quotes that it is written in. -/

namespace FlatKnit

namespace TomlText

variable {rest : List Char}

/-- A control is written by its code point in four digits, which are read as that code point. -/
theorem codeDigits_control {code : Nat} (short : code < 0x80) :
    (Toml.codeDigits code).length = 4 ∧ hexValue (Toml.codeDigits code) = some code := by
  -- The codes are few enough to check each of them.
  have all : ∀ code < 0x80, (Toml.codeDigits code).length = 4 ∧
      hexValue (Toml.codeDigits code) = some code := by
    decide
  exact all code short

/-- The escape of a code point is read as its character. -/
theorem readCode_codeDigits {character : Char} (short : character.toNat < 0x80) :
    readCode 4 (Toml.codeDigits character.toNat ++ rest) = some (character, rest) := by
  obtain ⟨length, value⟩ := codeDigits_control short
  -- Exactly four digits are taken, and they are those of the code.
  have taken :
      (Toml.codeDigits character.toNat ++ rest).take 4 = Toml.codeDigits character.toNat := by
    rw [← length, List.take_left]
  have left : (Toml.codeDigits character.toNat ++ rest).drop 4 = rest := by
    rw [← length, List.drop_left]
  -- Codes this small are no surrogates, so that each is the code of a character.
  have scalar : scalar? character.toNat = some character := by
    rw [scalar?, if_pos, Char.ofNat_toNat]
    simp
    omega
  unfold readCode
  simp only [taken, left, length, value]
  simp [scalar]

/-- A character that is written as an escape is read back from it, wherever it stands. -/
def IsEscape (character : Char) (code : List Char) : Prop :=
  ∀ rest, readEscape (code ++ rest) = some (character, rest) ∧
    lineBreak? (skipSpace (code ++ rest)) = none

/-- A character stands for itself: it can be printed, and is no backslash. -/
def IsPlain (character : Char) : Prop :=
  isPrintable character = true ∧ character ≠ '\\'

/-- A character inside double quotes is written as an escape, or as it is. -/
theorem escaped_cases (inLines : Bool) (character : Char) :
    (∃ code, Toml.escaped inLines character = '\\' :: code ∧ IsEscape character code) ∨
    Toml.escaped inLines character = [character] ∧
      (IsPlain character ∨ inLines = true ∧ character = '\n') := by
  -- Every named escape is read by its letter, and only the last case has no letter.
  unfold Toml.escaped
  split
  case h_3 =>
    -- A line feed stays as it is among the lines of a text.
    cases inLines with
    | true => exact .inr ⟨rfl, .inr ⟨rfl, rfl⟩⟩
    | false => exact .inl ⟨['n'], rfl, fun rest => ⟨rfl, rfl⟩⟩
  case h_7 notBackspace notTab notFeed notForm notReturn notBackslash =>
    split
    case isTrue control =>
      -- Any other control is written with four digits.
      simp only [Bool.or_eq_true, decide_eq_true_eq, beq_iff_eq] at control
      refine .inl ⟨'u' :: Toml.codeDigits character.toNat, rfl, fun rest => ⟨?_, rfl⟩⟩
      exact readCode_codeDigits (by omega)
    case isFalse shown =>
      simp only [Bool.or_eq_true, decide_eq_true_eq, beq_iff_eq, not_or] at shown
      -- What is neither a control nor the delete character can be printed.
      refine .inr ⟨rfl, .inl ⟨?_, notBackslash⟩⟩
      simp only [isPrintable, Bool.or_eq_true, Bool.and_eq_true, decide_eq_true_eq, bne_iff_ne]
      exact .inr ⟨by omega, shown.2⟩
  all_goals exact .inl ⟨_, rfl, fun rest => ⟨rfl, rfl⟩⟩

/-- A character that is no quote is written before what is written for those behind it. -/
theorem escapedText_cons {character : Char} (notQuote : character ≠ '"') (inLines : Bool)
    (allowed run : Nat) (text : List Char) :
    Toml.escapedText inLines allowed run (character :: text) =
      Toml.escaped inLines character ++ Toml.escapedText inLines allowed 0 text := by
  -- The other case of the printer is that of a quote.
  rw [Toml.escapedText]
  exact notQuote

/-- A basic string is read up to its closing quote. -/
theorem readBasic_escapedText {text read : List Char} {fuel : Nat}
    (enough : (Toml.escapedText false 0 0 text).length < fuel) :
    readBasic fuel read (Toml.escapedText false 0 0 text ++ '"' :: rest) =
      some (read.reverse ++ text, rest) := by
  -- The characters read so far are kept in reverse, and the induction leaves them free.
  induction text generalizing read fuel with
  | nil =>
    obtain ⟨fuel, rfl⟩ : ∃ smaller, fuel = smaller + 1 := ⟨fuel - 1, by omega⟩
    simp [Toml.escapedText, readBasic]
  | cons character text ih =>
    obtain ⟨fuel, rfl⟩ : ∃ smaller, fuel = smaller + 1 := ⟨fuel - 1, by omega⟩
    -- Once the character is read, the rest of the text is read behind it.
    have onward (less : (Toml.escapedText false 0 0 text).length < fuel) :
        readBasic fuel (character :: read) (Toml.escapedText false 0 0 text ++ '"' :: rest) =
          some (read.reverse ++ character :: text, rest) :=
      (ih less).trans (by simp)
    by_cases quote : character = '"'
    · -- No quote may stand without a backslash.
      subst quote
      rw [Toml.escapedText, if_neg (Nat.lt_irrefl 0)] at enough ⊢
      simp only [List.length_cons] at enough
      rw [← onward (by omega)]
      rfl
    · rw [escapedText_cons quote, List.length_append] at enough
      rw [escapedText_cons quote, List.append_assoc]
      rcases escaped_cases false character with ⟨code, written, reads⟩ | ⟨written, plain | none⟩
      · -- An escape is read as its character.
        simp only [written, List.length_cons] at enough
        rw [written, List.cons_append, readBasic]
        simp only [(reads _).1, ← onward (by omega)]
        rfl
      · -- A plain character neither closes the string nor starts an escape.
        have notQuote : (character == '"') = false := beq_eq_false_iff_ne.mpr quote
        have notBackslash : (character == '\\') = false := beq_eq_false_iff_ne.mpr plain.2
        simp only [written, List.length_singleton] at enough
        rw [written, List.singleton_append, readBasic]
        simp only [notQuote, notBackslash, plain.1, ← onward (by omega)]
        rfl
      · cases none.1

section Lines

variable {quote : Char} {escapes : Bool} {read : List Char} {fuel : Nat}

/-- A run of quotes is taken off as a whole. -/
theorem takeWhile_run {run : Nat} (stops : ∀ character ∈ rest.head?, character ≠ quote) :
    (List.replicate run quote ++ rest).takeWhile (· == quote) = List.replicate run quote := by
  -- What follows the run does not go on with it.
  apply takeWhile_front
  · intro character member
    rw [List.eq_of_mem_replicate member]
    exact beq_self_eq_true quote
  · exact fun character first => beq_eq_false_iff_ne.mpr (stops character first)

/-- Up to two quotes in a row belong to a string of several lines. -/
theorem readLines_quotes {run : Nat} (few : run < 3)
    (stops : ∀ character ∈ rest.head?, character ≠ quote)
    (enough : (List.replicate run quote ++ rest).length < fuel) :
    ∃ smaller, rest.length < smaller ∧
      readLines quote escapes fuel read (List.replicate run quote ++ rest) =
        readLines quote escapes smaller (List.replicate run quote ++ read) rest := by
  cases run with
  | zero => exact ⟨fuel, by simpa using enough, rfl⟩
  | succ run =>
    -- The reader takes the run as a whole, and adds it because it is too short to close.
    have taken := @takeWhile_run rest quote (run + 1) stops
    have left : (List.replicate (run + 1) quote ++ rest).drop (run + 1) = rest := by
      rw [List.drop_left' (List.length_replicate ..)]
    rw [List.length_append, List.length_replicate] at enough
    obtain ⟨fuel, rfl⟩ : ∃ smaller, fuel = smaller + 1 := ⟨fuel - 1, by omega⟩
    refine ⟨fuel, by omega, ?_⟩
    rw [List.replicate_succ, List.cons_append] at taken left ⊢
    rw [readLines, if_pos (beq_self_eq_true quote)]
    simp only [taken, List.length_cons, List.length_replicate, few, if_true, left]

/-- Three quotes close a string of several lines, and up to two before them belong to it. -/
theorem readLines_closing {run : Nat} (few : run < 3)
    (stops : ∀ character ∈ rest.head?, character ≠ quote) :
    readLines quote escapes (fuel + 1) read
        (List.replicate run quote ++ (quote :: quote :: quote :: rest)) =
      some (read.reverse ++ List.replicate run quote, rest) := by
  -- The quotes of the text and the closing ones form one run.
  have joined : List.replicate run quote ++ (quote :: quote :: quote :: rest) =
      List.replicate (run + 3) quote ++ rest := by
    rw [List.replicate_add, List.append_assoc]
    rfl
  have taken := @takeWhile_run rest quote (run + 3) stops
  have left : (List.replicate (run + 3) quote ++ rest).drop (run + 3) = rest := by
    rw [List.drop_left' (List.length_replicate ..)]
  rw [joined]
  rw [List.replicate_succ, List.cons_append] at taken left ⊢
  rw [readLines, if_pos (beq_self_eq_true quote)]
  simp only [taken, List.length_cons, List.length_replicate, left]
  -- The run has between three and five quotes, and all but three of them are text.
  rw [if_neg (by omega), if_pos (by omega)]
  simp [List.replicate_succ]

/-- A character that can be printed stands for itself, unless it is a quote or starts an escape. -/
theorem readLines_plain {character : Char} (plain : isPrintable character = true)
    (notQuote : character ≠ quote) (notEscape : escapes = true → character ≠ '\\') :
    readLines quote escapes (fuel + 1) read (character :: rest) =
      readLines quote escapes fuel (character :: read) rest := by
  -- None of the three special cases of the reader applies.
  have first : (character == quote) = false := beq_eq_false_iff_ne.mpr notQuote
  have second : (escapes && character == '\\') = false := by
    cases escapes with
    | false => rfl
    | true => simpa using notEscape rfl
  have third : lineBreak? (character :: rest) = none := by
    unfold lineBreak?
    split
    case h_1 same =>
      obtain ⟨rfl, _⟩ := List.cons.inj same
      cases plain
    case h_2 same =>
      obtain ⟨rfl, _⟩ := List.cons.inj same
      cases plain
    case h_3 => rfl
  rw [readLines]
  simp only [first, second, third, plain]
  rfl

/-- A line feed stands for itself. -/
theorem readLines_feed (notQuote : '\n' ≠ quote) :
    readLines quote escapes (fuel + 1) read ('\n' :: rest) =
      readLines quote escapes fuel ('\n' :: read) rest := by
  have first : ('\n' == quote) = false := beq_eq_false_iff_ne.mpr notQuote
  -- A line feed is no quote and no backslash, so that it is kept as a break.
  rw [readLines]
  simp only [first]
  cases escapes <;> rfl

/-- An escape stands for its character. -/
theorem readLines_escape {character : Char} {code : List Char} (written : IsEscape character code)
    (notQuote : '\\' ≠ quote) :
    readLines quote true (fuel + 1) read ('\\' :: (code ++ rest)) =
      readLines quote true fuel (character :: read) rest := by
  have first : ('\\' == quote) = false := beq_eq_false_iff_ne.mpr notQuote
  -- An escape that is not a line break folded away is read by its letter or its digits.
  obtain ⟨escape, noBreak⟩ := written rest
  rw [readLines]
  simp only [first, noBreak, escape]
  rfl

/-- Behind a run of quotes, a character is read by the step that its first mark asks for. -/
theorem readLines_onward {run : Nat} {first character : Char} {others remaining : List Char}
    (few : run < 3) (other : first ≠ quote)
    (step : ∀ fuel read, readLines quote escapes (fuel + 1) read (first :: others) =
      readLines quote escapes fuel (character :: read) remaining)
    (shorter : remaining.length ≤ others.length)
    (enough : (List.replicate run quote ++ first :: others).length < fuel) :
    ∃ smaller, remaining.length < smaller ∧
      readLines quote escapes fuel read (List.replicate run quote ++ first :: others) =
        readLines quote escapes smaller (character :: (List.replicate run quote ++ read))
          remaining := by
  -- The mark ends the run of quotes before it.
  have stops : ∀ next ∈ (first :: others).head?, next ≠ quote := by
    intro next head
    rwa [← Option.some.inj head]
  obtain ⟨fuel, more, taken⟩ := @readLines_quotes _ quote escapes read fuel run few stops enough
  rw [List.length_cons] at more
  obtain ⟨fuel, rfl⟩ : ∃ smaller, fuel = smaller + 1 := ⟨fuel - 1, by omega⟩
  exact ⟨fuel, by omega, by rw [taken, step]⟩

/--
How a text is written on several lines, where `run` quotes stand directly before it.

No more than two quotes stand in a row, so that three of them end the text.
-/
inductive Shows (quote : Char) (escapes : Bool) : Nat → List Char → List Char → Prop where
  | nil (run : Nat) : Shows quote escapes run [] []
  | quote {run : Nat} {text code : List Char} (few : run < 2)
      (later : Shows quote escapes (run + 1) text code) :
      Shows quote escapes run (quote :: text) (quote :: code)
  | plain {run : Nat} {character : Char} {text code : List Char}
      (printable : isPrintable character = true) (notQuote : character ≠ quote)
      (notEscape : escapes = true → character ≠ '\\') (later : Shows quote escapes 0 text code) :
      Shows quote escapes run (character :: text) (character :: code)
  | feed {run : Nat} {text code : List Char} (later : Shows quote escapes 0 text code) :
      Shows quote escapes run ('\n' :: text) ('\n' :: code)
  | escape {run : Nat} {character : Char} {written text code : List Char}
      (allowed : escapes = true) (isEscape : IsEscape character written)
      (later : Shows quote escapes 0 text code) :
      Shows quote escapes run (character :: text) ('\\' :: written ++ code)

/-- A text on several lines is read back up to its closing quotes. -/
theorem readLines_shows {run : Nat} {text code : List Char}
    (shows : Shows quote escapes run text code) (few : run < 3)
    (notFeed : '\n' ≠ quote) (notBackslash : '\\' ≠ quote)
    (stops : ∀ character ∈ rest.head?, character ≠ quote)
    (enough :
      (List.replicate run quote ++ (code ++ quote :: quote :: quote :: rest)).length < fuel) :
    readLines quote escapes fuel read
        (List.replicate run quote ++ (code ++ quote :: quote :: quote :: rest)) =
      some (read.reverse ++ List.replicate run quote ++ text, rest) := by
  induction shows generalizing read fuel with
  | nil run =>
    -- The quotes at the end of the text stand directly before the closing three.
    obtain ⟨fuel, rfl⟩ : ∃ smaller, fuel = smaller + 1 := ⟨fuel - 1, by omega⟩
    rw [List.nil_append, readLines_closing few stops, List.append_nil]
  | @quote run text code short later ih =>
    -- The quote joins those before it.
    have joined (others : List Char) : List.replicate run quote ++ quote :: others =
        List.replicate (run + 1) quote ++ others := by
      rw [List.replicate_succ', List.append_assoc, List.singleton_append]
    rw [List.cons_append, joined] at enough ⊢
    rw [ih (by omega) enough, List.append_assoc, List.append_assoc, joined]
  | @plain run character text code printable notQuote notEscape later ih =>
    obtain ⟨fuel, more, taken⟩ := @readLines_onward quote escapes read fuel run character character
      _ _ few notQuote (fun fuel read => readLines_plain printable notQuote notEscape)
      (Nat.le_refl _) enough
    exact taken.trans ((ih (by omega) more).trans (by simp))
  | @feed run text code later ih =>
    obtain ⟨fuel, more, taken⟩ := @readLines_onward quote escapes read fuel run '\n' '\n'
      _ _ few notFeed (fun fuel read => readLines_feed notFeed) (Nat.le_refl _) enough
    exact taken.trans ((ih (by omega) more).trans (by simp))
  | @escape run character written text code allowed isEscape later ih =>
    -- The escape is longer than its first mark, and all of it is behind the reader.
    subst allowed
    rw [List.cons_append, List.cons_append, List.append_assoc] at enough ⊢
    obtain ⟨fuel, more, taken⟩ := @readLines_onward quote true read fuel run '\\' character
      _ _ few notBackslash (fun fuel read => readLines_escape isEscape notBackslash)
      (List.suffix_append written _).length_le enough
    exact taken.trans ((ih (by omega) more).trans (by simp))

/-- A text is shown on several lines between double quotes, with every third quote escaped. -/
theorem shows_escapedText (run : Nat) (text : List Char) :
    Shows '"' true run text (Toml.escapedText true 2 run text) := by
  -- The run of quotes before the text is counted on by the induction.
  induction text generalizing run with
  | nil => exact .nil run
  | cons character text ih =>
    by_cases quote : character = '"'
    · subst quote
      rw [Toml.escapedText]
      by_cases few : run < 2
      · -- Two quotes in a row may stand as they are.
        rw [if_pos few]
        exact .quote few (ih _)
      · -- A third quote is escaped, and the count starts again.
        rw [if_neg few]
        exact @Shows.escape _ _ run '"' ['"'] _ _ rfl (fun _ => ⟨rfl, rfl⟩) (ih 0)
    · rw [escapedText_cons quote]
      rcases escaped_cases true character with ⟨code, written, reads⟩ | ⟨written, plain | feed⟩
      · rw [written]
        exact .escape rfl reads (ih 0)
      · rw [written]
        exact .plain plain.1 quote (fun _ => plain.2) (ih 0)
      · rw [written, feed.2]
        exact .feed (ih 0)

/-- What is known of the runs of a character, after one more character: the longest, the current. -/
def countRun (character : Char) (known : Nat × Nat) (next : Char) : Nat × Nat :=
  let current := if next == character then known.2 + 1 else 0
  (max known.1 current, current)

/-- The longest run is counted character by character. -/
theorem longestRun_eq (character : Char) (text : List Char) :
    Toml.longestRun character text = (text.foldl (countRun character) (0, 0)).1 :=
  rfl

/-- The longest run never gets shorter. -/
theorem le_foldl_countRun (character : Char) (text : List Char) (known : Nat × Nat) :
    known.1 ≤ (text.foldl (countRun character) known).1 := by
  -- Each step keeps the larger of the old length and the current one.
  induction text generalizing known with
  | nil => exact Nat.le_refl _
  | cons next text ih =>
    exact Nat.le_trans (Nat.le_max_left _ _) (ih (countRun character known next))

/-- A character without any run does not occur. -/
theorem ne_of_longestRun_eq_zero {text : List Char} (none : Toml.longestRun quote text = 0) :
    ∀ character ∈ text, character ≠ quote := by
  -- One occurrence would make a run of length one, which no later step shortens.
  intro character member same
  subst same
  obtain ⟨before, behind, rfl⟩ := List.append_of_mem member
  rw [longestRun_eq, List.foldl_append, List.foldl_cons] at none
  have more := le_foldl_countRun character behind
    (countRun character (before.foldl (countRun character) (0, 0)) character)
  rw [none] at more
  simp [countRun] at more

/-- A text is shown on several lines as it is, when none of its runs of quotes is too long. -/
theorem shows_literal {text : List Char} {known : Nat × Nat}
    (clean : ∀ character ∈ text, isPrintable character = true ∨ character = '\n')
    (few : (text.foldl (countRun quote) known).1 < 3) : Shows quote false known.2 text text := by
  -- What is counted is the longest run so far and the run that is going on.
  induction text generalizing known with
  | nil => exact .nil known.2
  | cons character text ih =>
    have later := ih (fun next member => clean next (List.mem_cons_of_mem _ member)) few
    have longest := Nat.lt_of_le_of_lt
      (le_foldl_countRun quote text (countRun quote known character)) few
    by_cases same : character = quote
    · subst same
      have counted :
          countRun character known character = (max known.1 (known.2 + 1), known.2 + 1) := by
        simp [countRun]
      rw [counted] at later longest
      -- The longest run is at least as long as the one that this quote belongs to.
      have short := Nat.lt_of_le_of_lt (Nat.le_max_right known.1 (known.2 + 1)) longest
      exact .quote (by omega) later
    · -- Another character ends the run before it.
      have counted : (countRun quote known character).2 = 0 := by
        simp [countRun, same]
      rw [counted] at later
      rcases clean character List.mem_cons_self with printable | rfl
      · exact .plain printable same (fun escapes => by cases escapes) later
      · exact .feed later

end Lines

section Strings

variable {text : List Char}

/-- A text that needs no codes has only line feeds beside what can be printed. -/
theorem printable_of_needsCodes (none : Toml.needsCodes text = false) :
    ∀ character ∈ text, isPrintable character = true ∨ character = '\n' := by
  -- The test for codes is false for every character of the text.
  intro character member
  have shown := List.any_eq_false.mp none character member
  simp only [Bool.or_eq_true, Bool.and_eq_true, decide_eq_true_eq, bne_iff_ne, beq_iff_eq] at shown
  simp only [isPrintable, Bool.or_eq_true, Bool.and_eq_true, decide_eq_true_eq, bne_iff_ne,
    beq_iff_eq]
  grind

/-- Neither kind of quotes follows a string. -/
def NoQuote (rest : List Char) : Prop :=
  ∀ character ∈ rest.head?, character ≠ '"' ∧ character ≠ '\x27'

/-- The text between two quotes of one character. -/
theorem toList_between_one (quote : Char) (text : List Char) :
    (Toml.between (String.singleton quote) text).toList = quote :: (text ++ [quote]) := by
  simp [Toml.between]

/-- The text between quotes of three characters starts with a line feed, if it has one. -/
theorem toList_between_three (quote : Char) (text : List Char) :
    (Toml.between (String.ofList [quote, quote, quote]) text).toList = quote :: quote :: quote ::
      ((if text.contains '\n' then ['\n'] else []) ++ text ++ [quote, quote, quote]) := by
  by_cases feed : '\n' ∈ text <;> simp [Toml.between, feed]

/-- One of the two quotes that a text can stand between. -/
def IsQuote (quote : Char) : Prop :=
  quote = '"' ∨ quote = '\x27'

/-- The line feed that was put before a text of several lines is skipped, and nothing else. -/
theorem skipFirstBreak_between {quote : Char} (kind : IsQuote quote) (text rest : List Char) :
    skipFirstBreak ((if text.contains '\n' then ['\n'] else []) ++ (text ++ quote :: rest)) =
      text ++ quote :: rest := by
  by_cases feed : '\n' ∈ text
  · simp [feed, skipFirstBreak, lineBreak?]
  · -- A text without a line feed does not start with a line break, whatever comes behind it.
    have other : quote ≠ '\n' ∧ quote ≠ '\r' := by
      rcases kind with rfl | rfl <;> decide
    have noBreak : lineBreak? (text ++ quote :: rest) = none := by
      unfold lineBreak?
      split
      case h_1 => rcases text with _ | ⟨first, text⟩ <;> simp_all
      case h_2 => rcases text with _ | ⟨first, _ | ⟨second, text⟩⟩ <;> simp_all
      case h_3 => rfl
    simp [feed, skipFirstBreak, noBreak]

/-- One quote before a text, and one behind it, are never read as three. -/
theorem append_ne_quotes {quote : Char} (first : ∀ character ∈ text.head?, character ≠ quote)
    (stops : ∀ character ∈ rest.head?, character ≠ quote) (others : List Char) :
    text ++ quote :: rest ≠ quote :: quote :: others := by
  -- The text is empty or not, and either way one of its first two characters is no quote.
  rcases text with _ | ⟨character, text⟩
  · rcases rest with _ | ⟨next, rest⟩
    · simp
    · simpa using fun same => absurd same (stops next rfl)
  · simpa using fun same => absurd same (first character rfl)

/-- A text between two double quotes is a basic string. -/
theorem readString_double (first : ∀ character ∈ text.head?, character ≠ '"')
    (stops : NoQuote rest) :
    readString ('"' :: (text ++ '"' :: rest)) =
      readBasic ((text ++ '"' :: rest).length + 1) [] (text ++ '"' :: rest) := by
  -- Three quotes would start a string of several lines, so they are ruled out first.
  unfold readString
  split
  case h_1 same =>
    have three := append_ne_quotes first (fun character head => (stops character head).1)
    exact absurd (List.cons.inj same).2 (three _)
  case h_2 same => rw [(List.cons.inj same).2]
  case h_3 same => cases (List.cons.inj same).1
  case h_4 same => cases (List.cons.inj same).1
  case h_5 basic _ _ => exact absurd rfl (basic _)

/-- A text between two single quotes is a literal string. -/
theorem readString_single (first : ∀ character ∈ text.head?, character ≠ '\x27')
    (stops : NoQuote rest) :
    readString ('\x27' :: (text ++ '\x27' :: rest)) = readLiteral (text ++ '\x27' :: rest) := by
  -- The cases are those of double quotes, with the single one in their place.
  unfold readString
  split
  case h_1 same => cases (List.cons.inj same).1
  case h_2 same => cases (List.cons.inj same).1
  case h_3 same =>
    have three := append_ne_quotes first (fun character head => (stops character head).2)
    exact absurd (List.cons.inj same).2 (three _)
  case h_4 same => rw [(List.cons.inj same).2]
  case h_5 literal => exact absurd rfl (literal _)

/-- What is written for a text without bare quotes does not start with one. -/
theorem head?_escapedText (text : List Char) :
    ∀ character ∈ (Toml.escapedText false 0 0 text).head?, character ≠ '"' := by
  -- A quote is written behind a backslash, and any other character does not begin with a quote.
  rcases text with _ | ⟨first, text⟩
  · simp [Toml.escapedText]
  · by_cases quote : first = '"'
    · subst quote
      simp [Toml.escapedText]
    · rw [escapedText_cons quote]
      rcases escaped_cases false first with ⟨code, written, _⟩ | ⟨written, _⟩
      · simp [written]
      · simpa [written] using quote

/-- A basic string on one line is read as its text. -/
theorem readString_basic (text : List Char) (stops : NoQuote rest) :
    readString ((Toml.between "\"" (Toml.escapedText false 0 0 text)).toList ++ rest) =
      some (text, rest) := by
  -- The text stands between two double quotes, escaped so that none of its own is bare.
  have written := toList_between_one '"' (Toml.escapedText false 0 0 text)
  rw [show String.singleton '"' = "\"" from rfl] at written
  rw [written, List.cons_append, List.append_assoc, List.singleton_append,
    readString_double (head?_escapedText text) stops, readBasic_escapedText]
  · simp
  · rw [List.length_append]
    omega

/-- A literal string on one line is read as its text. -/
theorem readString_literal (clean : ∀ character ∈ text, isPrintable character = true)
    (noQuote : ∀ character ∈ text, character ≠ '\x27') (stops : NoQuote rest) :
    readString ((Toml.between "\x27" text).toList ++ rest) = some (text, rest) := by
  have written := toList_between_one '\x27' text
  rw [show String.singleton '\x27' = "\x27" from rfl] at written
  have first : ∀ character ∈ text.head?, character ≠ '\x27' :=
    fun character head => noQuote character (List.mem_of_mem_head? head)
  -- The reader takes what can be printed up to a single quote, which is the whole text.
  have taken : (text ++ '\x27' :: rest).takeWhile
      (fun character => character != '\x27' && isPrintable character) = text := by
    apply takeWhile_front
    · intro character member
      simp [clean character member, noQuote character member]
    · simp
  have left : (text ++ '\x27' :: rest).drop text.length = '\x27' :: rest := List.drop_left ..
  rw [written, List.cons_append, List.append_assoc, List.singleton_append,
    readString_single first stops, readLiteral]
  simp only [taken, left]

/-- A text on several lines is read back, behind the line feed that may stand before it. -/
theorem readLines_between {quote : Char} {escapes : Bool} {code : List Char} {fuel : Nat}
    (kind : IsQuote quote) (shows : Shows quote escapes 0 text code) (stops : NoQuote rest)
    (enough : (code ++ quote :: quote :: quote :: rest).length < fuel) :
    readLines quote escapes fuel [] (skipFirstBreak ((if code.contains '\n' then ['\n'] else []) ++
        (code ++ quote :: quote :: quote :: rest))) = some (text, rest) := by
  -- Neither kind of quote is a line feed or a backslash.
  have other : '\n' ≠ quote ∧ '\\' ≠ quote ∧ ∀ character ∈ rest.head?, character ≠ quote := by
    rcases kind with rfl | rfl
    · exact ⟨by decide, by decide, fun character head => (stops character head).1⟩
    · exact ⟨by decide, by decide, fun character head => (stops character head).2⟩
  have read := @readLines_shows rest quote escapes [] fuel 0 text code shows (by decide) other.1
    other.2.1 other.2.2 enough
  rw [skipFirstBreak_between kind]
  simpa using read

/-- A text that is shown on several lines between double quotes is read back. -/
theorem readString_basicLines (text : List Char) (stops : NoQuote rest) :
    readString ((Toml.between "\"\"\"" (Toml.escapedText true 2 0 text)).toList ++ rest) =
      some (text, rest) := by
  -- Three double quotes stand on either side of the text.
  have written := toList_between_three '"' (Toml.escapedText true 2 0 text)
  rw [show String.ofList ['"', '"', '"'] = "\"\"\"" from rfl] at written
  rw [written]
  simp only [List.cons_append, List.append_assoc, List.nil_append, readString]
  exact readLines_between (.inl rfl) (shows_escapedText 0 text) stops
    (by simp only [List.length_append]; omega)

/-- A text that is shown on several lines between single quotes is read back. -/
theorem readString_literalLines (clean : Toml.needsCodes text = false)
    (few : Toml.longestRun '\x27' text < 3) (stops : NoQuote rest) :
    readString ((Toml.between "\x27\x27\x27" text).toList ++ rest) = some (text, rest) := by
  have written := toList_between_three '\x27' text
  rw [show String.ofList ['\x27', '\x27', '\x27'] = "\x27\x27\x27" from rfl] at written
  -- Nothing is escaped, so that the text has to show itself.
  have shows : Shows '\x27' false 0 text text :=
    @shows_literal '\x27' text (0, 0) (printable_of_needsCodes clean) few
  rw [written]
  simp only [List.cons_append, List.append_assoc, List.nil_append, readString]
  exact readLines_between (.inr rfl) shows stops
    (by simp only [List.length_append]; omega)

/-- Whatever quotes a text is written with, it is read back from them. -/
theorem readString_quoted (value : String) (stops : NoQuote rest) :
    readString ((Toml.quoted value).toList ++ rest) = some (value.toList, rest) := by
  -- The printer picks the first of four forms that fits, and else falls back on the first form.
  unfold Toml.quoted
  dsimp only
  split
  case isTrue => exact readString_basic value.toList stops
  case isFalse =>
    split
    case isTrue literal =>
      simp only [Bool.and_eq_true, Bool.not_eq_true', beq_iff_eq] at literal
      obtain ⟨⟨codes, singles⟩, feeds⟩ := literal
      refine readString_literal ?_ (ne_of_longestRun_eq_zero singles) stops
      intro character member
      -- Without a line feed, all of its characters can be printed.
      rcases printable_of_needsCodes codes character member with printable | rfl
      · exact printable
      · simp [member] at feeds
    case isFalse =>
      split
      case isTrue => exact readString_basicLines value.toList stops
      case isFalse =>
        split
        case isTrue literal =>
          simp only [Bool.and_eq_true, Bool.not_eq_true', decide_eq_true_eq] at literal
          exact readString_literalLines literal.1 (by omega) stops
        case isFalse =>
          split
          case isTrue => exact readString_basicLines value.toList stops
          case isFalse => exact readString_basic value.toList stops

end Strings

end TomlText

end FlatKnit
