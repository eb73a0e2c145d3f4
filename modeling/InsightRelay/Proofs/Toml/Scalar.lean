import InsightRelay.Proofs.Toml.Text
import InsightRelay.Toml.Scalar

/-! Numbers, dates and times read from every text that they may be written as.

Integers are read back. Of floats, dates and times it only matters that they are read to their end. -/

namespace InsightRelay.Toml

section Ends

variable {base : Nat} {text : List Char}

/-- The characters that may stand behind a value and the gap that follows it. -/
def followers : List Char :=
  ['#', '\n', '\r', ',', ']', '\x7d']

/-- What may follow a value, the gap behind it apart. -/
def Follows (text : List Char) : Prop :=
  ∀ char ∈ (skipGap text).head?, char ∈ followers

/-- What may follow a value, with a gap or without one. -/
def Ends (text : List Char) : Prop :=
  ∀ char ∈ text.head?, char ∈ ' ' :: '\t' :: followers

/-- What may follow digits of a base: no digit, and no sign that makes something else of them. -/
def Stops (base : Nat) (text : List Char) : Prop :=
  ∀ char ∈ text.head?, isDigitOf base char = false ∧ char ∉ ['_', '-', ':', 'x', 'o', 'b']

theorem Follows.ends (follows : Follows text) : Ends text := by
  -- The head of the text is a blank itself or is what follows no blank.
  rcases text with _ | ⟨char, text⟩
  · exact nofun
  by_cases blank : isGap char = true
  · have listed : char = ' ' ∨ char = '\t' := by simpa [isGap] using blank
    intro first same
    obtain rfl := Option.some.inj same
    rcases listed with rfl | rfl <;> decide
  · -- Without a blank, the head is what the text behind the blanks starts with.
    have head := follows char (by rw [skipGap_cons (Bool.eq_false_iff.2 blank)]; rfl)
    intro first same
    obtain rfl := Option.some.inj same
    exact .tail _ (.tail _ head)

/-- What holds of all characters that may end a value holds of the one that does. -/
theorem Ends.head {holds : Char → Prop} (ends : Ends text)
    (each : ∀ char ∈ ' ' :: '\t' :: followers, holds char) : ∀ char ∈ text.head?, holds char :=
  fun char head => each char (ends char head)

theorem Ends.stops (ends : Ends text) (base : Nat) : Stops base text := by
  intro char head
  have each : ∀ char ∈ ' ' :: '\t' :: followers,
      digitValue? char = none ∧ char ∉ ['_', '-', ':', 'x', 'o', 'b'] := by decide
  have ⟨unvalued, other⟩ := ends.head each char head
  exact ⟨by rw [isDigitOf, unvalued], other⟩

theorem Stops.point : Stops 10 ('.' :: text) := by
  intro char same
  obtain rfl := Option.some.inj same
  decide

theorem Stops.power {letter : Char} (letter_ : letter = 'e' ∨ letter = 'E') :
    Stops 10 (letter :: text) := by
  intro char same
  obtain rfl := Option.some.inj same
  rcases letter_ with rfl | rfl <;> decide

end Ends

section Digits

variable {base : Nat} {char : Char} {digits text rest : List Char}

/-- The digits of base ten are the decimal ones. -/
theorem isDigitOf_ten (char : Char) : isDigitOf 10 char = char.isDigit := by
  -- Both sides are conditions on the code point.
  have decimal : char.isDigit = true ↔ 48 ≤ char.toNat ∧ char.toNat ≤ 57 := by
    simp only [Char.isDigit, Bool.and_eq_true, decide_eq_true_eq, ge_iff_le, UInt32.le_iff_toNat_le]
    rfl
  have valued : isDigitOf 10 char = true ↔ ∃ value, digitValue? char = some value ∧ value < 10 := by
    rw [isDigitOf]
    cases digitValue? char <;> simp
  -- The letters among the digits have values of ten and more.
  rw [Bool.eq_iff_iff, decimal, valued, digitValue?]
  simp only [Char.le_def, UInt32.le_iff_toNat_le]
  change (∃ value, (if 48 ≤ char.toNat ∧ char.toNat ≤ 57 then some (char.toNat - 48)
    else if 97 ≤ char.toNat ∧ char.toNat ≤ 102 then some (char.toNat - 87)
    else if 65 ≤ char.toNat ∧ char.toNat ≤ 70 then some (char.toNat - 55) else none) =
      some value ∧ value < 10) ↔ _
  split_ifs <;> simp <;> omega

theorem ne_underscore (digit : isDigitOf base char = true) : char ≠ '_' := by
  rintro rfl
  exact absurd digit (by simp [isDigitOf, digitValue?])

/-- Digits end where the text goes on with something else. -/
theorem moreDigits_stop (stops : Stops base rest) : moreDigits base rest = some ([], rest) := by
  rcases rest with _ | ⟨char, rest⟩
  · rfl
  · have ⟨other, listed⟩ := stops char rfl
    have plain : char ≠ '_' := fun same => listed (by simp [same])
    rw [moreDigits.eq_3 _ _ _ (fun _ _ same => absurd same plain) (fun same => absurd same plain), other]
    rfl

/-- The first digit of a group, with what is read behind it. -/
theorem Grouped.more (grouped : Grouped base digits text) (stops : Stops base rest) :
    ∃ first digits' text', digits = first :: digits' ∧ text = first :: text' ∧
      isDigitOf base first = true ∧ moreDigits base (text' ++ rest) = some (digits', rest) := by
  -- From the back: the last digit stands alone, any other one has a digit or an underscore behind it.
  induction grouped with
  | @single digit digit_ => exact ⟨digit, [], [], rfl, rfl, digit_, moreDigits_stop stops⟩
  | @digit first _ _ digit_ more ih =>
    obtain ⟨second, digits', text', rfl, rfl, second_, read⟩ := ih
    have plain := ne_underscore second_
    refine ⟨first, _, _, rfl, rfl, digit_, ?_⟩
    rw [List.cons_append, moreDigits.eq_3 _ _ _ (fun _ _ same => absurd same plain)
      (fun same => absurd same plain), if_pos second_, read]
    rfl
  | @underscore first _ _ digit_ more ih =>
    -- The underscore is dropped, since a digit stands behind it as well.
    obtain ⟨second, digits', text', rfl, rfl, second_, read⟩ := ih
    refine ⟨first, _, _, rfl, rfl, digit_, ?_⟩
    rw [List.cons_append, List.cons_append, moreDigits.eq_1, if_pos second_, read]
    rfl

/-- Digits with underscores between them are read without these. -/
theorem Grouped.read (grouped : Grouped base digits text) (stops : Stops base rest) :
    Toml.digits base (text ++ rest) = some (digits, rest) := by
  obtain ⟨first, digits', text', rfl, rfl, digit, read⟩ := grouped.more stops
  rw [List.cons_append, Toml.digits, if_pos digit, read]
  rfl

/-- A group of digits starts with a digit. -/
theorem Grouped.opens (grouped : Grouped base digits text) :
    ∃ first more, text = first :: more ∧ digits.head? = some first ∧ isDigitOf base first = true := by
  cases grouped with
  | single digit_ => exact ⟨_, _, rfl, rfl, digit_⟩
  | digit digit_ _ => exact ⟨_, _, rfl, rfl, digit_⟩
  | underscore digit_ _ => exact ⟨_, _, rfl, rfl, digit_⟩

/-- Digits that are no date and no time do not end at a hyphen or a colon. -/
theorem Grouped.dropDigits (grouped : Grouped 10 digits text) (stops : Stops 10 rest) :
    ∀ char ∈ ((text ++ rest).dropWhile Char.isDigit).head?, char ∉ ['-', ':'] := by
  -- Behind the digits, nothing that stops them is one of the two signs.
  have behind : ∀ char ∈ (rest.dropWhile Char.isDigit).head?, char ∉ ['-', ':'] := by
    rcases rest with _ | ⟨char, rest⟩
    · exact nofun
    · have ⟨other, listed⟩ := stops char rfl
      rw [isDigitOf_ten] at other
      rw [List.dropWhile_cons_of_neg (by simp [other])]
      simp only [List.mem_cons, List.not_mem_nil, or_false, not_or] at listed
      simp [listed.2.1, listed.2.2.1]
  -- Digits are dropped up to the end of them, or up to an underscore, which is neither sign.
  induction grouped with
  | single digit_ => simpa [← isDigitOf_ten, digit_] using behind
  | digit digit_ _ ih => simpa [← isDigitOf_ten, digit_] using ih
  | underscore digit_ _ ih =>
    rw [List.cons_append, List.dropWhile_cons_of_pos (isDigitOf_ten _ ▸ digit_)]
    simp [Char.isDigit]

/-- A zero at the head of a decimal integer is the whole integer. -/
theorem WholeForm.zero (whole : WholeForm digits text) (head : digits.head? = some '0') :
    digits = ['0'] ∧ text = ['0'] := by
  -- Digits that are a single one are written as a single one.
  have single := whole.leading head
  have alone := whole.grouped
  rw [single] at alone
  cases alone with
  | single _ => exact ⟨single, rfl⟩
  | digit _ more => cases more
  | underscore _ more => cases more

/-- The digits of a decimal integer are read to their end. -/
theorem WholeForm.read (whole : WholeForm digits text) (stops : Stops 10 rest) :
    wholeDigits (text ++ rest) = some (digits, rest) := by
  -- A leading zero stands alone; all other digits are read as a group of them.
  obtain ⟨first, more, same, head, digit⟩ := whole.grouped.opens
  by_cases zero : first = '0'
  · subst zero
    obtain ⟨rfl, rfl⟩ := whole.zero head
    rfl
  · have read := whole.grouped.read stops
    rw [same, List.cons_append] at read ⊢
    rw [wholeDigits, read]
    exact fun _ head => zero (List.cons.inj head).1

end Digits

section Numbers

variable {base : Nat} {digits text rest sign : List Char} {exponent : Int}

theorem exponentPart_unsigned {first : Char} (plus : first ≠ '+') (minus : first ≠ '-') :
    exponentPart (first :: text) = (Toml.digits 10 (first :: text)).map fun (chars, rest) =>
      ((numeralValue 10 chars : Int), rest) := by
  rw [exponentPart]
  · rfl
  · exact fun _ same => plus (List.cons.inj same).1
  · exact fun _ same => minus (List.cons.inj same).1

/-- An exponent is read behind its letter. -/
theorem PowerForm.read (power : PowerForm exponent text) (stops : Stops 10 rest) :
    ∃ letter more, text = letter :: more ∧ (letter = 'e' ∨ letter = 'E') ∧
      exponentPart (more ++ rest) = some (exponent, rest) := by
  cases power with
  | @up digits sign text letter letter_ signed grouped =>
    refine ⟨letter, sign ++ text, rfl, letter_, ?_⟩
    have read := grouped.read stops
    -- Without a sign the first character is a digit, so it is not mistaken for one.
    rcases signed with rfl | rfl
    · obtain ⟨first, more, rfl, -, digit⟩ := grouped.opens
      have unsigned : first ≠ '+' ∧ first ≠ '-' := by
        constructor <;> rintro rfl <;> exact absurd digit (by decide)
      rw [List.cons_append] at read
      rw [List.nil_append, List.cons_append, exponentPart_unsigned unsigned.1 unsigned.2, read]
      rfl
    · rw [List.append_assoc, List.singleton_append, exponentPart]
      simp only [read]
      rfl
  | @down digits text letter letter_ grouped =>
    refine ⟨letter, '-' :: text, rfl, letter_, ?_⟩
    -- The minus is met first, and the digits behind it are those of the exponent.
    rw [List.cons_append, exponentPart]
    simp only [grouped.read stops]
    rfl

/-- What follows the digits of a decimal number: places, an exponent, both or neither. -/
def afterWhole (negative : Bool) (whole : List Char) : Reader Value
  | '.' :: rest => do
    let (places, rest) ← Toml.digits 10 rest
    let (exponent, rest) ← exponent? rest
    some (← fractionOf negative (whole ++ places) (exponent - places.length), rest)
  | 'e' :: rest => do
    let (exponent, rest) ← exponentPart rest
    some (← fractionOf negative whole exponent, rest)
  | 'E' :: rest => do
    let (exponent, rest) ← exponentPart rest
    some (← fractionOf negative whole exponent, rest)
  | rest => do
    let value : Int := numeralValue 10 whole
    some (← integerOf (if negative then -value else value), rest)

theorem unsignedNumber_whole (negative : Bool) (whole : WholeForm digits text) (stops : Stops 10 rest) :
    unsignedNumber negative (text ++ rest) = afterWhole negative digits rest := by
  -- A digit is the head of no word, so the two special floats are out of the question.
  have read := whole.read stops
  obtain ⟨first, more, rfl, -, digit⟩ := whole.grouped.opens
  rw [List.cons_append] at read ⊢
  rw [unsignedNumber.eq_def]
  split
  · next same => rw [(List.cons.inj same).1] at digit; exact absurd digit (by decide)
  · next same => rw [(List.cons.inj same).1] at digit; exact absurd digit (by decide)
  · rw [read]
    rfl

theorem fixedDigits_cons {count : Nat} {char : Char} (other : char.isDigit = false) :
    fixedDigits (count + 1) (char :: text) = none := by
  rw [fixedDigits, List.take_succ_cons]
  simp [other]

/-- What starts with no digit is no date and no time. -/
theorem dateOrNumber_cons {char : Char} (other : char.isDigit = false) :
    dateOrNumber (char :: text) = number (char :: text) := by
  simp [dateOrNumber, startsDate, startsTime, fixedDigits_cons other]

/-- The character behind digits of a fixed count is the one behind all digits. -/
theorem fixedDigits_expect {count : Nat} {char : Char} (other : char.isDigit = false)
    (starts : ((fixedDigits count text).bind fun (_, rest) => expect char rest).isSome = true) :
    char ∈ (text.dropWhile Char.isDigit).head? := by
  -- If as many characters are digits, what is expected behind them is the first that is none.
  rw [fixedDigits] at starts
  split_ifs at starts with fixed
  · simp only [Bool.and_eq_true, decide_eq_true_eq, List.all_eq_true] at fixed
    rw [← List.take_append_drop count text, List.dropWhile_append_of_pos fixed.2]
    simp only [Option.bind_some] at starts
    rcases left : text.drop count with _ | ⟨first, rest⟩
    · simp [left, expect] at starts
    · -- What is left behind the digits starts with the expected character.
      rw [left, expect] at starts
      split_ifs at starts with same
      · subst same
        rw [List.dropWhile_cons_of_neg (by simp [other])]
        rfl
      · simp at starts
  · simp at starts

/-- What has neither a hyphen nor a colon behind its digits is no date and no time. -/
theorem dateOrNumber_digits (behind : ∀ char ∈ (text.dropWhile Char.isDigit).head?, char ∉ ['-', ':']) :
    dateOrNumber text = number text := by
  -- A date would have a hyphen behind its digits, and a time a colon.
  have date : startsDate text = false := by
    refine Bool.eq_false_iff.2 fun starts => ?_
    exact behind '-' (fixedDigits_expect (by decide) starts) (by decide)
  have time : startsTime text = false := by
    refine Bool.eq_false_iff.2 fun starts => ?_
    exact behind ':' (fixedDigits_expect (by decide) starts) (by decide)
  rw [dateOrNumber, date, time]
  rfl

/-- Numbers without a sign are told from dates and times, and from integers in other bases. -/
theorem WholeForm.plain (whole : WholeForm digits text) (stops : Stops 10 rest) :
    dateOrNumber (text ++ rest) = unsignedNumber false (text ++ rest) := by
  rw [dateOrNumber_digits (whole.grouped.dropDigits stops)]
  have based : ∀ letter more, letter ∈ ['x', 'o', 'b'] → text ++ rest ≠ '0' :: letter :: more := by
    -- The letter of a base would have to follow a zero, and nothing that stops digits is one.
    intro letter more listed same
    obtain ⟨first, text', rfl, head, -⟩ := whole.grouped.opens
    rw [List.cons_append] at same
    obtain ⟨rfl, behind⟩ := List.cons.inj same
    obtain ⟨-, alone⟩ := whole.zero head
    rw [(List.cons.inj alone).2, List.nil_append] at behind
    have other := (stops letter (by rw [behind]; rfl)).2
    simp only [List.mem_cons, List.not_mem_nil, or_false, not_or] at listed other
    tauto
  obtain ⟨first, text', rfl, -, digit⟩ := whole.grouped.opens
  rw [List.cons_append] at based ⊢
  -- Neither a word nor a base starts so, and what remains is the reader of plain numbers.
  rw [number.eq_def]
  split
  · next same => rw [(List.cons.inj same).1] at digit; exact absurd digit (by decide)
  · next same => rw [(List.cons.inj same).1] at digit; exact absurd digit (by decide)
  · next same => exact absurd same (based _ _ (by simp))
  · next same => exact absurd same (based _ _ (by simp))
  · next same => exact absurd same (based _ _ (by simp))
  · rfl

/-- A sign is taken off before the number is read. -/
theorem dateOrNumber_signed (signed : Sign sign)
    (plain : dateOrNumber text = unsignedNumber false text) :
    dateOrNumber (sign ++ text) = unsignedNumber (sign == ['-']) text := by
  rcases signed with rfl | rfl | rfl
  · exact plain
  · exact dateOrNumber_cons (by decide)
  · exact dateOrNumber_cons (by decide)

/-- A decimal number is read from its digits on. -/
theorem WholeForm.number (whole : WholeForm digits text) (signed : Sign sign) (stops : Stops 10 rest) :
    dateOrNumber (sign ++ (text ++ rest)) = afterWhole (sign == ['-']) digits rest :=
  (dateOrNumber_signed signed (whole.plain stops)).trans (unsignedNumber_whole _ whole stops)

/-- A float that keeps to the limits has a value. -/
theorem fractionOf_some (fits : ¬ Overflows sign digits exponent) :
    ∃ fraction, fractionOf (sign == ['-']) digits exponent = some fraction := by
  -- Only a positive number that rounds to infinity has no value.
  rw [fractionOf]
  rcases magnitude : Binary64.ofDecimal (numeralValue 10 digits) exponent with _ | value
  · have minus : sign = ['-'] := by
      by_contra other
      exact fits ⟨other, magnitude⟩
    exact ⟨_, if_pos (by rw [minus]; rfl)⟩
  · exact ⟨_, rfl⟩

theorem integerOf_some {value : Int} (fits : -2 ^ 63 ≤ value ∧ value < 2 ^ 63) :
    integerOf value = some (.integer value) := by
  have low : IntegerRange.integer64.least = -2 ^ 63 := by decide
  have high : IntegerRange.integer64.greatest = 2 ^ 63 - 1 := by decide
  rw [integerOf, if_pos]
  rw [IntegerRange.holds, low, high, Bool.and_eq_true, decide_eq_true_eq, decide_eq_true_eq]
  exact ⟨fits.1, Int.le_sub_one_of_lt fits.2⟩

theorem exponent?_letter {letter : Char} (letter_ : letter = 'e' ∨ letter = 'E') :
    exponent? (letter :: text) = exponentPart text := by
  rcases letter_ with rfl | rfl <;> rfl

/-- Nothing that ends a value is the letter of an exponent or a point. -/
theorem Ends.other (ends : Ends rest) {letter : Char} (other : letter ∈ ['e', 'E', '.']) :
    ∀ more, rest ≠ letter :: more := by
  rintro more rfl
  have each : ∀ char ∈ ' ' :: '\t' :: followers, char ∉ ['e', 'E', '.'] := by decide
  exact ends.head each letter rfl other

theorem exponent?_ends (ends : Ends rest) : exponent? rest = some (0, rest) := by
  rw [exponent?.eq_def]
  split
  · exact absurd rfl (ends.other (by simp) _)
  · exact absurd rfl (ends.other (by simp) _)
  · rfl

theorem afterWhole_letter {negative : Bool} {letter : Char} (letter_ : letter = 'e' ∨ letter = 'E') :
    afterWhole negative digits (letter :: text) = (exponentPart text).bind fun (exponent, rest) =>
      (fractionOf negative digits exponent).bind fun fraction => some (fraction, rest) := by
  rcases letter_ with rfl | rfl <;> rfl

theorem afterWhole_ends {negative : Bool} (ends : Ends rest) : afterWhole negative digits rest =
    (integerOf (if negative then -numeralValue 10 digits else numeralValue 10 digits)).map (·, rest) := by
  -- Neither a point nor a letter of an exponent stands behind the digits.
  rw [afterWhole.eq_def]
  split
  · exact absurd rfl (ends.other (by simp) _)
  · exact absurd rfl (ends.other (by simp) _)
  · exact absurd rfl (ends.other (by simp) _)
  · simp only [bind, Option.bind]
    cases integerOf _ <;> rfl

/-- A float is read to its end. -/
theorem FloatText.read (float : FloatText True text) (ends : Ends rest) :
    ∃ value, dateOrNumber (text ++ rest) = some (value, rest) := by
  -- One case for each way to write a float: with places, with both, with an exponent, or as a word.
  cases float with
  | @places sign whole places text placesText signed whole_ places_ fits =>
    obtain ⟨fraction, same⟩ := fractionOf_some (fits trivial)
    refine ⟨fraction, ?_⟩
    simp only [List.append_assoc, List.cons_append]
    rw [whole_.number signed .point, afterWhole, places_.read (ends.stops 10)]
    simp [bind, Option.bind, exponent?_ends ends, same]
  | @placesPower sign whole places text placesText power exponent signed whole_ places_ power_ fits =>
    obtain ⟨fraction, same⟩ := fractionOf_some (fits trivial)
    obtain ⟨letter, more, rfl, letter_, read⟩ := power_.read (ends.stops 10)
    refine ⟨fraction, ?_⟩
    simp only [List.append_assoc, List.cons_append]
    rw [whole_.number signed .point, afterWhole, places_.read (.power letter_)]
    simp [bind, Option.bind, exponent?_letter letter_, read, same]
  -- Without places the letter stands right behind the whole part.
  | @power sign whole text power exponent signed whole_ power_ fits =>
    obtain ⟨fraction, same⟩ := fractionOf_some (fits trivial)
    obtain ⟨letter, more, rfl, letter_, read⟩ := power_.read (ends.stops 10)
    refine ⟨fraction, ?_⟩
    simp only [List.append_assoc, List.cons_append]
    rw [whole_.number signed (.power letter_), afterWhole_letter letter_, read]
    simp only [Option.bind, same]
  | @special sign text signed listed =>
    rw [List.append_assoc]
    rcases listed with rfl | rfl
    · exact ⟨_, (dateOrNumber_signed signed (dateOrNumber_cons (by decide))).trans rfl⟩
    · exact ⟨_, (dateOrNumber_signed signed (dateOrNumber_cons (by decide))).trans rfl⟩

/-- An integer of sixty-four bits is read back. -/
theorem IntegerForm.read {value : Int} (form : IntegerForm value text)
    (fits : -2 ^ 63 ≤ value ∧ value < 2 ^ 63) (ends : Ends rest) :
    dateOrNumber (text ++ rest) = some (.integer value, rest) := by
  cases form with
  | @natural digits sign text signed whole =>
    -- No sign and a plus mean the same.
    have plus : (sign == ['-']) = false := by
      rcases signed with rfl | rfl <;> rfl
    rw [List.append_assoc, whole.number (signed.imp_right .inl) (ends.stops 10), afterWhole_ends ends, plus,
      if_neg Bool.false_ne_true, integerOf_some fits]
    rfl
  | @negative digits text whole =>
    have read : dateOrNumber (['-'] ++ (text ++ rest)) = _ := whole.number (.inr (.inr rfl)) (ends.stops 10)
    rw [List.cons_append, ← List.singleton_append, read, afterWhole_ends ends, if_pos (by rfl),
      integerOf_some fits]
    rfl
  -- A letter behind the zero tells the base, and by it the number from a date and from a time.
  | @based letter base digits text listed grouped =>
    have each : ∀ entry ∈ bases, entry.1.isDigit = false ∧ entry.1 ∉ ['-', ':'] ∧ ∀ text,
        number ('0' :: entry.1 :: text) = basedInteger entry.2 text := by
      simp only [bases, List.forall_mem_cons]
      exact ⟨⟨by decide, by decide, fun _ => rfl⟩, ⟨by decide, by decide, fun _ => rfl⟩,
        ⟨by decide, by decide, fun _ => rfl⟩, nofun⟩
    obtain ⟨other, behind, read⟩ := each _ listed
    have numbered : dateOrNumber ('0' :: letter :: (text ++ rest)) =
        number ('0' :: letter :: (text ++ rest)) := by
      refine dateOrNumber_digits ?_
      rw [List.dropWhile_cons_of_pos (by decide), List.dropWhile_cons_of_neg (by simp [other])]
      simpa using behind
    rw [List.cons_append, List.cons_append, numbered, read, basedInteger, grouped.read (ends.stops base)]
    simp [bind, Option.bind, integerOf_some fits]

end Numbers

end InsightRelay.Toml
