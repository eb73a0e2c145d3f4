import InsightRelay.Proofs.Json.Form
import InsightRelay.Json.Text

/-! Strings read back from every text that they may be written as, and strings that are passed over. -/

namespace InsightRelay.Json

section Gaps

variable {gap more text : List Char}

theorem Gap.nil : Gap [] := fun _ member => absurd member List.not_mem_nil

theorem Gap.append (gapped : Gap gap) (more_ : Gap more) : Gap (gap ++ more) := fun char member =>
  (List.mem_append.1 member).elim (gapped char) (more_ char)

theorem Gap.isGap (gapped : Gap gap) {char : Char} (member : char ∈ gap) : isGap char = true := by
  have listed := gapped char member
  simpa [Json.isGap, or_assoc] using listed

/-- A gap is skipped whole. -/
theorem Gap.skip (gapped : Gap gap) : skipGap (gap ++ text) = skipGap text :=
  List.dropWhile_append_of_pos fun _ member => gapped.isGap member

/-- Nothing is skipped where no gap starts. -/
theorem skipGap_cons {char : Char} (solid : isGap char = false) :
    skipGap (char :: text) = char :: text := by
  simp [skipGap, solid]

/-- A mark is found behind a gap. -/
theorem afterMark_gap {mark : Char} {within : Within} {flaw : Char → Flaw}
    (solid : isGap mark = false) (gapped : Gap gap) :
    afterMark mark within flaw (gap ++ mark :: text) = .ok text := by
  rw [afterMark, gapped.skip, skipGap_cons solid]
  simp

/-- A value starts at the head of the text. -/
def Opens (text : List Char) : Prop :=
  ∃ first more, text = first :: more ∧ isGap first = false ∧ first ≠ ',' ∧ first ≠ ']'

theorem Opens.cons {first : Char} {more : List Char}
    (solid : isGap first = false ∧ first ≠ ',' ∧ first ≠ ']') : Opens (first :: more) :=
  ⟨first, more, rfl, solid⟩

theorem Opens.append (opens : Opens text) (rest : List Char) : Opens (text ++ rest) := by
  obtain ⟨first, more, rfl, solid⟩ := opens
  exact .cons solid

/-- The gap before a value ends where the value starts. -/
theorem Opens.skip (opens : Opens text) (gapped : Gap gap) : skipGap (gap ++ text) = text := by
  obtain ⟨first, more, rfl, solid, -⟩ := opens
  rw [gapped.skip, skipGap_cons solid]

end Gaps

section Escapes

variable {unit : Nat} {char letter : Char} {digits text more : List Char}

theorem IsHexDigit.digitValue? {value : Nat} {digit : Char} (written : IsHexDigit value digit) :
    digitValue? digit = some value := by
  -- Both rows have sixteen digits, each of which is looked at.
  have lower : ∀ place : Fin 16,
      InsightRelay.digitValue? ("0123456789abcdef".toList.get place) = some place.val := by decide
  have upper : ∀ place : Fin 16,
      InsightRelay.digitValue? ("0123456789ABCDEF".toList.get place) = some place.val := by decide
  rcases written with listed | listed
  all_goals
    obtain ⟨inside, rfl⟩ := List.getElem?_eq_some_iff.1 listed
  · exact lower ⟨value, inside⟩
  · exact upper ⟨value, inside⟩

theorem CodeUnit.read (written : CodeUnit unit digits) : codeUnit (digits ++ more) = .ok unit := by
  obtain ⟨first, second, third, fourth⟩ := written
  simp [codeUnit, first.digitValue?, second.digitValue?, third.digitValue?, fourth.digitValue?]

theorem CodeUnit.length (written : CodeUnit unit digits) : digits.length = 4 := by
  cases written
  rfl

theorem CodeUnit.drop (written : CodeUnit unit digits) : (digits ++ more).drop 4 = more :=
  List.drop_left' written.length

/-- No character is a surrogate. -/
theorem Char.not_surrogate (char : Char) : ¬ (0xD800 ≤ char.toNat ∧ char.toNat ≤ 0xDFFF) := by
  rcases char.valid with below | above
  · exact fun surrogate => absurd surrogate.1 (Nat.not_le.2 below)
  · exact fun surrogate => absurd surrogate.2 (Nat.not_le.2 above.1)

theorem letterEscape?_of_listed (listed : (letter, char) ∈ letterEscapes) :
    letter ≠ 'u' ∧ letterEscape? letter = some char := by
  have all : ∀ entry ∈ letterEscapes, entry.1 ≠ 'u' ∧ letterEscape? entry.1 = some entry.2 := by decide
  exact all _ listed

/-- A short escape is read as the character that it stands for. -/
theorem escape_letter (listed : (letter, char) ∈ letterEscapes) :
    escape (letter :: more) = .ok (char, 1) := by
  obtain ⟨differs, escaped⟩ := letterEscape?_of_listed listed
  rw [escape.eq_def]
  split
  · contradiction
  · simp_all
  · simp_all

/-- The escape of a code unit is read as the character that it belongs to. -/
theorem escape_unit (written : CodeUnit char.toNat digits) :
    escape ('u' :: (digits ++ more)) = .ok (char, 5) := by
  -- No character lies between the surrogates, so neither check of the reader applies.
  have plain := Char.not_surrogate char
  have notTrailing : ¬ (0xDC00 ≤ char.toNat ∧ char.toNat ≤ 0xDFFF) := by omega
  have notLeading : char.toNat < 0xD800 ∨ 0xDBFF < char.toNat := by omega
  simp only [escape, written.read, bind, Except.bind, if_neg notTrailing, if_pos notLeading,
    Char.ofNat_toNat]

/-- The escapes of a pair of surrogates are read as one character. -/
theorem escape_pair {leading trailing : Nat} {first second : List Char}
    (leading_ : CodeUnit leading first) (trailing_ : CodeUnit trailing second)
    (high : 0xD800 ≤ leading ∧ leading ≤ 0xDBFF) (low : 0xDC00 ≤ trailing ∧ trailing ≤ 0xDFFF)
    (paired : char.toNat = 0x10000 + (leading - 0xD800) * 0x400 + (trailing - 0xDC00)) :
    escape ('u' :: (first ++ '\\' :: 'u' :: (second ++ more))) = .ok (char, 11) := by
  -- The first unit is a leading surrogate, which calls for the second one.
  have notTrailing : ¬ (0xDC00 ≤ leading ∧ leading ≤ 0xDFFF) := by omega
  have surrogate : ¬ (leading < 0xD800 ∨ 0xDBFF < leading) := by omega
  have inside : ¬ (trailing < 0xDC00 ∨ 0xDFFF < trailing) := by omega
  have same : pairedChar leading trailing = char := by
    rw [pairedChar, ← paired, Char.ofNat_toNat]
  simp only [escape, leading_.read, leading_.drop, trailing_.read, bind, Except.bind,
    if_neg notTrailing, if_neg surrogate, if_neg inside, same]

end Escapes

section Reading

variable {char : Char} {chars text more rest : List Char}

theorem textBody_quote : textBody ('"' :: rest) = .ok ([], rest) := by
  simp [textBody]

/-- An escape is read as one character, and what follows it as the rest of the string. -/
theorem textBody_escape (written : List Char)
    (read : escape (written ++ more) = .ok (char, written.length))
    (body : textBody more = .ok (chars, rest)) :
    textBody ('\\' :: (written ++ more)) = .ok (char :: chars, rest) := by
  rw [textBody]
  simp [read, body, bind, Except.bind]

/-- What a character is written as is read as that character. -/
theorem CharForm.read (written : CharForm char text) (body : textBody more = .ok (chars, rest)) :
    textBody (text ++ more) = .ok (char :: chars, rest) := by
  -- Raw characters are taken as they are, and every other form is an escape of a known width.
  cases written with
  | raw printable unquoted unescaped =>
    rw [List.singleton_append, textBody]
    · simp [Nat.not_lt.2 printable, body, bind, Except.bind]
    · exact unquoted
    · exact unescaped
  | @letter letter _ listed => exact textBody_escape [letter] (escape_letter listed) body
  | @unit _ digits unit =>
    refine textBody_escape ('u' :: digits) ?_ body
    rw [List.length_cons, unit.length]
    exact escape_unit unit
  | @pair _ _ _ first second leading trailing high low paired =>
    rw [List.cons_append, List.cons_append, List.cons_append]
    refine textBody_escape ('u' :: (first ++ '\\' :: 'u' :: second)) ?_ body
    rw [List.length_cons, List.length_append, List.length_cons, List.length_cons, leading.length,
      trailing.length]
    simp only [List.cons_append, List.append_assoc]
    exact escape_pair leading trailing high low paired

/-- What characters are written as is read as those characters. -/
theorem CharsForm.read (written : CharsForm chars text) :
    textBody (text ++ '"' :: rest) = .ok (chars, rest) := by
  induction written with
  | nil => exact textBody_quote
  | cons first _ ih => rw [List.append_assoc]; exact first.read ih

/-- What a string is written as is read as that string, whatever follows it. -/
theorem TextForm.read {value : String} (written : TextForm value text) :
    ∃ tail, text = '"' :: tail ∧ ∀ rest, textBody (tail ++ rest) = .ok (value.toList, rest) := by
  obtain ⟨body, chars, rfl⟩ := written
  refine ⟨body ++ ['"'], rfl, fun rest => ?_⟩
  rw [List.append_assoc]
  exact chars.read

end Reading

section Passing

variable {text more : List Char}

/-- A part of a string that is passed over leaves what follows it. -/
theorem PassedChar.skip (passed : PassedChar text) :
    skipTextBody (text ++ more) = skipTextBody more := by
  -- Only the width of an escape matters here, so a lone surrogate is as good as any other unit.
  cases passed with
  | raw printable unquoted unescaped =>
    rw [List.singleton_append, skipTextBody]
    · exact if_neg (Nat.not_lt.2 printable)
    · exact unquoted
    · exact unescaped
  | @letter letter char listed =>
    obtain ⟨differs, escaped⟩ := letterEscape?_of_listed listed
    have width : escapeWidth (letter :: more) = .ok 1 := by
      rw [escapeWidth.eq_def]
      split
      · contradiction
      · simp_all
      · simp_all
    simp [skipTextBody, width, bind, Except.bind]
  | unit written =>
    simp [skipTextBody, escapeWidth, written.read, written.drop, Except.map, bind, Except.bind]

/-- A string that is passed over leaves what follows it. -/
theorem PassedText.skip (passed : PassedText text) :
    ∃ tail, text = '"' :: tail ∧ ∀ rest, skipTextBody (tail ++ rest) = .ok rest := by
  -- Part by part: each of them is passed over whatever follows, up to the closing quote.
  obtain ⟨parts, each, rfl⟩ := passed
  refine ⟨parts.flatten ++ ['"'], rfl, fun rest => ?_⟩
  induction parts with
  | nil => simp [skipTextBody]
  | cons part parts ih =>
    obtain ⟨first, others⟩ := List.forall_mem_cons.1 each
    rw [List.flatten_cons, List.append_assoc, List.append_assoc, first.skip, ← List.append_assoc]
    exact ih others

end Passing

section Writing

/-- Each of the sixteen digits is one of its own value. -/
theorem isHexDigit_digitChar {value : Nat} (small : value < 16) :
    IsHexDigit value (Nat.digitChar value) := by
  have all : ∀ place : Fin 16, "0123456789abcdef".toList[place.val]? = some (Nat.digitChar place) := by
    decide
  exact .inl (all ⟨value, small⟩)

/-- The writer writes each character in one of its forms. -/
theorem charForm_writeChar (char : Char) : CharForm char (writeChar char) := by
  -- The seven characters with letters of their own come first, then control characters and all others.
  unfold writeChar
  split
  · exact .letter (by decide)
  · exact .letter (by decide)
  · exact .letter (by decide)
  · exact .letter (by decide)
  · exact .letter (by decide)
  · exact .letter (by decide)
  · exact .letter (by decide)
  · next unquoted unescaped _ _ _ _ _ =>
    split
    · next small =>
      -- A control character has the digits of its code behind two zeros.
      have zero : IsHexDigit 0 '0' := isHexDigit_digitChar (by decide)
      have high : IsHexDigit _ (Nat.digitChar (char.toNat / 16)) := isHexDigit_digitChar (by omega)
      have low : IsHexDigit _ (Nat.digitChar (char.toNat % 16)) := isHexDigit_digitChar (by omega)
      refine .unit ?_
      convert CodeUnit.digits zero zero high low using 1
      omega
    · next printable => exact .raw (Nat.not_lt.1 printable) unquoted unescaped

/-- The writer writes each string in one of its forms. -/
theorem textForm_writeText (value : String) : TextForm value (writeText value.toList) := by
  refine ⟨value.toList.flatMap writeChar, ?_, rfl⟩
  induction value.toList with
  | nil => exact .nil
  | cons char chars ih => exact .cons (charForm_writeChar char) ih

end Writing

end InsightRelay.Json
