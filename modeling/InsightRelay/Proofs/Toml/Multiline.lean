import InsightRelay.Proofs.Toml.Text

/-! Strings of many lines passed over, and strings of all kinds read to their end. -/

namespace InsightRelay.Toml

section Multiline

/-- A string of many lines is passed over when its inside can be read, whatever it stands for. -/
def Passes (quote : Char) (escapes : Bool) (text rest : List Char) : Prop :=
  ∃ chars, multilineBody quote escapes text = some (chars, rest)

variable {quote char : Char} {escapes : Bool} {gap newline text rest : List Char}

/-- What stands for some characters is followed by more. -/
theorem Passes.go {before : List Char} (chars : List Char) (shorter : text.length < before.length)
    (passes : Passes quote escapes text rest)
    (step : multilineBody quote escapes before =
      if text.length < before.length then
        (multilineBody quote escapes text).map fun (more, rest) => (chars ++ more, rest)
      else none) : Passes quote escapes before rest := by
  obtain ⟨more, read⟩ := passes
  exact ⟨chars ++ more, by rw [step, if_pos shorter, read]; rfl⟩

theorem Passes.line (newline_ : Newline newline) (passes : Passes quote escapes text rest) :
    Passes quote escapes (newline ++ text) rest := by
  -- Either line end is read as a line feed.
  have some : 0 < newline.length := by
    rcases newline_ with rfl | rfl <;> decide
  have shorter : text.length < (newline ++ text).length := by
    rw [List.length_append]
    omega
  refine passes.go ['\n'] shorter ?_
  rcases newline_ with rfl | rfl
  · exact multilineBody.eq_2 quote escapes text
  · exact multilineBody.eq_3 quote escapes text

theorem Passes.raw (printable : Printable char) (unquoted : char ≠ quote)
    (unescaped : escapes = true → char ≠ '\\') (passes : Passes quote escapes text rest) :
    Passes quote escapes (char :: text) rest := by
  -- The character is no line end, no quote and no backslash, so it stands for itself.
  have plain : (escapes && char == '\\') = false := by
    cases escapes
    · rfl
    · simpa using unescaped rfl
  refine passes.go [char] (by simp) ?_
  rw [multilineBody.eq_4 _ _ _ _ printable.ne_newline.1 fun _ same => absurd same printable.ne_newline.2,
    if_neg (by simpa using unquoted), plain, if_neg (by simp), if_pos printable.isCommentChar]
  rfl

/-- An escape starts with a character that ends no line. -/
theorem EscapeForm.continuedLine? {written : List Char} (escape : EscapeForm char written) :
    continuedLine? (written ++ text) = none := by
  -- Neither a gap nor a line end starts with any of the letters of escapes.
  have solid : ∀ first ∈ 'u' :: 'U' :: letterEscapes.map Prod.fst, ∀ text,
      Toml.continuedLine? (first :: text) = none := by
    simp [letterEscapes, Toml.continuedLine?, skipGap, isGap, newline?]
  cases escape with
  | letter listed => exact solid _ (by simp [List.mem_map_of_mem listed]) _
  | short _ => exact solid _ (by simp) _
  | long _ => exact solid _ (by simp) _

/-- A backslash is not mistaken for a quote. -/
theorem multilineBody_backslash (text : List Char) (unquoted : quote ≠ '\\') :
    multilineBody quote true ('\\' :: text) = match continuedLine? text with
      | some rest =>
        if rest.length < ('\\' :: text).length then
          (multilineBody quote true rest).map fun (more, rest) => ([] ++ more, rest)
        else none
      | none => (escape text).bind fun (char, width) =>
        if (text.drop width).length < ('\\' :: text).length then
          (multilineBody quote true (text.drop width)).map fun (more, rest) => ([char] ++ more, rest)
        else none := by
  -- A backslash ends no line and is no quote, so it is looked at as the head of an escape.
  rw [multilineBody.eq_4 _ _ _ _ (by decide) fun _ same => absurd same (by decide),
    if_neg (by simpa using unquoted.symm), if_pos (by simp)]
  rfl

theorem Passes.escape {written : List Char} (unquoted : quote ≠ '\\') (escape : EscapeForm char written)
    (passes : Passes quote true text rest) : Passes quote true ('\\' :: (written ++ text)) rest := by
  have shorter : text.length < ('\\' :: (written ++ text)).length := by
    rw [List.length_cons, List.length_append]
    omega
  refine passes.go [char] shorter ?_
  rw [multilineBody_backslash _ unquoted, escape.continuedLine?, escape.read]
  simp only [Option.bind, List.drop_left]

theorem skipBlankLines_length (text : List Char) :
    (continuedLine?.skipBlankLines text).length ≤ text.length := by
  fun_induction continuedLine?.skipBlankLines text <;> simp <;> omega

theorem Passes.goesOn (unquoted : quote ≠ '\\') (gapped : Gap gap) (newline_ : Newline newline)
    (passes : Passes quote true (continuedLine?.skipBlankLines text) rest) :
    Passes quote true ('\\' :: (gap ++ (newline ++ text))) rest := by
  -- The backslash adds nothing; the gap, the line end and the blank lines behind it are passed over.
  have shorter := skipBlankLines_length text
  have solid : skipGap (newline ++ text) = newline ++ text := by
    rcases newline_ with rfl | rfl <;> rfl
  refine passes.go [] (by simp; omega) ?_
  rw [multilineBody_backslash _ unquoted, continuedLine?, gapped.skip, solid, newline?_newline newline_]
  rfl

/-- A run of quotes ends where the text goes on with something else. -/
theorem quoteRun_replicate (count : Nat) (differs : text.head? ≠ some quote) :
    quoteRun quote (List.replicate count quote ++ text) = count := by
  have alike : ∀ char ∈ List.replicate count quote, (char == quote) = true := by simp
  have stops : ∀ char ∈ text.head?, (char == quote) = false := by
    rintro char head
    exact beq_eq_false_iff_ne.2 fun same => differs (same ▸ head)
  rw [quoteRun, (run_apart alike stops).1, List.length_replicate]

/-- Up to two quotes belong to the string, and three of up to five quotes close it. -/
theorem multilineBody_quotes {count : Nat} (quote_ : IsQuote quote)
    (differs : text.head? ≠ some quote) :
    multilineBody quote escapes (List.replicate (count + 1) quote ++ text) =
      if count + 1 < 3 then
        if text.length < (List.replicate (count + 1) quote ++ text).length then
          (multilineBody quote escapes text).map fun (more, rest) =>
            (List.replicate (count + 1) quote ++ more, rest)
        else none
      else if count + 1 < 6 then some (List.replicate (count + 1 - 3) quote, text) else none := by
  -- All quotes of the run are counted at once, and the count decides.
  have run := quoteRun_replicate (count + 1) differs
  have left : (List.replicate (count + 1) quote ++ text).drop (count + 1) = text :=
    List.drop_left' List.length_replicate
  rw [List.replicate_succ, List.cons_append] at run left ⊢
  have ⟨_, feed, return_, _⟩ := quote_.solid
  rw [multilineBody.eq_4 _ _ _ _ feed fun _ same => absurd same return_, if_pos (by simp)]
  simp only [run, left, dite_eq_ite, List.replicate_succ, List.cons_append]

theorem Passes.quotes {count : Nat} (quote_ : IsQuote quote) (few : count = 1 ∨ count = 2)
    (differs : text.head? ≠ some quote) (passes : Passes quote escapes text rest) :
    Passes quote escapes (List.replicate count quote ++ text) rest := by
  obtain ⟨less, rfl⟩ : ∃ less, count = less + 1 := ⟨count - 1, by omega⟩
  refine passes.go (List.replicate (less + 1) quote) (by simp) ?_
  rw [multilineBody_quotes quote_ differs, if_pos (by omega)]

theorem Passes.close (count : Nat) (quote_ : IsQuote quote) (few : count ≤ 2)
    (differs : rest.head? ≠ some quote) :
    Passes quote escapes (List.replicate count quote ++ (List.replicate 3 quote ++ rest)) rest := by
  refine ⟨List.replicate count quote, ?_⟩
  rw [← List.append_assoc, List.replicate_append_replicate, multilineBody_quotes quote_ differs,
    if_neg (by omega), if_pos (by omega)]
  rfl

variable {quoted : Bool} {first body part : List Char}

/-- No part of a string of many lines starts with a quote. -/
theorem LinePart.differs (quote_ : IsQuote quote) (part_ : LinePart quote escapes part) :
    (part ++ text).head? ≠ some quote := by
  have ⟨_, feed, return_, backslash⟩ := quote_.solid
  cases part_ with
  | raw printable unquoted unescaped => simpa using unquoted
  | newline newline_ => rcases newline_ with rfl | rfl <;> simp [feed.symm, return_.symm]
  | escape escapes_ escape => simp [backslash.symm]
  | goesOn escapes_ gapped newline_ => simp [backslash.symm]

/-- What follows a run of quotes inside a string starts with no quote. -/
theorem LinesBody.differs (quote_ : IsQuote quote) (body_ : LinesBody quote escapes true body)
    (text : List Char) :
    body = [] ∨ (body ++ text).head? ≠ some quote := by
  cases body_ with
  | nil => exact .inl rfl
  | part part_ more => exact .inr (by rw [List.append_assoc]; exact part_.differs quote_)

theorem skipBlankLines_cons (solid : isGap char = false) (feed : char ≠ '\n') (return_ : char ≠ '\r') :
    continuedLine?.skipBlankLines (char :: text) = char :: text := by
  rw [continuedLine?.skipBlankLines.eq_3 _ _ feed fun _ same => absurd same return_, solid]
  rfl

theorem skipFirstNewline_cons (feed : char ≠ '\n') (return_ : char ≠ '\r') :
    skipFirstNewline (char :: text) = char :: text := by
  rw [skipFirstNewline, newline?.eq_def]
  split <;> simp_all

/-- The inside of a string of many lines is passed over, also when blanks at its head have been skipped. -/
theorem LinesBody.passes (quote_ : IsQuote quote)
    (body_ : LinesBody quote escapes quoted body) (ends : rest.head? ≠ some quote) :
    Passes quote escapes (body ++ (List.replicate 3 quote ++ rest)) rest ∧
      Passes quote escapes (continuedLine?.skipBlankLines (body ++ (List.replicate 3 quote ++ rest)))
        rest := by
  have ⟨solid, feed, return_, backslash⟩ := quote_.solid
  -- Where nothing blank stands at the head, both are the same.
  have both : ∀ {char text}, isGap char = false → char ≠ '\n' → char ≠ '\r' →
      Passes quote escapes (char :: text) rest → Passes quote escapes (char :: text) rest ∧
        Passes quote escapes (continuedLine?.skipBlankLines (char :: text)) rest := by
    intro char text solid feed return_ passes
    exact ⟨passes, by rwa [skipBlankLines_cons solid feed return_]⟩
  induction body_ with
  | nil => exact both solid feed return_ (.close 0 quote_ (by omega) ends)
  | @part quoted part more part_ more_ ih =>
    rw [List.append_assoc]
    cases part_ with
    | @raw char printable unquoted unescaped =>
      have passes := ih.1.raw printable unquoted unescaped
      by_cases blank : isGap char = true
      · refine ⟨passes, ?_⟩
        -- A blank belongs to the string, unless a line that goes on has swallowed it.
        rw [List.singleton_append, continuedLine?.skipBlankLines.eq_3 _ _ printable.ne_newline.1
          fun _ same => absurd same printable.ne_newline.2, if_pos blank]
        exact ih.2
      · exact both (Bool.eq_false_iff.2 blank) printable.ne_newline.1 printable.ne_newline.2 passes
    | newline newline_ =>
      refine ⟨ih.1.line newline_, ?_⟩
      rcases newline_ with rfl | rfl
      · exact ih.2
      · exact ih.2
    | escape escapes_ escape =>
      subst escapes_
      exact both (by decide) (by decide) (by decide) (ih.1.escape backslash escape)
    | goesOn escapes_ gapped newline_ =>
      subst escapes_
      rw [List.cons_append, List.append_assoc]
      exact both (by decide) (by decide) (by decide) (ih.2.goesOn backslash gapped newline_)
  | @quotes count more few more_ ih =>
    have passes : Passes quote escapes
        (List.replicate count quote ++ (more ++ (List.replicate 3 quote ++ rest))) rest := by
      -- Quotes at the end of the inside stand before the three that close it, and all others before
      -- something that is no quote.
      rcases more_.differs quote_ (List.replicate 3 quote ++ rest) with rfl | differs
      · exact .close count quote_ (by omega) ends
      · exact ih.1.quotes quote_ few differs
    rw [List.append_assoc]
    -- There is at least one quote, and that is not blank.
    obtain ⟨less, rfl⟩ : ∃ less, count = less + 1 := ⟨count - 1, by omega⟩
    exact both solid feed return_ passes

/-- A line end behind the opening quotes is not missed. -/
theorem LinesBody.passes_first (quote_ : IsQuote quote)
    (body_ : LinesBody quote escapes quoted body) (ends : rest.head? ≠ some quote) :
    Passes quote escapes (skipFirstNewline (body ++ (List.replicate 3 quote ++ rest))) rest := by
  -- Only a body that starts with a line end loses anything when a first line end is skipped.
  have ⟨_, feed, return_, _⟩ := quote_.solid
  have passes := (body_.passes quote_ ends).1
  cases body_ with
  | nil => rwa [List.nil_append, List.replicate_succ, List.cons_append, skipFirstNewline_cons feed return_]
  | part part_ more_ =>
    rw [List.append_assoc] at passes ⊢
    cases part_ with
    | raw printable unquoted unescaped =>
      rwa [List.singleton_append, skipFirstNewline_cons printable.ne_newline.1 printable.ne_newline.2]
    | newline newline_ =>
      rw [skipFirstNewline, newline?_newline newline_]
      exact (more_.passes quote_ ends).1
    | escape escapes_ escape => rwa [List.cons_append, skipFirstNewline_cons (by decide) (by decide)]
    | goesOn escapes_ gapped newline_ =>
      rwa [List.cons_append, skipFirstNewline_cons (by decide) (by decide)]
  -- The body may also start with quotes, but not with so many that they close it.
  | @quotes count more few more_ =>
    obtain ⟨less, rfl⟩ : ∃ less, count = less + 1 := ⟨count - 1, by omega⟩
    rw [List.append_assoc, List.replicate_succ, List.cons_append] at passes ⊢
    rwa [skipFirstNewline_cons feed return_]

/-- A string of many lines is passed over behind its opening quotes. -/
theorem LinesText.passes (quote_ : IsQuote quote) (lines : LinesText quote escapes text)
    (ends : rest.head? ≠ some quote) : ∃ inside, text ++ rest = List.replicate 3 quote ++ inside ∧
      Passes quote escapes (skipFirstNewline inside) rest := by
  -- A line end right behind the opening quotes is skipped, and the body is passed over either way.
  obtain ⟨first, body, start, body_, rfl⟩ := lines
  refine ⟨first ++ (body ++ (List.replicate 3 quote ++ rest)), by simp, ?_⟩
  rcases start with rfl | newline_
  · exact body_.passes_first quote_ ends
  · rw [skipFirstNewline, newline?_newline newline_]
    exact (body_.passes quote_ ends).1

end Multiline

section Strings

variable {value : String} {text rest : List Char}

theorem string_basic (single : ∀ more, text ≠ '"' :: '"' :: more) :
    string ('"' :: text) = basicBody text := by
  -- Three quotes would open a string of many lines, and this one has another character behind the first
  -- or behind the second.
  rw [string.eq_def]
  split
  · next same => exact absurd (List.cons.inj same).2 (single _)
  · next same => rw [← (List.cons.inj same).2]
  · simp_all
  · simp_all
  · simp_all

theorem string_literal (single : ∀ more, text ≠ '\'' :: '\'' :: more) :
    string ('\'' :: text) = literalBody text := by
  -- The same as for basic strings, with the other quote.
  rw [string.eq_def]
  split
  · simp_all
  · simp_all
  · next same => exact absurd (List.cons.inj same).2 (single _)
  · next same => rw [← (List.cons.inj same).2]
  · simp_all

/-- A basic string is not mistaken for one of many lines. -/
theorem BasicForm.string (form : BasicForm value text) (ends : rest.head? ≠ some '"') :
    string (text ++ rest) = some (value.toList, rest) := by
  -- A body that is empty is closed by the second quote, and no third one follows.
  obtain ⟨body, chars, rfl⟩ := form
  have single : ∀ more, body ++ '"' :: rest ≠ '"' :: '"' :: more := by
    intro more same
    rcases body with _ | ⟨first, body⟩
    · exact ends (congrArg List.head? (List.cons.inj same).2)
    · exact chars.unquoted (congrArg some (List.cons.inj same).1)
  have whole : '"' :: body ++ ['"'] ++ rest = '"' :: (body ++ '"' :: rest) := by simp
  rw [whole, string_basic single, chars.read]

/-- A literal string is not mistaken for one of many lines. -/
theorem LiteralForm.string (form : LiteralForm value text) (ends : rest.head? ≠ some '\'') :
    string (text ++ rest) = some (value.toList, rest) := by
  -- A body that is empty is closed by the second quote, and no third one follows.
  obtain ⟨plain, rfl⟩ := form
  have single : ∀ more, value.toList ++ '\'' :: rest ≠ '\'' :: '\'' :: more := by
    intro more same
    rcases chars : value.toList with _ | ⟨first, body⟩
    · rw [chars] at same
      exact ends (congrArg List.head? (List.cons.inj same).2)
    · rw [chars] at same plain
      exact (plain first List.mem_cons_self).2 (List.cons.inj same).1
  have whole : '\'' :: value.toList ++ ['\''] ++ rest = '\'' :: (value.toList ++ '\'' :: rest) := by simp
  rw [whole, string_literal single, literalBody_quote plain]

/-- A string of any kind is read whole. -/
theorem StringText.read (string_ : StringText text) (ends : ∀ char ∈ rest.head?, char ∉ ['"', '\'']) :
    ∃ chars, Toml.string (text ++ rest) = some (chars, rest) := by
  -- One case for each of the four kinds of strings.
  have double : rest.head? ≠ some '"' := fun same => ends _ same (by simp)
  have simple : rest.head? ≠ some '\'' := fun same => ends _ same (by simp)
  cases string_ with
  | basic form => exact ⟨_, form.string double⟩
  | literal form => exact ⟨_, form.string simple⟩
  | basicLines lines =>
    -- Three quotes come first, and what they enclose is passed over with its characters.
    obtain ⟨inside, same, chars, read⟩ := lines.passes (.inl rfl) double
    exact ⟨chars, by rw [same]; exact read⟩
  | literalLines lines =>
    obtain ⟨inside, same, chars, read⟩ := lines.passes (.inr rfl) simple
    exact ⟨chars, by rw [same]; exact read⟩

/-- A string starts with a quote. -/
theorem StringText.opens (string_ : StringText text) :
    ∃ quote more, IsQuote quote ∧ text = quote :: more := by
  cases string_ with
  | basic form => obtain ⟨body, -, rfl⟩ := form; exact ⟨'"', _, .inl rfl, rfl⟩
  | literal form => obtain ⟨-, rfl⟩ := form; exact ⟨'\'', _, .inr rfl, rfl⟩
  | basicLines lines => obtain ⟨first, body, -, -, rfl⟩ := lines; exact ⟨'"', _, .inl rfl, rfl⟩
  | literalLines lines => obtain ⟨first, body, -, -, rfl⟩ := lines; exact ⟨'\'', _, .inr rfl, rfl⟩

end Strings

end InsightRelay.Toml
