import InsightRelay.Proofs.Toml.Form
import InsightRelay.Toml.Text

/-! Keys read back from every text that they may be written as, together with the quoted strings that they
may be made of, and the gaps and comments that are passed over. -/

namespace InsightRelay.Toml

/-- Characters in a list are looked at one after the other, not as some of all characters that there are. -/
instance (priority := 2000) decidableForallMem (chars : List Char) (holds : Char → Prop)
    [DecidablePred holds] : Decidable (∀ char ∈ chars, holds char) :=
  List.decidableBAll holds chars

section Gaps

variable {char : Char} {gap comment newline filler text : List Char}

theorem Gap.nil : Gap [] := fun _ member => absurd member List.not_mem_nil

theorem Gap.append {more : List Char} (gapped : Gap gap) (more_ : Gap more) : Gap (gap ++ more) :=
  fun char member => (List.mem_append.1 member).elim (gapped char) (more_ char)

theorem isGap_of_listed (listed : char ∈ [' ', '\t']) : isGap char = true := by
  simpa [isGap] using listed

/-- A gap is skipped whole. -/
theorem Gap.skip (gapped : Gap gap) : skipGap (gap ++ text) = skipGap text :=
  List.dropWhile_append_of_pos fun char member => isGap_of_listed (gapped char member)

/-- Nothing is skipped where no gap starts. -/
theorem skipGap_cons (solid : isGap char = false) : skipGap (char :: text) = char :: text := by
  simp [skipGap, solid]

theorem newline?_newline (newline_ : Newline newline) : newline? (newline ++ text) = some text := by
  rcases newline_ with rfl | rfl <;> rfl

theorem Printable.isCommentChar (printable : Printable char) : isCommentChar char = true := by
  -- Printable characters are the ASCII ones from the space on and everything beyond ASCII.
  rcases printable with rfl | ⟨low, other⟩
  · rfl
  · have between : ' ' ≤ char ∧ char ≤ '~' ∨ 0x80 ≤ char.toNat := by
      simp only [Char.le_def, UInt32.le_iff_toNat_le]
      change 32 ≤ char.toNat ∧ char.toNat ≤ 126 ∨ 128 ≤ char.toNat
      omega
    simp only [Toml.isCommentChar, Bool.or_eq_true, Bool.and_eq_true, decide_eq_true_eq]
    exact between.elim (fun low => .inl (.inr low)) .inr

theorem Printable.ne_newline (printable : Printable char) : char ≠ '\n' ∧ char ≠ '\r' := by
  constructor <;> rintro rfl <;> exact absurd printable (by simp [Printable])

/-- A comment is skipped together with the end of its line. -/
theorem skipLines_comment (commented : ∀ char ∈ comment, Printable char) (newline_ : Newline newline) :
    skipLines true (comment ++ (newline ++ text)) = skipLines false text := by
  -- Character by character, up to the line end, behind which lines are skipped as before.
  induction comment with
  | nil => rcases newline_ with rfl | rfl <;> rfl
  | cons char comment ih =>
    have ⟨first, others⟩ := List.forall_mem_cons.1 commented
    have ⟨feed, return_⟩ := first.ne_newline
    rw [List.cons_append, skipLines.eq_4 _ _ _ feed fun _ same => absurd same return_, if_pos rfl,
      if_pos first.isCommentChar]
    exact ih others

/-- Everything between the elements of a list is skipped. -/
theorem Filler.skip (filler_ : Filler filler) :
    skipLines false (filler ++ text) = skipLines false text := by
  -- A filler is made of gaps and of lines, with a comment or without one.
  induction filler_ with
  | nil => rfl
  | gap gap more ih =>
    have blank := isGap_of_listed gap
    rcases List.mem_pair.1 gap with rfl | rfl <;> simpa [skipLines, blank] using ih
  | @line comment newline more comment_ newline_ more_ ih =>
    simp only [List.append_assoc]
    rcases comment_ with rfl | ⟨chars, printable, rfl⟩
    · rcases newline_ with rfl | rfl <;> simpa [skipLines] using ih
    · refine Eq.trans ?_ ih
      rw [List.cons_append, skipLines.eq_4 _ _ _ (by decide) fun _ same => absurd same (by decide)]
      -- A comment is skipped up to the end of its line.
      exact skipLines_comment printable newline_

/-- Nothing is skipped where neither a gap nor a comment nor the end of a line starts. -/
theorem skipLines_cons (solid : char ∉ [' ', '\t', '\n', '\r', '#']) :
    skipLines false (char :: text) = char :: text := by
  simp only [List.mem_cons, List.not_mem_nil, or_false, not_or] at solid
  obtain ⟨space, tab, feed, return_, hash⟩ := solid
  rw [skipLines.eq_4 _ _ _ feed fun _ same => absurd same return_]
  simp [isGap, space, tab, hash]

/-- What follows a line is found behind its gap and its comment. -/
theorem endLine_rest (gapped : Gap gap) (commented : Comment comment)
    (ends : text = [] ∨ ∃ newline more, Newline newline ∧ text = newline ++ more) :
    endLine (gap ++ (comment ++ text)) = if text.isEmpty then some [] else newline? text := by
  -- A comment runs up to the end of the line, as none of its characters ends one.
  rw [endLine, gapped.skip]
  rcases commented with rfl | ⟨chars, printable, rfl⟩
  · rcases ends with rfl | ⟨newline, more, rfl | rfl, rfl⟩ <;> rfl
  · have stops : text.dropWhile isCommentChar = text := by
      rcases ends with rfl | ⟨newline, more, rfl | rfl, rfl⟩ <;> simp [isCommentChar]
    have left : (chars ++ text).dropWhile isCommentChar = text :=
      (List.dropWhile_append_of_pos fun char member => (printable char member).isCommentChar).trans stops
    rw [List.cons_append, skipGap_cons (by decide)]
    simp only [left]

/-- A line ends behind its gap and its comment. -/
theorem endLine_newline (gapped : Gap gap) (commented : Comment comment) (newline_ : Newline newline) :
    endLine (gap ++ (comment ++ (newline ++ text))) = some text := by
  have some : (newline ++ text).isEmpty = false := by
    rcases newline_ with rfl | rfl <;> rfl
  rw [endLine_rest gapped commented (.inr ⟨newline, text, newline_, rfl⟩), some, newline?_newline newline_]
  rfl

/-- The last line ends with the text. -/
theorem endLine_last (gapped : Gap gap) (commented : Comment comment) :
    endLine (gap ++ comment) = some [] := by
  have last := endLine_rest gapped commented (.inl rfl)
  rwa [List.append_nil] at last

end Gaps

section Escapes

variable {char : Char} {digits text more : List Char}

/-- Hexadecimal digits are read as the character whose number they write. -/
theorem numberedChar_digits {count : Nat} (digits_ : HexDigits count char.toNat digits) :
    numberedChar count (digits ++ more) = some char := by
  have taken : (digits ++ more).take count = digits := List.take_left' digits_.count
  have valid : Nat.isValidChar char.toNat := char.valid
  rw [numberedChar, taken, digits_.count, digits_.value]
  simp only [decide_true, Bool.true_and, List.all_eq_true.2 digits_.each, if_pos, Char.ofNat_toNat, valid]

/-- An escape is read whole as the character that it stands for. -/
theorem EscapeForm.read (written : EscapeForm char text) :
    escape (text ++ more) = some (char, text.length) := by
  -- A letter is found in the table; the others are read by their four or eight digits.
  cases written with
  | @letter letter _ listed =>
    have each : ∀ entry ∈ letterEscapes, ∀ more, escape (entry.1 :: more) = some (entry.2, 1) := by
      simp [letterEscapes, escape]
    exact each _ listed more
  | short digits_ =>
    simp [escape, numberedChar_digits digits_, digits_.count]
  | long digits_ =>
    simp [escape, numberedChar_digits digits_, digits_.count]

end Escapes

section Quotes

variable {char quote : Char} {value : String} {chars text body more rest : List Char}

/-- The quotes that strings are written between. -/
def IsQuote (char : Char) : Prop :=
  char = '"' ∨ char = '\''

theorem IsQuote.solid (quote_ : IsQuote quote) :
    isGap quote = false ∧ quote ≠ '\n' ∧ quote ≠ '\r' ∧ quote ≠ '\\' := by
  rcases quote_ with rfl | rfl <;> decide

/-- What a character is written as is read as that character. -/
theorem CharForm.read (written : CharForm char text) (body : basicBody more = some (chars, rest)) :
    basicBody (text ++ more) = some (char :: chars, rest) := by
  -- A character stands for itself, or is written as an escape that is read whole.
  cases written with
  | raw printable unquoted unescaped =>
    have basic : isBasicChar char = true := by
      simp [isBasicChar, printable.isCommentChar, unquoted, unescaped]
    rw [List.singleton_append, basicBody.eq_3 _ _ unquoted unescaped, if_pos basic, body]
    rfl
  | escape escape =>
    rw [List.cons_append, basicBody.eq_2, escape.read]
    simp only [bind, Option.bind, List.drop_left, body]

/-- The inside of a basic string is read up to the quote that closes it. -/
theorem CharsForm.read (written : CharsForm chars body) :
    basicBody (body ++ '"' :: rest) = some (chars, rest) := by
  induction written with
  | nil => exact basicBody.eq_1 rest
  | cons first _ ih =>
    rw [List.append_assoc]
    exact first.read ih

/-- No quote stands at the head of the inside of a basic string, unless the string is empty. -/
theorem CharsForm.unquoted (written : CharsForm chars body) : body.head? ≠ some '"' := by
  cases written with
  | nil => exact nofun
  | cons first _ =>
    cases first with
    | raw printable unquoted unescaped => simpa using unquoted
    | escape escape => simp

/-- The inside of a literal string is read up to the quote that closes it. -/
theorem literalBody_quote (plain : ∀ char ∈ chars, Printable char ∧ char ≠ '\'') :
    literalBody (chars ++ '\'' :: rest) = some (chars, rest) := by
  -- Character by character; none of them is the quote.
  induction chars with
  | nil => rfl
  | cons char chars ih =>
    have ⟨⟨printable, unquoted⟩, others⟩ := List.forall_mem_cons.1 plain
    have literal : isLiteralChar char = true := by
      simp [isLiteralChar, printable.isCommentChar, unquoted]
    rw [List.cons_append, literalBody.eq_2 _ _ unquoted, if_pos literal, ih others]
    rfl

/-- A basic string is read behind its opening quote. -/
theorem BasicForm.read (form : BasicForm value text) (rest : List Char) :
    ∃ inside, text ++ rest = '"' :: inside ∧ basicBody inside = some (value.toList, rest) := by
  obtain ⟨body, chars, rfl⟩ := form
  exact ⟨body ++ '"' :: rest, by simp, chars.read⟩

/-- A literal string is read behind its opening quote. -/
theorem LiteralForm.read (form : LiteralForm value text) (rest : List Char) :
    ∃ inside, text ++ rest = '\'' :: inside ∧ literalBody inside = some (value.toList, rest) := by
  obtain ⟨plain, rfl⟩ := form
  exact ⟨value.toList ++ '\'' :: rest, by simp, literalBody_quote plain⟩

end Quotes

section Keys

variable {name : String} {path : List String} {before gap text rest : List Char}

/-- A run of characters of one kind is told from what follows it. -/
theorem run_apart {kind : Char → Bool} {run : List Char} (within : ∀ char ∈ run, kind char = true)
    (stops : ∀ char ∈ rest.head?, kind char = false) :
    (run ++ rest).takeWhile kind = run ∧ (run ++ rest).dropWhile kind = rest := by
  rw [List.takeWhile_append_of_pos within, List.dropWhile_append_of_pos within]
  cases rest with
  | nil => simp
  | cons char rest => simp [stops char rfl]

theorem isBareChar_of {char : Char} (plain : char.isAlphanum = true ∨ char = '-' ∨ char = '_') :
    isBareChar char = true := by
  simpa [isBareChar, or_assoc] using plain

/-- A key starts with a quote or with a character that needs none. -/
def StartsKey (text : List Char) : Prop :=
  ∃ first more, text = first :: more ∧ (IsQuote first ∨ isBareChar first = true)

/-- A key starts with neither a gap nor anything else that may stand at the head of a line or of a table. -/
theorem StartsKey.solid (starts : StartsKey text) : ∃ first more, text = first :: more ∧
    first ∉ [' ', '\t', '\n', '\r', '#', '[', '\uFEFF', '\x7d'] := by
  obtain ⟨first, more, same, opens⟩ := starts
  refine ⟨first, more, same, fun listed => ?_⟩
  have none : ∀ char ∈ [' ', '\t', '\n', '\r', '#', '[', '\uFEFF', '\x7d'],
      ¬ ((char = '"' ∨ char = '\'') ∨ isBareChar char = true) := by decide
  exact none first listed opens

theorem KeyForm.starts (key : KeyForm name text) : StartsKey text := by
  cases key with
  | bare some plain =>
    obtain ⟨first, more, same⟩ := List.exists_cons_of_ne_nil some
    exact ⟨first, more, same, .inr (isBareChar_of (plain first (by simp [same])))⟩
  | basic form => obtain ⟨body, -, rfl⟩ := form; exact ⟨'"', _, rfl, .inl (.inl rfl)⟩
  | literal form => obtain ⟨-, rfl⟩ := form; exact ⟨'\'', _, rfl, .inl (.inr rfl)⟩

/-- One part of a key is read up to where its characters end. -/
theorem KeyForm.read (key : KeyForm name text) (ends : ∀ char ∈ rest.head?, isBareChar char = false) :
    keyPart (text ++ rest) = some (name, rest) := by
  cases key with
  | bare some plain =>
    obtain ⟨first, more, same⟩ := List.exists_cons_of_ne_nil some
    have bare : ∀ char ∈ name.toList, isBareChar char = true :=
      fun char member => isBareChar_of (plain char member)
    have first_ := bare first (by simp [same])
    -- A bare key is taken as far as its characters go.
    obtain ⟨taken, left⟩ := run_apart bare ends
    rw [keyPart.eq_def]
    split
    · next head => rw [same] at head; cases head; exact absurd first_ (by decide)
    · next head => rw [same] at head; cases head; exact absurd first_ (by decide)
    · simp [taken, left, some]
  | basic form =>
    obtain ⟨inside, same, read⟩ := form.read rest
    rw [same, keyPart, read]
    simp
  | literal form =>
    obtain ⟨inside, same, read⟩ := form.read rest
    rw [same, keyPart, read]
    simp

/-- A key ends at a gap. -/
theorem Gap.ends {char : Char} (gapped : Gap gap) (other : isBareChar char = false) :
    ∀ first ∈ (gap ++ char :: rest).head?, isBareChar first = false := by
  rcases gap with _ | ⟨first, gap⟩
  · simpa using other
  · have blank : ∀ char ∈ [' ', '\t'], isBareChar char = false := by decide
    simpa using blank first (gapped first List.mem_cons_self)

/-- A key with points starts like its first part. -/
theorem PathForm.starts (key : PathForm path text) : StartsKey text := by
  cases key with
  | last key => exact key.starts
  | more key _ _ _ =>
    obtain ⟨first, more, rfl, opens⟩ := key.starts
    exact ⟨first, _, rfl, opens⟩

/-- The gap before a key ends where the key starts. -/
theorem PathForm.skip (key : PathForm path text) (gapped : Gap before) :
    skipGap (before ++ (text ++ rest)) = text ++ rest := by
  obtain ⟨first, more, rfl, solid⟩ := key.starts.solid
  simp only [List.mem_cons, not_or] at solid
  rw [gapped.skip, List.cons_append, skipGap_cons (by simp [isGap, solid.1, solid.2.1])]

/-- A key with all its parts is read up to the equals sign behind it. -/
theorem PathForm.read (key : PathForm path text) (gapBefore : Gap before) (gapped : Gap gap) :
    keyParts (before ++ (text ++ (gap ++ '=' :: rest))) = some (path, '=' :: rest) := by
  -- The gap behind a point is the gap before the next part.
  induction key generalizing before with
  | last key =>
    rw [keyParts, (PathForm.last key).skip gapBefore, key.read (gapped.ends (by decide))]
    simp only [bind, Option.bind, gapped.skip, skipGap_cons (show isGap '=' = false by decide)]
    rfl
  | @more name path text behind ahead texts key gapBehind gapAhead more ih =>
    have whole : text ++ (behind ++ '.' :: (ahead ++ texts)) ++ (gap ++ '=' :: rest) =
        text ++ (behind ++ '.' :: (ahead ++ (texts ++ (gap ++ '=' :: rest)))) := by simp
    rw [whole, keyParts, (PathForm.last key).skip gapBefore, key.read (gapBehind.ends (by decide))]
    simp only [bind, Option.bind, gapBehind.skip, skipGap_cons (show isGap '.' = false by decide)]
    -- What is left behind the point is shorter, so the other parts are read.
    rw [dif_pos (by simp; omega), ih gapAhead]

/-- A key has at least one part. -/
theorem PathForm.ne_nil (key : PathForm path text) : path ≠ [] := by
  cases key <;> exact List.cons_ne_nil _ _

/-- A key with fewer parts than the limit is read as the way to its last part. -/
theorem PathForm.key (written : PathForm path text) (gapBefore : Gap before) (gapped : Gap gap)
    (short : path.length < partLimit) : Toml.key (before ++ (text ++ (gap ++ '=' :: rest))) =
      some ((path.dropLast, path.getLast written.ne_nil), '=' :: rest) := by
  have within : ¬ keyDepthLimit ≤ path.length := Nat.not_le.2 short
  rw [Toml.key, written.read gapBefore gapped]
  simp only [bind, Option.bind, if_neg within, List.getLast?_eq_some_getLast written.ne_nil]

end Keys

end InsightRelay.Toml
