import InsightRelay.Proofs.Toml.Moment
import InsightRelay.Proofs.Toml.Multiline
import InsightRelay.Proofs.Toml.Table

/-! Values of any kind read to their end, together with the keys and gaps around them. -/

namespace InsightRelay.Toml

section Reading

variable {gap filler text rest : List Char}

/-- A reader takes a text off whatever may follow it, and what it reads of the text is of a kind. -/
def Reads (read : Reader Value) (kind : Value → Prop) (text : List Char) : Prop :=
  ∀ ⦃rest⦄, Follows rest → ∃ value, kind value ∧ read (text ++ rest) = some (value, rest)

/-- A value starts at the head of the text. -/
def Opens (text : List Char) : Prop :=
  ∃ first more, text = first :: more ∧ first ∉ [' ', '\t', '\n', '\r', '#', ']']

theorem Follows.cons {char : Char} (listed : char ∈ followers) : Follows (char :: text) := by
  have solid : ∀ char ∈ followers, isGap char = false := by decide
  rw [Follows, skipGap_cons (solid char listed)]
  simpa using listed

theorem Follows.nil : Follows [] := nofun

theorem Gap.follows (gapped : Gap gap) (follows : Follows text) : Follows (gap ++ text) := by
  rwa [Follows, gapped.skip]

theorem Filler.follows (filler_ : Filler filler) (follows : Follows text) : Follows (filler ++ text) := by
  -- A filler starts with a gap, with a comment or with a line end, and each of them may follow a value.
  induction filler_ with
  | nil => exact follows
  | @gap char more gap _ ih =>
    have gapped : Gap [char] := fun _ same => List.mem_singleton.1 same ▸ gap
    exact gapped.follows ih
  | line comment_ newline_ _ _ =>
    rcases comment_ with rfl | ⟨chars, -, rfl⟩
    · rcases newline_ with rfl | rfl <;> exact .cons (by decide)
    · exact .cons (by decide)

theorem Opens.append (opens : Opens text) (rest : List Char) : Opens (text ++ rest) := by
  obtain ⟨first, more, rfl, solid⟩ := opens
  exact ⟨first, more ++ rest, rfl, solid⟩

/-- What stands before a value in a list ends where the value starts. -/
theorem Opens.skipLines (opens : Opens text) (filler_ : Filler filler) :
    skipLines false (filler ++ text) = text := by
  obtain ⟨first, more, rfl, solid⟩ := opens
  rw [filler_.skip, skipLines_cons]
  simp only [List.mem_cons, not_or, List.not_mem_nil, or_false] at solid ⊢
  tauto

/-- The gap before a value ends where the value starts. -/
theorem Opens.skipGap (opens : Opens text) (gapped : Gap gap) : skipGap (gap ++ text) = text := by
  obtain ⟨first, more, rfl, solid⟩ := opens
  simp only [List.mem_cons, not_or] at solid
  rw [gapped.skip, skipGap_cons (by simp [isGap, solid.1, solid.2.1])]

end Reading

section Scalars

variable {char : Char} {number : Int} {name : String} {depth : Nat} {text rest : List Char}

/-- What a number, a date or a time starts with. -/
def OpensNumber (text : List Char) : Prop :=
  ∃ first more, text = first :: more ∧ (first.isDigit = true ∨ first ∈ ['+', '-', 'i', 'n'])

theorem WholeForm.opens {digits sign : List Char} (whole : WholeForm digits text)
    (signed : Sign sign) (rest : List Char) :
    OpensNumber (sign ++ (text ++ rest)) := by
  obtain ⟨first, more, rfl, -, digit⟩ := whole.grouped.opens
  rcases signed with rfl | rfl | rfl
  · exact ⟨first, _, rfl, .inl (isDigitOf_ten first ▸ digit)⟩
  · exact ⟨'+', _, rfl, .inr (by decide)⟩
  · exact ⟨'-', _, rfl, .inr (by decide)⟩

theorem IntegerForm.opens (form : IntegerForm number text) : OpensNumber text := by
  cases form with
  | @natural _ _ text signed whole =>
    simpa using whole.opens (signed.imp_right .inl) []
  | @negative _ text whole =>
    have opens : OpensNumber (['-'] ++ (text ++ [])) := whole.opens (.inr (.inr rfl)) []
    simpa using opens
  | based listed grouped => exact ⟨'0', _, rfl, .inl (by decide)⟩

theorem FloatText.opens {limited : Prop} (float : FloatText limited text) : OpensNumber text := by
  cases float with
  | places signed whole places fits => exact whole.opens signed _
  | placesPower signed whole places power fits => exact whole.opens signed _
  | power signed whole power fits => exact whole.opens signed _
  | special signed listed =>
    rcases signed with rfl | rfl | rfl <;> rcases listed with rfl | rfl
    all_goals exact ⟨_, _, rfl, .inr (by decide)⟩

theorem FixedForm.opens {count number : Nat} {digits : List Char}
    (form : FixedForm (count + 1) number digits) :
    OpensNumber (digits ++ text) := by
  rcases digits with _ | ⟨first, more⟩
  · exact absurd form.count (by simp)
  · exact ⟨first, _, rfl, .inl (form.each first List.mem_cons_self)⟩

theorem MomentText.opens (moment : MomentText text) : OpensNumber text := by
  -- Dates and times both start with a digit.
  cases moment with
  | date date => cases date with | mk year _ _ _ _ => exact year.opens
  | time time => cases time with | mk hour _ _ _ _ => exact hour.opens
  | both date _ _ _ =>
    cases date with
    | mk year _ _ _ _ =>
      simp only [List.append_assoc, List.cons_append]
      exact year.opens

/-- What starts like a number is no string, no truth value, no list and no table. -/
theorem OpensNumber.value (opens : OpensNumber text) :
    Toml.value depth (text ++ rest) = dateOrNumber (text ++ rest) := by
  -- No other kind of value starts with such a character, whether lists and tables are read or not.
  obtain ⟨first, more, rfl, listed⟩ := opens
  have other : ∀ char ∈ ['"', '\'', 't', 'f', '[', '\x7b'], first ≠ char := by
    rintro char member rfl
    have each : ∀ char ∈ ['"', '\'', 't', 'f', '[', '\x7b'],
        ¬ (char.isDigit = true ∨ char ∈ ['+', '-', 'i', 'n']) := by decide
    exact each first member listed
  -- All other readers of scalars ask for a character that this is not.
  have scalar_ : scalar (first :: more ++ rest) = dateOrNumber (first :: more ++ rest) := by
    rw [scalar.eq_def]
    split <;> simp_all
  cases depth with
  | zero => exact scalar_
  | succ depth =>
    rw [Toml.value.eq_def]
    split <;> simp_all

theorem OpensNumber.opens (opens : OpensNumber text) : Opens text := by
  obtain ⟨first, more, rfl, listed⟩ := opens
  refine ⟨first, more, rfl, fun member => ?_⟩
  have each : ∀ char ∈ [' ', '\t', '\n', '\r', '#', ']'],
      ¬ (char.isDigit = true ∨ char ∈ ['+', '-', 'i', 'n']) := by decide
  exact each first member listed

/-- A string is read at any depth. -/
theorem value_quote {quote : Char} (quote_ : IsQuote quote) : Toml.value depth (quote :: text) =
    (Toml.string (quote :: text)).map fun (chars, rest) => (.text (String.ofList chars), rest) := by
  rcases quote_ with rfl | rfl <;> cases depth <;> rfl

theorem Ends.unquoted (ends : Ends rest) : ∀ char ∈ rest.head?, char ∉ ['"', '\''] :=
  ends.head (by decide)

end Scalars

section Lists

variable {read : Reader Value} {element : Element} {elements : List Element}
  {comma filler more rest : List Char}

theorem Element.whole_append (element : Element) (rest : List Char) :
    element.whole ++ rest = element.before ++ (element.text ++ (element.after ++ rest)) := by
  simp [whole]

/-- What follows a value of a list decides whether there are more. -/
theorem elements_value {value : Value} {text behind : List Char} (opens : Opens text)
    (filler_ : Filler filler) (taken : read text = some (value, behind)) :
    (∀ rest, skipLines false behind = ']' :: rest →
      Toml.elements read (filler ++ text) = some ([value], rest)) ∧
    (∀ rest, skipLines false behind = ',' :: rest → rest.length < (filler ++ text).length →
      Toml.elements read (filler ++ text) =
        (Toml.elements read rest).map fun (values, rest) => (value :: values, rest)) := by
  -- The value is no closing bracket, so it is read; then a bracket or a comma must follow.
  obtain ⟨first, more, rfl, solid⟩ := opens
  have opened : first ≠ ']' := by
    rintro rfl
    exact solid (by decide)
  rw [Toml.elements.eq_1, Opens.skipLines ⟨first, more, rfl, solid⟩ filler_]
  split
  · next same => exact absurd (List.cons.inj same).1 opened
  · constructor
    · intro rest closed
      simp only [taken, bind, Option.bind, closed]
    · -- Behind the comma the list goes on with what is shorter.
      intro rest goesOn shorter
      simp only [taken, bind, Option.bind, goesOn, dif_pos shorter]
      cases Toml.elements read rest <;> rfl

/-- An element with a comma behind it is followed by the elements behind the comma. -/
theorem elements_comma (opens : Opens element.text) (reads : Reads read (fun _ => True) element.text)
    (more : List Char) : ∃ value, Toml.elements read (element.whole ++ ',' :: more) =
      (Toml.elements read more).map fun (values, rest) => (value :: values, rest) := by
  -- Behind the element the filler is skipped, and the comma is met.
  obtain ⟨value, -, taken⟩ :=
    reads (element.fillerAfter.follows (.cons (by decide) : Follows (',' :: more)))
  refine ⟨value, ?_⟩
  rw [element.whole_append]
  refine (elements_value (opens.append _) element.fillerBefore taken).2 more ?_ (by simp; omega)
  rw [element.fillerAfter.skip, skipLines_cons (by decide)]

/-- The last element is followed by the closing bracket. -/
theorem elements_last (opens : Opens element.text) (reads : Reads read (fun _ => True) element.text)
    (filler_ : Filler filler) (rest : List Char) :
    ∃ values, Toml.elements read (element.whole ++ (filler ++ ']' :: rest)) = some (values, rest) := by
  -- Behind the element both fillers are skipped, and the bracket is met.
  obtain ⟨value, -, taken⟩ :=
    reads (element.fillerAfter.follows (filler_.follows (.cons (by decide) : Follows (']' :: rest))))
  refine ⟨[value], ?_⟩
  rw [element.whole_append]
  refine (elements_value (opens.append _) element.fillerBefore taken).1 rest ?_
  rw [element.fillerAfter.skip, filler_.skip, skipLines_cons (by decide)]

/-- Of several texts, the first is followed by a comma. -/
theorem separated_map {α : Type} (whole : α → List Char) (first next : α) (others : List α)
    (rest : List Char) : separated ((first :: next :: others).map whole) ++ rest =
      whole first ++ ',' :: (separated ((next :: others).map whole) ++ rest) := by
  simp [separated]

theorem elements_closed (filler_ : Filler filler) (rest : List Char) :
    Toml.elements read (filler ++ ']' :: rest) = some ([], rest) := by
  rw [Toml.elements.eq_1, filler_.skip, skipLines_cons (by decide)]
  rfl

/-- The elements of a list are read up to the bracket that closes it. -/
theorem elements_row (opens : ∀ element ∈ elements, Opens element.text)
    (reads : ∀ element ∈ elements, Reads read (fun _ => True) element.text)
    (comma_ : comma = [] ∨ comma = [','] ∧ elements ≠ []) (filler_ : Filler filler) (rest : List Char) :
    ∃ values, Toml.elements read (separated (elements.map Element.whole) ++
      (comma ++ (filler ++ ']' :: rest))) = some (values, rest) := by
  -- The last element is a case of its own: the comma behind it, if there is one, ends the list.
  induction elements with
  | nil =>
    obtain rfl : comma = [] := comma_.resolve_right fun both => both.2 rfl
    exact ⟨[], elements_closed filler_ rest⟩
  | cons element elements ih =>
    have ⟨opens_, opens'⟩ := List.forall_mem_cons.1 opens
    have ⟨reads_, reads'⟩ := List.forall_mem_cons.1 reads
    rcases elements with _ | ⟨next, elements⟩
    · rw [List.map_singleton, separated]
      rcases comma_ with rfl | ⟨rfl, -⟩
      · exact elements_last opens_ reads_ filler_ rest
      · obtain ⟨value, same⟩ := elements_comma opens_ reads_ (filler ++ ']' :: rest)
        exact ⟨[value], same.trans (by rw [elements_closed filler_ rest]; rfl)⟩
    · -- Another element follows, so the comma behind this one goes on with the list.
      obtain ⟨values, read_⟩ := ih opens' reads' (comma_.imp_right fun both => ⟨both.1, by simp⟩)
      obtain ⟨value, same⟩ := elements_comma opens_ reads_
        (separated ((next :: elements).map Element.whole) ++ (comma ++ (filler ++ ']' :: rest)))
      refine ⟨value :: values, ?_⟩
      rw [separated_map, same, read_]
      rfl

end Lists

section Tables

variable {read : Reader Value} {kind : Value → Prop} {entry : Entry} {entries : List Entry}
  {table : Entries} {rest : List Char}

theorem Entry.whole_append (entry : Entry) (rest : List Char) : entry.whole ++ rest =
    entry.before ++ (entry.key ++ (entry.beforeSign ++ '=' :: (entry.afterSign ++
      (entry.value ++ (entry.after ++ rest))))) := by
  simp [whole]

theorem separated_append (before text : List Char) (texts : List (List Char)) :
    separated ((before ++ text) :: texts) = before ++ separated (text :: texts) := by
  cases texts <;> simp [separated]

/-- A key with a value can be read: the key is well formed and has few parts, and the value is read to its
end as one of a kind. -/
structure Entry.Readable (read : Reader Value) (kind : Value → Prop) (entry : Entry) : Prop where
  key : PathForm entry.path entry.key
  short : entry.path.length < partLimit
  opens : Opens entry.value
  value : Reads read kind entry.value

/-- The key and the value without the gap before them. -/
def Entry.bare (entry : Entry) : Entry :=
  { entry with before := [], gapBefore := .nil }

theorem Entry.whole_bare (entry : Entry) : entry.whole = entry.before ++ entry.bare.whole := rfl

/-- Without the gap before them, a key and its value start like the key. -/
theorem Entry.bare_whole (entry : Entry) : entry.bare.whole = entry.key ++ (entry.beforeSign ++
    '=' :: (entry.afterSign ++ (entry.value ++ entry.after))) := rfl

theorem Entry.Readable.bare (readable : entry.Readable read kind) : entry.bare.Readable read kind :=
  ⟨readable.key, readable.short, readable.opens, readable.value⟩

/-- A key and its value are read up to the gap behind them. -/
theorem Entry.Readable.pair (readable : entry.Readable read kind) (follows : Follows rest) :
    ∃ value, kind value ∧ Toml.pair read (entry.whole ++ rest) =
      some (((entry.path.dropLast, entry.path.getLast readable.key.ne_nil), value),
        entry.after ++ rest) := by
  obtain ⟨value, kind_, taken⟩ := readable.value (entry.gapAfter.follows follows)
  refine ⟨value, kind_, ?_⟩
  rw [entry.whole_append, Toml.pair, readable.key.key entry.gapBefore entry.gapBeforeSign readable.short]
  simp only [bind, Option.bind, expect_cons, (readable.opens.append _).skipGap entry.gapAfterSign, taken]

/-- A key and its value are given to the table that is being read, and what follows them decides whether
there are more. -/
theorem inlineEntries_entry (readable : entry.Readable read kind) (free : table.Free entry.path)
    {char : Char} (listed : char = ',' ∨ char = '\x7d') (rest : List Char) :
    ∃ after, (∀ other, Apart entry.path other → table.Free other → after.Free other) ∧
      inlineEntries read table (entry.whole ++ char :: rest) =
        if char = ',' then inlineEntries read after rest else some (after, rest) := by
  -- The key is free, so that its value is given to it; then a comma or a brace must follow.
  have follows : Follows (char :: rest) := .cons (by rcases listed with rfl | rfl <;> decide)
  obtain ⟨value, -, taken⟩ := readable.pair follows
  obtain ⟨after, given, later⟩ := Entries.assign_free readable.key.ne_nil free value
  refine ⟨after, later, ?_⟩
  rw [inlineEntries, taken]
  simp only [bind, Option.bind, given, entry.gapAfter.skip]
  rcases listed with rfl | rfl
  · -- Behind a comma what is left is shorter, and behind the brace the table is complete.
    rw [skipGap_cons (by decide), if_pos rfl]
    exact dif_pos (by simp; omega)
  · rw [skipGap_cons (by decide), if_neg (by decide)]
    rfl

/-- The keys of an inline table are read up to the brace that closes it. -/
theorem inlineEntries_row (some : entries ≠ []) (readable : ∀ entry ∈ entries, entry.Readable read kind)
    (apart : entries.Pairwise fun entry other => Apart entry.path other.path)
    (free : ∀ entry ∈ entries, table.Free entry.path) (rest : List Char) :
    ∃ after, inlineEntries read table (separated (entries.map Entry.whole) ++ '\x7d' :: rest) =
      Option.some (after, rest) := by
  -- What is apart from the keys that have been read stays free.
  induction entries generalizing table with
  | nil => contradiction
  | cons entry entries ih =>
    have ⟨here, others⟩ := List.forall_mem_cons.1 readable
    have ⟨apart_, apart'⟩ := List.pairwise_cons.1 apart
    have ⟨free_, free'⟩ := List.forall_mem_cons.1 free
    rcases entries with _ | ⟨next, entries⟩
    · -- The last key has the brace behind it, all others a comma.
      obtain ⟨after, -, read_⟩ := inlineEntries_entry here free_ (.inr rfl) rest
      exact ⟨after, read_⟩
    · obtain ⟨between, later, read_⟩ := inlineEntries_entry here free_ (.inl rfl)
        (separated ((next :: entries).map Entry.whole) ++ '\x7d' :: rest)
      obtain ⟨after, read'⟩ := ih (by simp) others apart'
        fun other inside => later other.path (apart_ other inside) (free' other inside)
      exact ⟨after, by rw [separated_map, read_, if_pos rfl, read']⟩

end Tables

section Values

variable {depth deep : Nat} {number : Int} {truth : Bool} {written : String} {limited : Prop}
  {text : List Char}

theorem StringText.solid (string_ : StringText text) : Opens text := by
  obtain ⟨quote, more, listed, rfl⟩ := string_.opens
  exact ⟨quote, more, rfl, by rcases listed with rfl | rfl <;> decide⟩

theorem boolean_opens (listed : text = "true".toList ∨ text = "false".toList) : Opens text := by
  rcases listed with rfl | rfl
  · exact ⟨'t', _, rfl, by decide⟩
  · exact ⟨'f', _, rfl, by decide⟩

theorem ValueText.opens (value : ValueText limited depth text) : Opens text := by
  -- Every kind of value starts with a character that is neither blank nor the head of a comment.
  cases value with
  | string string_ => exact string_.solid
  | boolean listed => exact boolean_opens listed
  | integer form fits => exact form.opens.opens
  | float float => exact float.opens.opens
  | moment moment => exact moment.opens.opens
  | list filler_ values comma_ => exact ⟨'[', _, rfl, by decide⟩
  | table gapped keys values apart short => exact ⟨'\x7b', _, rfl, by decide⟩

/-- A basic string is read back. -/
theorem BasicForm.reads (form : BasicForm written text) (deep : Nat) :
    Reads (Toml.value deep) (· = .text written) text := by
  -- The quote tells that the value is a string, and it is read whole.
  intro rest follows
  have read : Toml.string (text ++ rest) = some (written.toList, rest) :=
    form.string fun head => follows.ends.unquoted _ head (by simp)
  obtain ⟨body, -, rfl⟩ := form
  refine ⟨.text written, rfl, ?_⟩
  rw [List.cons_append, List.cons_append] at read ⊢
  rw [value_quote (.inl rfl), read]
  simp

/-- A truth value is read back. -/
theorem BooleanForm.reads (form : BooleanForm truth text) (deep : Nat) :
    Reads (Toml.value deep) (· = .boolean truth) text := by
  intro rest _
  obtain rfl := form
  exact ⟨.boolean truth, rfl, by cases truth <;> cases deep <;> rfl⟩

/-- An integer is read back. -/
theorem IntegerForm.reads (form : IntegerForm number text) (fits : -2 ^ 63 ≤ number ∧ number < 2 ^ 63)
    (deep : Nat) : Reads (Toml.value deep) (· = .integer number) text := by
  intro rest follows
  exact ⟨.integer number, rfl, form.opens.value.trans (form.read fits follows.ends)⟩

/-- A list is read to its end when its elements are. -/
theorem list_reads {elements : List Element} {comma filler : List Char} (filler_ : Filler filler)
    (opens : ∀ element ∈ elements, Opens element.text)
    (reads : ∀ element ∈ elements, Reads (Toml.value deep) (fun _ => True) element.text)
    (comma_ : comma = [] ∨ comma = [','] ∧ elements ≠ []) : Reads (Toml.value (deep + 1)) (fun _ => True)
      ('[' :: (separated (elements.map Element.whole) ++ (comma ++ (filler ++ [']'])))) := by
  -- The bracket is followed by the elements, which are read to the bracket that closes them.
  intro rest _
  obtain ⟨values, read⟩ := elements_row opens reads comma_ filler_ rest
  refine ⟨.list values, trivial, ?_⟩
  rw [List.cons_append, Toml.value]
  simp only [List.append_assoc, List.singleton_append, read]
  rfl

/-- An inline table that is not closed goes on with a key. -/
theorem value_brace {inside rest : List Char} (skipped : skipGap inside = rest)
    (open_ : ∀ more, rest ≠ '\x7d' :: more) : Toml.value (deep + 1) ('\x7b' :: inside) =
      (inlineEntries (Toml.value deep) [] rest).map fun (entries, rest) =>
        (.table (closeEntries entries), rest) := by
  -- Only a closing brace ends the table at once.
  subst skipped
  rw [Toml.value]
  split
  · next same => exact absurd same (open_ _)
  · rfl

/-- An inline table is read to its end when its keys and their values are. -/
theorem table_reads {entries : List Entry} {gap : List Char} (gapped : Gap gap)
    (readable : ∀ entry ∈ entries, entry.Readable (Toml.value deep) fun _ => True)
    (apart : entries.Pairwise fun entry other => Apart entry.path other.path) :
    Reads (Toml.value (deep + 1)) (fun _ => True)
      ('\x7b' :: (gap ++ (separated (entries.map Entry.whole) ++ ['\x7d']))) := by
  intro rest _
  rcases entries with _ | ⟨entry, entries⟩
  · -- An empty table closes at once.
    refine ⟨.table [], trivial, ?_⟩
    rw [List.cons_append, Toml.value, List.append_assoc, gapped.skip]
    rfl
  · -- The gap before the first key is skipped together with the gap behind the brace.
    have ⟨here, others⟩ := List.forall_mem_cons.1 readable
    have readable' := List.forall_mem_cons.2 ⟨here.bare, others⟩
    obtain ⟨after, read⟩ := inlineEntries_row (by simp) readable'
      (List.pairwise_cons.2 (List.pairwise_cons.1 apart))
      (fun entry inside => Entries.free_nil (readable' entry inside).key.ne_nil) rest
    have whole : separated ((entry :: entries).map Entry.whole) =
        entry.before ++ separated ((entry.bare :: entries).map Entry.whole) :=
      separated_append entry.before entry.bare.whole _
    have head : separated ((entry.bare :: entries).map Entry.whole) = entry.key ++ separated
        ((entry.beforeSign ++ '=' :: (entry.afterSign ++ (entry.value ++ entry.after))) ::
          entries.map Entry.whole) :=
      separated_append entry.key _ _
    have skipped : skipGap (gap ++ (separated ((entry :: entries).map Entry.whole) ++ '\x7d' :: rest)) =
        separated ((entry.bare :: entries).map Entry.whole) ++ '\x7d' :: rest := by
      rw [gapped.skip, whole, List.append_assoc, head, List.append_assoc, here.key.skip entry.gapBefore]
    -- A table that closes at once would be read as empty, but a key does not start with a brace.
    have open_ : ∀ more,
        separated ((entry.bare :: entries).map Entry.whole) ++ '\x7d' :: rest ≠ '\x7d' :: more := by
      intro more same
      obtain ⟨char, behind, written, solid⟩ := here.key.starts.solid
      rw [head, written] at same
      rw [(List.cons.inj same).1] at solid
      exact solid (by decide)
    refine ⟨.table (closeEntries after), trivial, ?_⟩
    rw [List.cons_append, List.append_assoc, List.append_assoc, List.singleton_append,
      value_brace skipped open_, read]
    rfl

/-- A value of any kind is read to its end, where the depth allows for it. -/
theorem ValueText.reads (value : ValueText True depth text) (within : depth ≤ deep) :
    Reads (Toml.value deep) (fun _ => True) text := by
  -- The depth that is left to the reader shrinks with each list and each table around the value.
  induction value generalizing deep with
  | @string _ text string_ =>
    intro rest follows
    obtain ⟨chars, read⟩ := string_.read follows.ends.unquoted
    -- The quote that opens a string tells it from all other values.
    obtain ⟨quote, more, listed, rfl⟩ := string_.opens
    refine ⟨.text (String.ofList chars), trivial, ?_⟩
    rw [List.cons_append] at read ⊢
    rw [value_quote listed, read]
    rfl
  | boolean listed =>
    intro rest _
    rcases listed with rfl | rfl <;> cases deep <;> exact ⟨_, trivial, rfl⟩
  | integer form fits =>
    intro rest follows
    exact ⟨_, trivial, form.opens.value.trans (form.read fits follows.ends)⟩
  | float float =>
    intro rest follows
    obtain ⟨value, read⟩ := float.read follows.ends
    exact ⟨value, trivial, float.opens.value.trans read⟩
  | moment moment =>
    intro rest follows
    exact ⟨_, trivial, moment.opens.value.trans (moment.read follows)⟩
  | list filler_ values comma_ ih =>
    obtain ⟨less, rfl⟩ : ∃ less, deep = less + 1 := ⟨deep - 1, by omega⟩
    exact list_reads filler_ (fun element inside => (values element inside).opens)
      (fun element inside => ih element inside (Nat.le_of_succ_le_succ within)) comma_
  | table gapped keys values apart short ih =>
    obtain ⟨less, rfl⟩ : ∃ less, deep = less + 1 := ⟨deep - 1, by omega⟩
    exact table_reads gapped (fun entry inside => ⟨keys entry inside, short trivial entry inside,
      (values entry inside).opens, ih entry inside (Nat.le_of_succ_le_succ within)⟩) apart

end Values

end InsightRelay.Toml
