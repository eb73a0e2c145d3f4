import InsightRelay.Proofs.Toml.Value

/-! Documents read line by line: every key is given to the table at the top, and blank lines and comments
leave it as it is. -/

namespace InsightRelay.Toml

variable {draft : Draft} {gap comment text tail more : List Char}

/-- A line ends here, and more of the document follows, unless the line is the last one. -/
def Closes (tail more : List Char) : Prop :=
  (∃ newline, Newline newline ∧ tail = newline ++ more) ∨ tail = [] ∧ more = []

theorem Closes.endLine (closes : Closes tail more) (gapped : Gap gap) (commented : Comment comment) :
    endLine (gap ++ (comment ++ tail)) = some more := by
  rcases closes with ⟨newline, newline_, rfl⟩ | ⟨rfl, rfl⟩
  · exact endLine_newline gapped commented newline_
  · rw [List.append_nil]
    exact endLine_last gapped commented

theorem Closes.length (closes : Closes tail more) : more.length ≤ tail.length := by
  rcases closes with ⟨newline, newline_, rfl⟩ | ⟨rfl, rfl⟩
  · simp
  · exact Nat.le_refl 0

theorem Closes.follows (closes : Closes tail more) (commented : Comment comment) :
    Follows (comment ++ tail) := by
  rcases commented with rfl | ⟨chars, -, rfl⟩
  · rcases closes with ⟨newline, rfl | rfl, rfl⟩ | ⟨rfl, rfl⟩
    · exact .cons (by decide)
    · exact .cons (by decide)
    · exact .nil
  · exact .cons (by decide)

/-- A gap at the head of a line is skipped. -/
theorem lines_gap (gapped : Gap gap) : lines draft (gap ++ text) = lines draft text := by
  induction gap with
  | nil => rfl
  | cons char gap ih =>
    have ⟨blank, others⟩ := List.forall_mem_cons.1 gapped
    rw [List.cons_append, lines.eq_2, if_pos (isGap_of_listed blank)]
    exact (dif_pos (by simp)).trans (ih others)

/-- A blank line leaves the draft as it is. -/
theorem lines_blank (closes : Closes tail more) (gapped : Gap gap) (commented : Comment comment) :
    lines draft (gap ++ (comment ++ tail)) = lines draft more := by
  -- Without a comment the line is over at once, and a comment runs up to the end of the line.
  rw [lines_gap gapped]
  rcases commented with rfl | ⟨chars, printable, rfl⟩
  · rcases closes with ⟨newline, newline_, rfl⟩ | ⟨rfl, rfl⟩
    · rcases newline_ with rfl | rfl
      all_goals
        rw [List.nil_append, List.cons_append, lines.eq_2, if_neg (by decide), if_neg (by decide),
          if_pos (by decide)]
      · exact dif_pos (Nat.lt_succ_self _)
      · exact dif_pos (Nat.lt_succ_of_le (Nat.le_succ _))
    · rfl
  · -- The mark of a comment is met where a key might start, and the rest of the line is printable.
    have left := closes.endLine .nil (.inr ⟨chars, printable, rfl⟩)
    have shorter := closes.length
    rw [List.nil_append, List.cons_append] at left
    rw [List.cons_append, lines.eq_2, if_neg (by decide), if_pos (by rfl), left]
    exact dif_pos (by simp; omega)

variable {kind : Value → Prop} {entry : Entry} {before : Entries}

/-- A line with a key gives the value to the key, which leaves free what is apart from it. -/
theorem lines_entry (readable : entry.Readable (value valueDepth) kind) (free : before.Free entry.path)
    (closes : Closes tail more) (gapped : Gap gap) (commented : Comment comment) :
    ∃ value after, kind value ∧
      before.assign entry.path.dropLast (entry.path.getLast readable.key.ne_nil) value = some after ∧
      (∀ other, Apart entry.path other → before.Free other → after.Free other) ∧
      lines ⟨before, []⟩ (entry.whole ++ (gap ++ (comment ++ tail))) = lines ⟨after, []⟩ more := by
  -- The value is read to its end, and the table takes it because the path is free.
  obtain ⟨value, kind_, taken⟩ := readable.bare.pair (gapped.follows (closes.follows commented))
  obtain ⟨after, given, later⟩ := Entries.assign_free readable.key.ne_nil free value
  refine ⟨value, after, kind_, given, later, ?_⟩
  -- The pair is taken off and assigned first, and then the rest of the line is passed over.
  have assigned : assignment ⟨before, []⟩ (entry.bare.whole ++ (gap ++ (comment ++ tail))) =
      some (⟨after, []⟩, entry.after ++ (gap ++ (comment ++ tail))) := by
    have same : before.assign entry.bare.path.dropLast (entry.bare.path.getLast readable.key.ne_nil) value =
      some after := given
    rw [assignment, taken]
    simp only [bind, Option.bind, Entries.within, same]
    rfl
  have left : endLine (entry.after ++ (gap ++ (comment ++ tail))) = some more := by
    rw [← List.append_assoc]
    exact closes.endLine (entry.gapAfter.append gapped) commented
  have shorter := closes.length
  -- Neither a gap, a comment, the end of a line nor a header stands where the key starts.
  obtain ⟨char, behind, written, solid⟩ := readable.key.starts.solid
  simp only [List.mem_cons, not_or] at solid
  rw [entry.whole_bare, List.append_assoc, lines_gap entry.gapBefore]
  rw [entry.bare_whole, written] at assigned ⊢
  simp only [List.cons_append] at assigned ⊢
  rw [lines.eq_2, if_neg (by simp [isGap, solid.1, solid.2.1]), if_neg (by simp [solid.2.2.2.2.1]),
    if_neg (by simp [solid.2.2.1, solid.2.2.2.1]), if_neg (by simp [solid.2.2.2.2.2.1]), assigned]
  simp only [bind, Option.bind, left]
  exact dif_pos (by simp; omega)

section Run

variable {kinds : Entry → Value → Prop} {holds : List (List String) → Entries → Prop}
  {given : List (List String)} {row : Row} {entries others : List Entry}

/-- What holds of the keys given so far and of the table keeps holding when one more key is given. -/
def Keeps (kinds : Entry → Value → Prop) (holds : List (List String) → Entries → Prop)
    (entries : List Entry) : Prop :=
  ∀ entry ∈ entries, ∀ ⦃value given before after⦄ (some : entry.path ≠ []), kinds entry value →
    holds given before → before.assign entry.path.dropLast (entry.path.getLast some) value = .some after →
    holds (entry.path :: given) after

/-- One line gives its key, if it has one. -/
theorem lines_row (closes : Closes tail more)
    (readable : ∀ entry ∈ row.entry.toList, entry.Readable (value valueDepth) (kinds entry))
    (apart : ∀ entry ∈ row.entry.toList, ∀ other ∈ others, Apart entry.path other.path)
    (free : ∀ entry ∈ row.entry.toList ++ others, before.Free entry.path)
    (keeps : Keeps kinds holds row.entry.toList) (start : holds given before) :
    ∃ after, lines ⟨before, []⟩ (row.text ++ tail) = lines ⟨after, []⟩ more ∧
      holds (row.entry.toList.map Entry.path ++ given) after ∧ ∀ other ∈ others, after.Free other.path := by
  -- A row without an entry is a blank line; with one, its key is given to the entries read so far.
  obtain ⟨_ | entry, gap, comment, gapped, commented⟩ := row
  · refine ⟨before, ?_, start, free⟩
    rw [Row.text, Option.elim_none, List.nil_append, List.append_assoc]
    exact lines_blank closes gapped commented
  · have here := readable entry (by simp)
    obtain ⟨value, after, kind, assigned, later, read⟩ :=
      lines_entry here (free entry (by simp)) closes gapped commented
    refine ⟨after, ?_, keeps entry (by simp) here.key.ne_nil kind start assigned, fun other inside => ?_⟩
    · rw [Row.text, List.append_assoc, List.append_assoc]
      exact read
    · exact later other.path (apart entry (by simp) other inside) (free other (by simp [inside]))

/-- All lines give their keys. -/
theorem lines_rows {rows : List (Row × List Char)} {last : Row} (newlines : ∀ row ∈ rows, Newline row.2)
    (whole : (rows.map Prod.fst ++ [last]).filterMap Row.entry = entries)
    (readable : ∀ entry ∈ entries, entry.Readable (value valueDepth) (kinds entry))
    (apart : entries.Pairwise fun entry other => Apart entry.path other.path)
    (free : ∀ entry ∈ entries, before.Free entry.path) (keeps : Keeps kinds holds entries)
    (start : holds given before) :
    ∃ after, lines ⟨before, []⟩ (rows.flatMap (fun row => row.1.text ++ row.2) ++ last.text) =
        some ⟨after, []⟩ ∧
      holds ((entries.map Entry.path).reverse ++ given) after := by
  -- One line after the other adds its key to the given ones.
  induction rows generalizing entries before given with
  | nil =>
    -- Only the last line is left, which may hold one entry.
    have single : last.entry.toList = entries := by
      rw [← whole]
      cases held : last.entry <;> simp [held]
    subst single
    have free' : ∀ entry ∈ last.entry.toList ++ [], before.Free entry.path := by simpa using free
    obtain ⟨after, read, kept, -⟩ := lines_row (.inr ⟨rfl, rfl⟩) readable (by simp) free' keeps start
    refine ⟨after, ?_, ?_⟩
    · rw [List.append_nil] at read
      exact read.trans (lines.eq_1 _)
    · cases held : last.entry <;> simpa [held] using kept
  | cons row rows ih =>
    have split : row.1.entry.toList ++ (rows.map Prod.fst ++ [last]).filterMap Row.entry = entries := by
      rw [← whole]
      cases held : row.1.entry <;> simp [held]
    subst split
    obtain ⟨newline_, newlines'⟩ := List.forall_mem_cons.1 newlines
    obtain ⟨here, there⟩ := List.forall_mem_append.1 readable
    obtain ⟨-, apart', between⟩ := List.pairwise_append.1 apart
    -- The other lines start from what the first one has made of the document.
    obtain ⟨middle, read, kept, free'⟩ := lines_row (.inl ⟨row.2, newline_, rfl⟩) here between free
      (fun entry inside => keeps entry (List.mem_append_left _ inside)) start
    obtain ⟨after, read', kept'⟩ := ih newlines' rfl there apart' free'
      (fun entry inside => keeps entry (List.mem_append_right _ inside)) kept
    refine ⟨after, ?_, ?_⟩
    · rw [List.flatMap_cons, List.append_assoc, List.append_assoc, read, read']
    · cases held : row.1.entry <;> simpa [held] using kept'

end Run

section Mark

variable {start : List Char} {row : Row}

/-- The mark that may stand before a document of another make. -/
def NoMark (text : List Char) : Prop :=
  text.head? ≠ some '\uFEFF'

theorem NoMark.append (start_ : NoMark start) (text_ : NoMark text) : NoMark (start ++ text) := by
  cases start with
  | nil => exact text_
  | cons char start => exact start_

theorem Gap.noMark (gapped : Gap gap) : NoMark gap := by
  intro head
  have listed := gapped _ (List.mem_of_mem_head? head)
  exact absurd listed (by decide)

theorem Comment.noMark (commented : Comment comment) : NoMark comment := by
  rcases commented with rfl | ⟨chars, -, rfl⟩
  · exact nofun
  · exact fun same => absurd (Option.some.inj same) (by decide)

theorem Entry.noMark {entry : Entry} (key : PathForm entry.path entry.key) : NoMark entry.whole := by
  refine entry.gapBefore.noMark.append ?_
  obtain ⟨first, more, written, solid⟩ := key.starts.solid
  intro same
  rw [written] at same
  rw [Option.some.inj same] at solid
  exact solid (by decide)

theorem Row.noMark (keys : ∀ entry ∈ row.entry, PathForm entry.path entry.key) : NoMark row.text := by
  refine NoMark.append ?_ (row.gapped.noMark.append row.commented.noMark)
  cases held : row.entry with
  | none => exact nofun
  | some entry => exact Entry.noMark (keys entry held)

/-- No document starts with the mark. -/
theorem Rows.noMark (document : Rows) (keys : ∀ entry ∈ document.entries, PathForm entry.path entry.key) :
    NoMark document.text := by
  -- The first row decides, or what follows it when it is empty.
  obtain ⟨rows, last, newlines⟩ := document
  have each : ∀ row ∈ rows.map Prod.fst ++ [last], NoMark row.text := by
    intro row inside
    exact Row.noMark fun entry held => keys entry (List.mem_filterMap.2 ⟨row, inside, held⟩)
  rcases rows with _ | ⟨row, rows⟩
  · exact each last (by simp)
  · -- A row that is empty leaves its line break at the head.
    have newline_ := newlines row (by simp)
    rw [Rows.text, List.flatMap_cons]
    simp only [List.append_assoc]
    refine (each row.1 (by simp)).append ?_
    rcases newline_ with same | same <;> rw [same] <;>
      exact fun head => absurd (Option.some.inj head) (by decide)

end Mark

/-- A document is read from its first line to its last. -/
theorem document_rows {kinds : Entry → Value → Prop} {holds : List (List String) → Entries → Prop}
    {source : String} {document : Rows} (written : source.toList = document.text)
    (readable : ∀ entry ∈ document.entries, entry.Readable (value valueDepth) (kinds entry))
    (apart : document.entries.Pairwise fun entry other => Apart entry.path other.path)
    (keeps : Keeps kinds holds document.entries) (start : holds [] []) :
    ∃ after, Toml.document source = some (closeEntries after) ∧
      holds (document.entries.map Entry.path).reverse after := by
  -- No row starts with the mark, so nothing is cut off before the lines are read.
  have unmarked := document.noMark fun entry inside => (readable entry inside).key
  obtain ⟨after, read, kept⟩ := lines_rows document.newlines rfl readable apart
    (fun entry inside => Entries.free_nil (readable entry inside).key.ne_nil) keeps start
  rw [List.append_nil] at kept
  refine ⟨after, ?_, kept⟩
  rw [Toml.document, written]
  split
  · next same => exact absurd (congrArg List.head? same) unmarked
  · rw [Rows.text, read]
    rfl

end InsightRelay.Toml
