import InsightRelay.Json.Reader
import InsightRelay.Proofs.Json.Skip
import InsightRelay.Proofs.Json.Seam.Number
import InsightRelay.Proofs.Json.Seam.Text

/-! Values that are passed over and go on behind a seam. -/

namespace InsightRelay.Json

section Scalars

variable {cut : Cut} {rest text more : List Char} {first : Char}

theorem skipNumber_continues (nonempty : text ≠ []) (seam : Seam cut rest .outside text) :
    Continues cut (Left cut rest) (skipNumber text) (skipNumber (text ++ rest)) := by
  -- What is passed over is a number without a value, which the lemma for readers of values asks for.
  have plain : ∀ result : Except Problem (List Char),
      (result.map fun left => ((), left)).map Prod.snd = result := by
    rintro (_ | _) <;> rfl
  have number := takesOff_skipNumber.continues nonempty seam
  rw [← plain (skipNumber text), ← plain (skipNumber (text ++ rest))]
  exact number.map fun _ _ taken => taken.left

/-- Each kind of scalar is told by its first character. -/
theorem skipScalar_continues (seam : Seam cut rest .outside (first :: more)) :
    Continues cut (Left cut rest) (skipScalar (first :: more))
      (skipScalar (first :: (more ++ rest))) := by
  -- The first character tells which scalar is passed over.
  by_cases null : first = 'n'
  · subst null
    exact word_continues _ (by decide) (seam.outside (by decide))
  by_cases true_ : first = 't'
  · subst true_
    exact word_continues _ (by decide) (seam.outside (by decide))
  by_cases false_ : first = 'f'
  · subst false_
    exact word_continues _ (by decide) (seam.outside (by decide))
  by_cases quote : first = '"'
  · subst quote
    exact skipTextBody_continues seam.quote
  -- All other characters start a number or nothing.
  have other : ∀ text, skipScalar (first :: text) =
      if first == '-' || first.isDigit then skipNumber (first :: text)
      else .error (.malformed .valueWanted) := by
    intro text
    rw [skipScalar] <;> simp [*]
  rw [other, other]
  split_ifs
  · exact skipNumber_continues (List.cons_ne_nil _ _) seam
  · exact .failed

theorem afterMark_continues {mark : Char} {within : Within} {flaw : Char → Flaw} (plain : mark ≠ '"')
    (seam : Seam cut rest .outside text) :
    Continues cut (Left cut rest) (afterMark mark within flaw text)
      (afterMark mark within flaw (text ++ rest)) := by
  -- The mark is the first character behind a gap, which is the same for both texts.
  rcases seam.gap with none | ⟨first, more, short, long, seam⟩
  · rw [afterMark, none]
    exact .early
  · rw [afterMark, afterMark, short, long]
    by_cases same : first = mark
    · subst same
      simp only [if_pos]
      exact .read (seam.outside plain).left
    · simp only [if_neg same]
      exact .failed

theorem colon_continues (seam : Seam cut rest .outside text) :
    Continues cut (Left cut rest) (colon text) (colon (text ++ rest)) :=
  afterMark_continues (by decide) seam

/-- The name of a member is passed over together with its colon. -/
theorem skipName_continues (seam : Seam cut rest .outside text) :
    Continues cut (Left cut rest) (skipName text) (skipName (text ++ rest)) := by
  -- A name is a string behind a gap, and only its end can lie beyond the seam.
  rcases seam.gap with none | ⟨first, more, short, long, seam⟩
  · rw [skipName, none]
    exact .early
  · rw [skipName, skipName, short, long]
    by_cases quote : first = '"'
    · subst quote
      exact (skipTextBody_continues seam.quote).leave fun left seam => colon_continues seam
    · simpa [quote] using Continues.failed

end Scalars

section Brackets

variable {cut : Cut} {rest text more : List Char} {first : Char} {ahead : Ahead}
  {nests outer : List Nest}

/-- A walk over a value, as it goes on in open brackets. -/
abbrev Walk :=
  Ahead → List Nest → List Char → Except Problem (List Char)

/-- What is left to do behind a value: nothing, or to go on in the innermost bracket. -/
def behindValue (go : Walk) (nests : List Nest) (text : List Char) : Except Problem (List Char) :=
  if nests.isEmpty then .ok text else go .separator nests text

/-- One round of the walk over a value, with the gap before it skipped. -/
def round (go : Walk) : Walk
  | .value, _, [] => .error (.endsEarly .value)
  | .value, nests, '[' :: rest => go .opening (.list :: nests) rest
  | .value, nests, '\x7b' :: rest => go .opening (.object :: nests) rest
  | .value, nests, scalar => do behindValue go nests (← skipScalar scalar)
  | _, [], rest => .ok rest
  | _, nest :: _, [] => .error (.endsEarly nest.within)
  | _, .list :: outer, ']' :: rest => behindValue go outer rest
  | _, .object :: outer, '\x7d' :: rest => behindValue go outer rest
  | .separator, nest :: outer, ',' :: rest => do go .value (nest :: outer) (← skipToValue nest rest)
  | .separator, nest :: _, _ => .error (.malformed nest.flaw)
  | .opening, .list :: outer, rest =>
    match rest with
    | '[' :: rest => go .opening (.list :: .list :: outer) rest
    | '\x7b' :: rest => go .opening (.object :: .list :: outer) rest
    | scalar => do behindValue go (.list :: outer) (← skipScalar scalar)
  | .opening, .object :: outer, rest => do go .value (.object :: outer) (← skipName rest)

/-- The walk over a text goes on in shorter texts only. -/
def shorterWalk (length : Nat) : Walk := fun ahead nests text =>
  if text.length < length then skipFrom ahead nests text else .error (.malformed .valueWanted)

theorem skipFrom_eq (ahead : Ahead) (nests : List Nest) (text : List Char) :
    skipFrom ahead nests text = round (shorterWalk text.length) ahead nests (skipGap text) := by
  rw [skipFrom.eq_def]
  rfl

/-- Two walks go on alike in texts that are alike, as long as a value is due or a bracket is open. -/
def GoesOn (cut : Cut) (rest : List Char) (go go' : Walk) : Prop :=
  ∀ ⦃ahead nests short long⦄, (ahead = .value ∨ nests ≠ []) → Left cut rest short long →
    Continues cut (Left cut rest) (go ahead nests short) (go' ahead nests long)

theorem behindValue_continues {go go' : Walk} (goesOn : GoesOn cut rest go go') {short long : List Char}
    (left : Left cut rest short long) :
    Continues cut (Left cut rest) (behindValue go nests short) (behindValue go' nests long) := by
  cases nests with
  | nil => exact .read left
  | cons nest outer => exact goesOn (.inr (List.cons_ne_nil _ _)) left

/-- Two walks go on alike behind a scalar. -/
theorem scalar_continues {go go' : Walk} (goesOn : GoesOn cut rest go go')
    (seam : Seam cut rest .outside (first :: more)) :
    Continues cut (Left cut rest) (do behindValue go nests (← skipScalar (first :: more)))
      (do behindValue go' nests (← skipScalar (first :: (more ++ rest)))) :=
  (skipScalar_continues seam).bind fun _ _ left => behindValue_continues goesOn left

theorem round_value {go go' : Walk} (goesOn : GoesOn cut rest go go')
    (seam : Seam cut rest .outside (first :: more)) :
    Continues cut (Left cut rest) (round go .value nests (first :: more))
      (round go' .value nests (first :: (more ++ rest))) := by
  -- Where a value is due, a bracket opens a level, and everything else is a scalar.
  by_cases list : first = '['
  · subst list
    exact goesOn (.inr (List.cons_ne_nil _ _)) (seam.outside (by decide)).left
  by_cases object : first = '\x7b'
  · subst object
    exact goesOn (.inr (List.cons_ne_nil _ _)) (seam.outside (by decide)).left
  -- A scalar is over at once, and the walk goes on behind it.
  have other : ∀ go text, round go .value nests (first :: text) = (do
      behindValue go nests (← skipScalar (first :: text))) := by
    intro go text
    rw [round] <;> simp [*]
  rw [other, other]
  exact scalar_continues goesOn seam

theorem skipToValue_continues (nest : Nest) (seam : Seam cut rest .outside text) :
    Continues cut (Left cut rest) (skipToValue nest text) (skipToValue nest (text ++ rest)) := by
  cases nest with
  | list => exact .read seam.left
  | object => exact skipName_continues seam

theorem round_close (go : Walk) (nest : Nest) (inside : ahead ≠ .value) (text : List Char) :
    round go ahead (nest :: outer) (nest.closing :: text) = behindValue go outer text := by
  cases ahead <;> cases nest <;> first | rfl | contradiction

theorem round_separator {go go' : Walk} (goesOn : GoesOn cut rest go go') {nest : Nest}
    (seam : Seam cut rest .outside (first :: more)) :
    Continues cut (Left cut rest) (round go .separator (nest :: outer) (first :: more))
      (round go' .separator (nest :: outer) (first :: (more ++ rest))) := by
  -- Behind a value the level is closed, a comma leads to the next one, and all else is refused.
  by_cases close : first = nest.closing
  · subst close
    rw [round_close _ _ (by decide), round_close _ _ (by decide)]
    exact behindValue_continues goesOn (seam.outside (by cases nest <;> decide)).left
  by_cases comma : first = ','
  · subst comma
    have next : ∀ go text, round go .separator (nest :: outer) (',' :: text) = (do
        go .value (nest :: outer) (← skipToValue nest text)) := by
      intro go text
      cases nest <;> rfl
    rw [next, next]
    exact (skipToValue_continues nest (seam.outside (by decide))).bind fun _ _ left =>
      goesOn (.inl rfl) left
  · -- Neither the bracket nor a comma, so both walks stop here.
    have failed : ∀ go text, round go .separator (nest :: outer) (first :: text) =
        .error (.malformed nest.flaw) := by
      intro go text
      rw [round.eq_def]
      cases nest <;> simp_all [Nest.closing]
    rw [failed, failed]
    exact .failed

theorem round_opening {go go' : Walk} (goesOn : GoesOn cut rest go go') {nest : Nest}
    (seam : Seam cut rest .outside (first :: more)) :
    Continues cut (Left cut rest) (round go .opening (nest :: outer) (first :: more))
      (round go' .opening (nest :: outer) (first :: (more ++ rest))) := by
  -- The bracket may close at once, and a first entry has no comma before it.
  by_cases close : first = nest.closing
  · subst close
    rw [round_close _ _ (by decide), round_close _ _ (by decide)]
    exact behindValue_continues goesOn (seam.outside (by cases nest <;> decide)).left
  cases nest with
  | list =>
    -- The first element of a list is a value like any other.
    have same : ∀ go text, round go .opening (.list :: outer) (first :: text) =
        round go .value (.list :: outer) (first :: text) := by
      intro go text
      by_cases list : first = '['
      · subst list
        rfl
      by_cases object : first = '\x7b'
      · subst object
        rfl
      rw [round.eq_def, round.eq_def]
      simp_all [Nest.closing]
    rw [same, same]
    exact round_value goesOn seam
  | object =>
    have next : ∀ go text, round go .opening (.object :: outer) (first :: text) = (do
        go .value (.object :: outer) (← skipName (first :: text))) := by
      intro go text
      rw [round.eq_def]
      simp_all [Nest.closing]
    rw [next, next]
    exact (skipName_continues seam).bind fun _ _ left => goesOn (.inl rfl) left

/-- One round goes on behind the seam as it does in the whole text, whatever stands next. -/
theorem round_continues {go go' : Walk} (goesOn : GoesOn cut rest go go')
    (due : ahead = .value ∨ nests ≠ []) (seam : Seam cut rest .outside (first :: more)) :
    Continues cut (Left cut rest) (round go ahead nests (first :: more))
      (round go' ahead nests (first :: (more ++ rest))) := by
  -- One case for each thing that can be due; brackets are open unless it is a value.
  cases ahead with
  | value => exact round_value goesOn seam
  | opening =>
    obtain ⟨nest, outer, rfl⟩ := List.exists_cons_of_ne_nil (due.resolve_left (by decide))
    exact round_opening goesOn seam
  | separator =>
    obtain ⟨nest, outer, rfl⟩ := List.exists_cons_of_ne_nil (due.resolve_left (by decide))
    exact round_separator goesOn seam

theorem round_nil (go : Walk) (due : ahead = .value ∨ nests ≠ []) :
    ∃ within, round go ahead nests [] = .error (.endsEarly within) := by
  -- Nothing stands for a value, and nothing closes a bracket.
  cases ahead with
  | value => exact ⟨_, rfl⟩
  | opening =>
    obtain ⟨nest, outer, rfl⟩ := List.exists_cons_of_ne_nil (due.resolve_left (by decide))
    exact ⟨nest.within, by cases nest <;> rfl⟩
  | separator =>
    obtain ⟨nest, outer, rfl⟩ := List.exists_cons_of_ne_nil (due.resolve_left (by decide))
    exact ⟨nest.within, by cases nest <;> rfl⟩

/-- The walk over a value, with any brackets open around it, goes on behind the seam. -/
theorem skipFrom_continues (due : ahead = .value ∨ nests ≠ [])
    (seam : Seam cut rest .outside text) :
    Continues cut (Left cut rest) (skipFrom ahead nests text)
      (skipFrom ahead nests (text ++ rest)) := by
  -- Both walks go on in texts that are shorter than the ones that they started from.
  induction length : text.length using Nat.strongRecOn generalizing text ahead nests with
  | ind length' ih =>
    subst length
    have goesOn : GoesOn cut rest (shorterWalk text.length) (shorterWalk (text ++ rest).length) := by
      rintro ahead nests short _ due ⟨rfl, seam⟩
      simp only [shorterWalk, List.length_append, Nat.add_lt_add_iff_right]
      split_ifs with shorter
      · exact ih _ shorter due seam rfl
      · exact .failed
    rw [skipFrom_eq, skipFrom_eq]
    -- One round is looked at with the walk that follows it as a parameter.
    rcases seam.gap with none | ⟨first, more, short, long, seam⟩
    · obtain ⟨within, ends⟩ := round_nil (shorterWalk text.length) due
      rw [none, ends]
      exact .early
    · rw [short, long]
      exact round_continues goesOn due seam

/-- The value before the seam is passed over whatever follows. -/
theorem skipValue_continues (seam : Seam cut rest .outside text) :
    Continues cut (Left cut rest) (skipValue text) (skipValue (text ++ rest)) :=
  skipFrom_continues (.inl rfl) seam

end Brackets

end InsightRelay.Json
