import InsightRelay.Proofs.Json.Number
import InsightRelay.Json.Skip

/-! Values that are passed over: every well-formed one is, whatever follows it.

The walk over a value keeps the open brackets on a stack, so the lemmas say what one part of a value does
to a walk with any brackets open around it. -/

namespace InsightRelay.Json

/-- The character that opens a bracket. -/
def Nest.opening : Nest → Char
  | list => '['
  | object => '\x7b'

/-- The character that closes a bracket. -/
def Nest.closing : Nest → Char
  | list => ']'
  | object => '\x7d'

/-- What is left to do behind a value: nothing, or to go on in the innermost bracket. -/
def afterValue (nests : List Nest) (rest : List Char) : Except Problem (List Char) :=
  if nests.isEmpty then .ok rest else skipFrom .separator nests rest

section Steps

variable {nests outer : List Nest} {nest : Nest} {gap text more rest : List Char}

theorem skipFrom_bracket (gapped : Gap gap) :
    skipFrom .value nests (gap ++ nest.opening :: rest) = skipFrom .opening (nest :: nests) rest := by
  -- One round: the gap is passed over, and the bracket opens another level.
  have head : skipGap (gap ++ nest.opening :: rest) = nest.opening :: rest := by
    rw [gapped.skip]
    cases nest <;> rfl
  have shorter : rest.length < (gap ++ nest.opening :: rest).length := by simp; omega
  rw [skipFrom.eq_def]
  simp only [head]
  cases nest <;> exact dif_pos shorter

theorem skipFrom_scalar {first : Char} (gapped : Gap gap) (opens : Opens (first :: more))
    (scalar : first ≠ '[' ∧ first ≠ '\x7b') (skipped : skipScalar (first :: more) = .ok rest)
    (shorter : rest.length ≤ more.length) :
    skipFrom .value nests (gap ++ first :: more) = afterValue nests rest := by
  have shorter : rest.length < gap.length + (more.length + 1) := by omega
  rw [skipFrom.eq_def]
  simp only [opens.skip gapped]
  simp [scalar, skipped, bind, Except.bind, afterValue, shorter]

/-- A bracket is closed before its first entry or behind its last one. -/
theorem skipFrom_close {ahead : Ahead} (inside : ahead ≠ .value) (gapped : Gap gap) :
    skipFrom ahead (nest :: outer) (gap ++ nest.closing :: rest) = afterValue outer rest := by
  -- One round: the gap is passed over, and the bracket closes the innermost level.
  have head : skipGap (gap ++ nest.closing :: rest) = nest.closing :: rest := by
    rw [gapped.skip]
    cases nest <;> rfl
  have shorter : rest.length < (gap ++ nest.closing :: rest).length := by simp; omega
  rw [skipFrom.eq_def]
  simp only [head]
  cases ahead <;> cases nest <;> simp_all [Nest.closing, afterValue]

/-- A comma is followed by the next entry. -/
theorem skipFrom_comma (gapped : Gap gap) (next : skipToValue nest text = .ok more)
    (shorter : more.length ≤ text.length) :
    skipFrom .separator (nest :: outer) (gap ++ ',' :: text) =
      skipFrom .value (nest :: outer) more := by
  -- One round: behind the comma the walk looks for the next value of the same level.
  have head : skipGap (gap ++ ',' :: text) = ',' :: text := by rw [gapped.skip]; rfl
  have shorter : more.length < (gap ++ ',' :: text).length := by simp; omega
  rw [skipFrom.eq_def]
  simp only [head]
  cases nest <;> simp only [next, bind, Except.bind] <;> exact dif_pos shorter

/-- The first element of a list is a value like any other. -/
theorem skipFrom_element (gapped : Gap gap) (opens : Opens text) :
    skipFrom .opening (.list :: outer) (gap ++ text) = skipFrom .value (.list :: outer) (gap ++ text) := by
  have head := opens.skip gapped
  obtain ⟨first, more, rfl, -, other⟩ := opens
  -- Both walks look at the same character, which opens a bracket or starts a scalar.
  rw [skipFrom.eq_def, skipFrom.eq_def .value]
  simp only [head]
  -- The closing bracket, which alone is told apart, does not start a value.
  by_cases list : first = '['
  · subst list
    rfl
  by_cases object : first = '\x7b'
  · subst object
    rfl
  simp [list, object, other]

/-- The first member of an object is its name with a value behind it. -/
theorem skipFrom_member {tail : List Char} (head : skipGap text = '"' :: tail)
    (named : skipName text = .ok more) (shorter : more.length < text.length) :
    skipFrom .opening (.object :: outer) text = skipFrom .value (.object :: outer) more := by
  -- The walk has skipped the gap already when it reads the name.
  have same : skipName ('"' :: tail) = .ok more := by
    rw [← named, skipName, skipName, head]
    rfl
  rw [skipFrom.eq_def]
  simp only [head]
  simp [same, bind, Except.bind, shorter]

end Steps

section Entries

variable {nests outer : List Nest} {nest : Nest} {gap text rest : List Char} {wholes : List (List Char)}

/-- A text is passed over as a value, whatever stands around it. -/
def Passed (text : List Char) : Prop :=
  ∀ ⦃nests gap rest⦄, Gap gap → Ends rest →
    skipFrom .value nests (gap ++ (text ++ rest)) = afterValue nests rest

/-- A text is passed over as an entry of a bracket, be it the first one or a later one. -/
structure PassedEntry (nest : Nest) (whole : List Char) : Prop where
  first : ∀ {gap} outer rest, Gap gap → Ends rest → ∃ after, Gap after ∧
    skipFrom .opening (nest :: outer) (gap ++ (whole ++ rest)) =
      skipFrom .separator (nest :: outer) (after ++ rest)
  next : ∀ {gap} outer rest, Gap gap → Ends rest → ∃ after, Gap after ∧
    skipFrom .separator (nest :: outer) (gap ++ ',' :: (whole ++ rest)) =
      skipFrom .separator (nest :: outer) (after ++ rest)

/-- No number goes on in what follows an entry. -/
theorem ends_following (nest : Nest) (wholes : List (List Char)) (rest : List Char) :
    Ends (following wholes ++ nest.closing :: rest) := by
  -- What comes next is a comma or the closing bracket.
  cases wholes with
  | nil => cases nest <;> exact .cons (by decide)
  | cons whole wholes => exact .cons (by decide)

/-- The entries of a bracket are passed over one after the other. -/
theorem skip_following (entries : ∀ whole ∈ wholes, PassedEntry nest whole) (gapped : Gap gap) :
    skipFrom .separator (nest :: outer) (gap ++ (following wholes ++ nest.closing :: rest)) =
      afterValue outer rest := by
  -- Each entry leaves a gap before the next comma, so the gap varies in the induction.
  induction wholes generalizing gap with
  | nil => exact skipFrom_close (by decide) gapped
  | cons whole wholes ih =>
    obtain ⟨entry, others⟩ := List.forall_mem_cons.1 entries
    obtain ⟨after, afterGap, same⟩ := entry.next outer _ gapped (ends_following nest wholes rest)
    rw [following_cons, List.cons_append, List.append_assoc, same]
    exact ih others afterGap

/-- A bracket is passed over when its entries are. -/
theorem passed_bracket (nest : Nest) (entries : ∀ whole ∈ wholes, PassedEntry nest whole)
    (gapped : Gap gap) : Passed (nest.opening :: gap ++ separated wholes ++ [nest.closing]) := by
  intro nests before rest beforeGap _
  simp only [List.cons_append, List.append_assoc, List.nil_append]
  rw [skipFrom_bracket beforeGap]
  -- The first entry has no comma before it.
  cases wholes with
  | nil => exact skipFrom_close (by decide) gapped
  | cons whole wholes =>
    obtain ⟨entry, others⟩ := List.forall_mem_cons.1 entries
    obtain ⟨after, afterGap, same⟩ := entry.first nests _ gapped (ends_following nest wholes rest)
    rw [separated, List.append_assoc, same]
    exact skip_following others afterGap

/-- A value is passed over as an element of a list. -/
theorem passedEntry_item {item : Padded} (opens : Opens item.text) (passed : Passed item.text) :
    PassedEntry .list item.whole where
  first := by
    intro gap outer rest gapped ends
    refine ⟨item.after, item.gapAfter, ?_⟩
    -- In front of the first element the gap of the list and that of the element are one.
    have before := gapped.append item.gapBefore
    rw [item.whole_append, ← List.append_assoc, skipFrom_element before (opens.append _)]
    exact passed before (ends.behind item.gapAfter)
  next := by
    intro gap outer rest gapped ends
    refine ⟨item.after, item.gapAfter, ?_⟩
    -- Behind a comma nothing but the value is looked for.
    have next : skipToValue .list (item.whole ++ rest) = .ok (item.whole ++ rest) := rfl
    rw [skipFrom_comma gapped next (Nat.le_refl _), item.whole_append]
    exact passed item.gapBefore (ends.behind item.gapAfter)

theorem colon_gap (gapped : Gap gap) : colon (gap ++ ':' :: rest) = .ok rest :=
  afterMark_gap (by decide) gapped

/-- The name of a member is passed over together with its colon. -/
theorem skipName_member {member : Member} (named : PassedText member.name) (gapped : Gap gap) :
    skipName (gap ++ (member.whole ++ rest)) = .ok (member.value.whole ++ rest) := by
  obtain ⟨tail, same, skip⟩ := named.skip
  have quote : ∀ text, skipGap ('"' :: text) = '"' :: text := fun _ => rfl
  rw [member.whole_append, skipName, gapped.skip, member.gapBefore.skip, same, List.cons_append, quote]
  simp only [skip, bind, Except.bind, colon_gap member.gapAfter]

/-- A name with a value is passed over as a member of an object. -/
theorem passedEntry_member {member : Member} (named : PassedText member.name)
    (passed : Passed member.value.text) : PassedEntry .object member.whole where
  first := by
    intro gap outer rest gapped ends
    refine ⟨member.value.after, member.value.gapAfter, ?_⟩
    have named' : skipName (gap ++ (member.whole ++ rest)) = .ok (member.value.whole ++ rest) :=
      skipName_member named gapped
    have shorter : (member.value.whole ++ rest).length < (gap ++ (member.whole ++ rest)).length := by
      simp [Member.whole]; omega
    -- The quote of its name is what tells a member from a closing bracket.
    obtain ⟨tail, same, -⟩ := named.skip
    have head : skipGap (gap ++ (member.whole ++ rest)) = '"' ::
        (tail ++ (member.after ++ ':' :: (member.value.whole ++ rest))) := by
      rw [gapped.skip, member.whole_append, member.gapBefore.skip, same]
      rfl
    rw [skipFrom_member head named' shorter, member.value.whole_append]
    exact passed member.value.gapBefore (ends.behind member.value.gapAfter)
  next := by
    intro gap outer rest gapped ends
    refine ⟨member.value.after, member.value.gapAfter, ?_⟩
    -- Behind a comma the name and its colon come before the value.
    have next : skipToValue .object (member.whole ++ rest) = .ok (member.value.whole ++ rest) :=
      skipName_member named .nil
    have shorter : (member.value.whole ++ rest).length ≤ (member.whole ++ rest).length := by
      simp [Member.whole]; omega
    rw [skipFrom_comma gapped next shorter, member.value.whole_append]
    exact passed member.value.gapBefore (ends.behind member.value.gapAfter)

end Entries

section Values

variable {text : List Char}

theorem WellFormed.opens (formed : WellFormed text) : Opens text := by
  -- Every kind of value has a first character of its own, and no gap starts with any of them.
  cases formed with
  | word listed =>
    rcases listed with rfl | rfl | rfl <;> exact .cons (by decide)
  | text passed =>
    -- A text starts with its quote.
    obtain ⟨tail, rfl, -⟩ := passed.skip
    exact .cons (by decide)
  | number number =>
    obtain ⟨first, more, rfl, start⟩ := number.head
    exact start.opens more
  | list gapped elements => exact .cons (by decide)
  | object gapped names values => exact .cons (by decide)

/-- A scalar is passed over when it is skipped by itself. -/
theorem passed_scalar {first : Char} {more : List Char} (opens : Opens (first :: more))
    (scalar : first ≠ '[' ∧ first ≠ '\x7b')
    (skipped : ∀ rest, Ends rest → skipScalar (first :: more ++ rest) = .ok rest) :
    Passed (first :: more) := by
  intro nests gap rest gapped ends
  exact skipFrom_scalar gapped (opens.append rest) scalar (skipped rest ends) (by simp)

/-- A well-formed value is passed over. -/
theorem WellFormed.passed (formed : WellFormed text) : Passed text := by
  -- Brackets are passed over entry by entry, and scalars at once.
  induction formed with
  | word listed =>
    rcases listed with rfl | rfl | rfl <;>
      exact passed_scalar (.cons (by decide)) (by decide) fun rest _ => rfl
  | text passed =>
    obtain ⟨tail, rfl, skip⟩ := passed.skip
    refine passed_scalar (.cons (by decide)) (by decide) fun rest _ => ?_
    exact skip rest
  | number number =>
    obtain ⟨first, more, rfl, start⟩ := number.head
    have other := start.other
    refine passed_scalar (start.opens more) (by simp [other]) fun rest ends => ?_
    have skip := number.skip ends
    rw [List.cons_append] at skip ⊢
    simpa [skipScalar, other, show (first == '-' || first.isDigit) = true from start] using skip
  | list gapped elements ih =>
    refine passed_bracket .list (fun whole member => ?_) gapped
    obtain ⟨item, inside, rfl⟩ := List.mem_map.1 member
    -- The induction gives that each of the values inside is passed over.
    exact passedEntry_item (elements item inside).opens (ih item inside)
  | object gapped names _ ih =>
    refine passed_bracket .object (fun whole member => ?_) gapped
    obtain ⟨entry, inside, rfl⟩ := List.mem_map.1 member
    exact passedEntry_member (names entry inside) (ih entry inside)

/-- A well-formed value is skipped whole. -/
theorem WellFormed.skip {gap rest : List Char} (formed : WellFormed text) (gapped : Gap gap)
    (ends : Ends rest) : skipValue (gap ++ (text ++ rest)) = .ok rest :=
  formed.passed gapped ends

end Values

end InsightRelay.Json
