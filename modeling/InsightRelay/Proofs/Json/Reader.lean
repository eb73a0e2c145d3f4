import InsightRelay.Proofs.Json.Skip
import InsightRelay.Json.Reader

/-! Typed readers give back the values of the texts that they read.

A reader reads a form when it takes each text of the form, with a gap before it, for the value that the
text stands for, and leaves what follows. -/

namespace InsightRelay.Json

variable {α β : Type}

/-- A reader gives back each value from every text of a form, whatever follows the text. -/
structure Reads (read : Reader α) (form : Form α) : Prop where
  opens : ∀ ⦃value text⦄, form value text → Opens text
  reads : ∀ ⦃value text gap rest⦄, form value text → Gap gap → Ends rest →
    read (gap ++ (text ++ rest)) = .ok (value, rest)

section Scalars

variable {read : Reader α} {form : Form α}

/-- A string is read from each of its forms. -/
theorem reads_text (wanted : Wanted) : Reads (text wanted) TextForm where
  opens := by
    rintro value written ⟨body, -, rfl⟩
    exact .cons (by decide)
  reads := by
    intro value written gap rest formed gapped _
    obtain ⟨tail, rfl, body⟩ := formed.read
    -- The gap is passed over first, and then the quote tells that a string follows.
    have head : skipGap (gap ++ ('"' :: tail ++ rest)) = '"' :: (tail ++ rest) := by
      rw [gapped.skip]
      rfl
    simp only [text, head, body, bind, Except.bind, String.ofList_toList]

/-- An integer of sixty-four bits is read from its digits. -/
theorem reads_integer : Reads (fun source =>
    (integer .integer64 source).map fun (value, rest) => (Int64.ofInt value, rest)) IntegerForm where
  opens := by
    rintro value written rfl
    -- The first character is a digit or the minus sign, and no gap starts with either.
    obtain ⟨first, more, same, start⟩ := head_toString value.toInt
    rw [same]
    exact start.opens more
  reads := by
    intro value written gap rest formed gapped ends
    rw [formed.read gapped ends]
    simp [Except.map]

/-- No text of a form starts as null does. -/
def NeverNull (form : Form α) : Prop :=
  ∀ ⦃value text⦄, form value text → text.head? ≠ some 'n'

theorem neverNull_text : NeverNull TextForm := by
  rintro value text ⟨body, -, rfl⟩
  simp

theorem neverNull_integer : NeverNull IntegerForm := by
  rintro value text rfl
  obtain ⟨first, more, same, start⟩ := head_toString value.toInt
  rw [same]
  simp [start.other]

theorem neverNull_list : NeverNull (ListForm form) := by
  rintro values text ⟨gap, items, -, -, rfl⟩
  simp [listText]

theorem neverNull_entries : NeverNull (EntriesForm form) := by
  rintro entries text ⟨gap, members, -, -, rfl⟩
  simp [objectText]

theorem neverNull_record {fields : List (FieldForm α)} : NeverNull (RecordForm fields) := by
  rintro value text (_ | _) <;> simp [listText, objectText]

/-- A value that may be missing is read from null and from each form of the value. -/
theorem Reads.optional (reads : Reads read form) (never : NeverNull form) :
    Reads (optional read) (OptionalForm form) where
  opens := by
    rintro (_ | value) written formed
    · subst formed
      exact .cons (by decide)
    · exact reads.opens formed
  reads := by
    rintro (_ | value) written gap rest formed gapped ends
    · subst formed
      -- Null is told by its first letter.
      rw [Json.optional, gapped.skip]
      rfl
    · -- The first character is not that of null, so the value is read.
      have head := ((reads.opens formed).append rest).skip gapped
      have same := reads.reads formed .nil ends
      obtain ⟨first, more, rfl, -, -⟩ := reads.opens formed
      have differs : first ≠ 'n' := fun same => never formed (by rw [same]; rfl)
      rw [List.nil_append] at same
      simp only [Json.optional, head]
      simp_all [bind, Except.bind]

end Scalars

section Rows

variable {read : Reader α} {form : Form α} {gap rest : List Char} {wholes : List (List Char)}

/-- The entries of a bracket from the first one on, or from a later one on. -/
def row (first : Bool) (wholes : List (List Char)) : List Char :=
  if first then separated wholes else following wholes

/-- A list starts with its bracket, and its elements follow. -/
theorem skipGap_listText (gapped : Gap gap) (inner : List Char) (items : List Padded) :
    skipGap (gap ++ (listText inner items ++ rest)) =
      '[' :: (inner ++ (row true (items.map Padded.whole) ++ ']' :: rest)) := by
  rw [gapped.skip]
  simp [listText, row, skipGap, isGap]

/-- An object starts with its bracket, and its members follow. -/
theorem skipGap_objectText (gapped : Gap gap) (inner : List Char) (list : List Member) :
    skipGap (gap ++ (objectText inner list ++ rest)) =
      '\x7b' :: (inner ++ (row true (list.map Member.whole) ++ '\x7d' :: rest)) := by
  rw [gapped.skip]
  simp [objectText, row, skipGap, isGap]

/-- The next element of a list starts behind the comma and the gaps before it. -/
theorem nextElement_row (first : Bool) {item : Padded} (opens : Opens item.text) (gapped : Gap gap) :
    nextElement first (gap ++ (row first (item.whole :: wholes) ++ rest)) =
      .ok (some (item.text ++ (item.after ++ (following wholes ++ rest)))) := by
  -- Only a later element has a comma before it, with a gap on either side.
  have begins := opens.append (item.after ++ (following wholes ++ rest))
  have head := begins.skip item.gapBefore
  obtain ⟨start, more, same, -, other⟩ := begins
  rw [same] at head ⊢
  cases first with
  | true =>
    rw [nextElement, gapped.skip, row, if_pos rfl, separated, List.append_assoc, item.whole_append, same,
      head]
    simp [other]
  | false =>
    -- A comma is no gap, so it is met at once.
    have comma : ∀ text, skipGap (',' :: text) = ',' :: text := fun _ => rfl
    rw [nextElement, gapped.skip, row, if_neg Bool.false_ne_true, following_cons, List.cons_append,
      List.append_assoc, item.whole_append, comma, same]
    simp [head, other]

theorem nextElement_close (first : Bool) (gapped : Gap gap) :
    nextElement first (gap ++ ']' :: rest) = .ok none := by
  rw [nextElement, gapped.skip]
  rfl

theorem closeList_gap (gapped : Gap gap) : closeList (gap ++ ']' :: rest) = .ok rest := by
  rw [closeList, gapped.skip]
  rfl

/-- The elements of a list are read up to its end. -/
theorem elements_row {values : List α} {items : List Padded} (first : Bool) (rest : List Char)
    (reads : Reads read form)
    (written : List.Forall₂ (fun value (item : Padded) => form value item.text) values items)
    (gapped : Gap gap) : ∃ after, Gap after ∧
      elements read first (gap ++ (row first (items.map Padded.whole) ++ ']' :: rest)) =
        .ok (values, after ++ ']' :: rest) := by
  -- The first element stands alone and each later one behind a comma, so both vary in the induction.
  induction written generalizing first gap with
  | nil =>
    refine ⟨gap, gapped, ?_⟩
    have empty : row first ([].map Padded.whole) = [] := by cases first <;> rfl
    rw [empty, List.nil_append, elements, nextElement_close first gapped]
    rfl
  | @cons value item values items formed _ ih =>
    obtain ⟨after, afterGap, same⟩ := ih false item.gapAfter
    refine ⟨after, afterGap, ?_⟩
    have ends : Ends (following (items.map Padded.whole) ++ ']' :: rest) := ends_following .list _ rest
    have value_ := reads.reads formed .nil (ends.behind item.gapAfter)
    rw [List.nil_append] at value_
    -- An element has a first character, so the text gets shorter with it.
    have shorter : (item.after ++ (following (items.map Padded.whole) ++ ']' :: rest)).length <
        (gap ++ (row first (item.whole :: items.map Padded.whole) ++ ']' :: rest)).length := by
      obtain ⟨start, more, text, -, -⟩ := reads.opens formed
      cases first <;> simp [row, separated, following_cons, Padded.whole, text] <;> omega
    rw [elements, List.map_cons, nextElement_row first (reads.opens formed) gapped]
    simp only [value_, bind, Except.bind, dif_pos shorter]
    rw [row, if_neg Bool.false_ne_true] at same
    simp only [same]

/-- A list is read from its elements, each in one of its forms. -/
theorem Reads.list (reads : Reads read form) : Reads (list read) (ListForm form) where
  opens := by
    rintro values text ⟨gap, items, -, -, rfl⟩
    exact .cons (by decide)
  reads := by
    rintro values text gap rest ⟨inner, items, innerGap, written, rfl⟩ gapped _
    -- The elements leave the gap in front of the closing bracket.
    obtain ⟨after, afterGap, same⟩ := elements_row true rest reads written innerGap
    rw [Json.list, skipGap_listText gapped]
    simp only [same, bind, Except.bind, closeList_gap afterGap]

/-- The name of the next member stands behind the comma and the gaps before it. -/
theorem nextName_row (first : Bool) {name : String} {member : Member} (named : TextForm name member.name)
    (gapped : Gap gap) : nextName first (gap ++ (row first (member.whole :: wholes) ++ rest)) =
      .ok (some (name, member.after ++ ':' :: (member.value.whole ++ (following wholes ++ rest)))) := by
  -- As for elements, where the quote of the name is what is looked for.
  obtain ⟨tail, same, body⟩ := named.read
  have head : ∀ text, skipGap (member.before ++ '"' :: text) = '"' :: text := fun text => by
    rw [member.gapBefore.skip]
    rfl
  have name_ : ∀ text, nextName.name (tail ++ text) = .ok (some (name, text)) := fun text => by
    simp only [nextName.name, body, bind, Except.bind, String.ofList_toList]
  cases first with
  | true =>
    rw [nextName, gapped.skip, row, if_pos rfl, separated, List.append_assoc, member.whole_append, same,
      List.cons_append, head]
    -- The first name has nothing but a gap before it.
    exact name_ _
  | false =>
    have comma : ∀ text, skipGap (',' :: text) = ',' :: text := fun _ => rfl
    rw [nextName, gapped.skip, row, if_neg Bool.false_ne_true, following_cons, List.cons_append,
      List.append_assoc, member.whole_append, comma, same]
    simp only [List.cons_append, head]
    exact name_ _

theorem nextName_close (first : Bool) (gapped : Gap gap) :
    nextName first (gap ++ '\x7d' :: rest) = .ok none := by
  rw [nextName, gapped.skip]
  rfl

theorem closeObject_gap (gapped : Gap gap) : closeObject (gap ++ '\x7d' :: rest) = .ok rest :=
  afterMark_gap (by decide) gapped

/-- What follows a member is shorter than the row of members that starts with it. -/
theorem after_member_shorter (gap : List Char) (first : Bool) (member : Member)
    (wholes : List (List Char)) (rest : List Char) :
    (member.value.after ++ (following wholes ++ rest)).length <
      (gap ++ (row first (member.whole :: wholes) ++ rest)).length := by
  cases first <;> simp [row, separated, following_cons, Member.whole, Padded.whole] <;> omega

/-- The members of an object are read up to its end. -/
theorem members_row {entries : List (String × α)} {list : List Member} (first : Bool) (rest : List Char)
    (reads : Reads read form)
    (written : List.Forall₂ (fun entry (member : Member) => TextForm entry.1 member.name ∧
      form entry.2 member.value.text) entries list) (gapped : Gap gap) : ∃ after, Gap after ∧
      members read first (gap ++ (row first (list.map Member.whole) ++ '\x7d' :: rest)) =
        .ok (entries, after ++ '\x7d' :: rest) := by
  -- As for lists, with a name and a colon before each value.
  induction written generalizing first gap with
  | nil =>
    refine ⟨gap, gapped, ?_⟩
    have empty : row first ([].map Member.whole) = [] := by cases first <;> rfl
    rw [empty, List.nil_append, members, nextName_close first gapped]
    rfl
  | @cons entry member entries list formed _ ih =>
    obtain ⟨after, afterGap, same⟩ := ih false member.value.gapAfter
    refine ⟨after, afterGap, ?_⟩
    have ends : Ends (following (list.map Member.whole) ++ '\x7d' :: rest) := ends_following .object _ rest
    have value_ := reads.reads formed.2 member.value.gapBefore (ends.behind member.value.gapAfter)
    have shorter := after_member_shorter gap first member (list.map Member.whole) ('\x7d' :: rest)
    -- Name, colon and value are read in turn, and the others from what is left.
    rw [members, List.map_cons, nextName_row first formed.1 gapped]
    simp only [bind, Except.bind, colon_gap member.gapAfter, member.value.whole_append, value_,
      dif_pos shorter]
    rw [row, if_neg Bool.false_ne_true] at same
    simp only [same]

/-- An object whose names are data is read from its entries, each in one of its forms. -/
theorem Reads.entries (reads : Reads read form) : Reads (dictionary read) (EntriesForm form) where
  opens := by
    rintro entries text ⟨gap, members, -, -, rfl⟩
    exact .cons (by decide)
  reads := by
    rintro entries text gap rest ⟨inner, list, innerGap, written, rfl⟩ gapped _
    -- The entries leave the gap in front of the closing bracket.
    obtain ⟨after, afterGap, same⟩ := members_row true rest reads written innerGap
    rw [dictionary, skipGap_objectText gapped]
    simp only [same, bind, Except.bind, closeObject_gap afterGap]

end Rows

section Variants

variable {gap rest : List Char}

/-- The name of a variant is read from its string. -/
theorem variantName_read {name : String} {text : List Char} (named : TextForm name text)
    (gapped : Gap gap) : variantName (gap ++ (text ++ rest)) = .ok (name, rest) := by
  obtain ⟨tail, rfl, body⟩ := named.read
  have head : ∀ text, skipGap ('"' :: text) = '"' :: text := fun _ => rfl
  rw [variantName, gapped.skip, List.cons_append, head]
  simp only [body, bind, Except.bind, String.ofList_toList]

/-- A variant is read from its name and from an object that maps its name to null. -/
theorem reads_variant : Reads variant VariantForm where
  opens := by
    rintro name text (⟨body, -, rfl⟩ | ⟨gap, member, -, -, -, rfl⟩)
    · exact .cons (by decide)
    · exact .cons (by decide)
  reads := by
    rintro name text gap rest (named | ⟨inner, member, innerGap, named, empty, rfl⟩) gapped _
    · obtain ⟨tail, rfl, body⟩ := named.read
      -- The quote tells a bare name from an object.
      have head : ∀ text, skipGap ('"' :: text) = '"' :: text := fun _ => rfl
      rw [variant, gapped.skip, List.cons_append, head]
      simp only [body, bind, Except.bind, String.ofList_toList]
    · -- The object has one member, whose name is read as if it stood alone.
      have before := innerGap.append member.gapBefore
      have null_ : null (member.value.before ++ ("null".toList ++
          (member.value.after ++ '\x7d' :: rest))) = .ok ((), member.value.after ++ '\x7d' :: rest) := by
        rw [null, member.value.gapBefore.skip]
        rfl
      have close : afterMark '\x7d' .object (fun _ => .valueWanted)
          (member.value.after ++ '\x7d' :: rest) = .ok rest :=
        afterMark_gap (by decide) member.value.gapAfter
      have alone : row true ([member].map Member.whole) = member.whole := List.append_nil _
      rw [variant, skipGap_objectText gapped, alone]
      simp only [member.whole_append, ← List.append_assoc inner, variantName_read named before, bind,
        Except.bind, colon_gap member.gapAfter, member.value.whole_append, empty, null_, close]

end Variants

/-- A whole text that holds a value of a form with gaps around it is read as that value. -/
theorem Reads.whole {read : Reader α} {form : Form α} (reads : Reads read form) {value : α}
    {document : Padded} (written : form value document.text) :
    whole read document.whole = .ok value := by
  -- Behind the value there is nothing but the gap after it, which is what a whole text asks for.
  have same := reads.reads written document.gapBefore (Ends.nil.behind document.gapAfter)
  rw [List.append_nil] at same
  have empty : skipGap document.after = [] := by
    rw [← List.append_nil document.after, document.gapAfter.skip]
    rfl
  rw [Json.whole, Padded.whole, List.append_assoc, same]
  simp [bind, Except.bind, empty]

end InsightRelay.Json
