import InsightRelay.Proofs.Json.Reader
import InsightRelay.Proofs.Record
import InsightRelay.Json.Record

/-! Records give back the values of the texts that they read, written as objects or as lists.

Fields may come in any order and some may be missing, so the record that is being read is described by the
names given so far: it has their fields of the value and all other fields of the blank record. -/

namespace InsightRelay.Json

variable {α : Type}

/-- A field of a record, as it is read, as it is written, and as it is copied between records. -/
structure Slot (α : Type) where
  field : Field α
  form : FieldForm α
  /-- The second record with this field of the first one. -/
  copy : α → α → α

namespace Slot

variable {β : Type}

/-- A field that is always written. -/
def needed (name : String) (read : Reader β) (form : Form β) (get : α → β) (set : β → α → α) : Slot α where
  field := .needed name read set
  form := .needed name form get
  copy := fun value => set (get value)

/-- A field that may be left out where it holds its default. -/
def defaulted (name : String) (default : β) (read : Reader β) (form : Form β) (get : α → β)
    (set : β → α → α) : Slot α where
  field := .defaulted name read set
  form := .defaulted name default form get
  copy := fun value => set (get value)

/-- What is read of a field is what is written of it, and it is left out only where the blank record has
the same. -/
structure Fits (slot : Slot α) (blank : α) : Prop where
  name : slot.field.name = slot.form.name
  given : ∀ ⦃value⦄, slot.form.idle value → slot.field.required = false
  opens : ∀ ⦃value text⦄, slot.form.form value text → Opens text
  reads : ∀ ⦃value text gap rest⦄, slot.form.form value text → Gap gap → Ends rest →
    slot.field.read (gap ++ (text ++ rest)) = .ok (slot.copy value, rest)
  idle : ∀ ⦃value⦄, slot.form.idle value → slot.copy value = slot.copy blank

variable {name : String} {default : β} {read : Reader β} {form : Form β} {get : α → β}
  {set : β → α → α} {blank : α}

theorem needed_fits (reads : Reads read form) :
    (needed name read form get set).Fits blank where
  name := rfl
  given := fun _ never => never.elim
  opens := fun _ _ written => reads.opens written
  reads := by
    intro value text gap rest written gapped ends
    simp only [needed, Field.needed, reads.reads written gapped ends, Except.map]
  idle := fun _ never => never.elim

theorem defaulted_fits (reads : Reads read form) (unset : get blank = default) :
    (defaulted name default read form get set).Fits blank where
  name := rfl
  given := fun _ _ => rfl
  opens := fun _ _ written => reads.opens written
  reads := by
    intro value text gap rest written gapped ends
    simp only [defaulted, Field.defaulted, reads.reads written gapped ends, Except.map]
  idle := fun value same => congrArg set ((show get value = default from same).trans unset.symm)

end Slot

/-- A record type consists of slots: they fit it, do not disturb each other, and make up the record. -/
structure Layout.MadeOf (layout : Layout α) (slots : List (Slot α)) : Prop where
  fields : layout.fields = slots.map Slot.field
  fits : ∀ slot ∈ slots, slot.Fits layout.blank
  covers : ∀ slot ∈ slots, ∀ value other record,
    slot.copy value (slot.copy other record) = slot.copy value record
  distinct : slots.Pairwise fun left right => left.form.name ≠ right.form.name
  apart : slots.Pairwise fun left right => ∀ value other record,
    left.copy value (right.copy other record) = right.copy other (left.copy value record)
  whole : ∀ value, slots.foldl (fun record slot => slot.copy value record) layout.blank = value

/-- The part of the record that a slot is about. -/
def Slot.part (slot : Slot α) : Part α where
  name := slot.form.name
  idle := slot.form.idle
  copy := slot.copy

namespace Layout.MadeOf

variable {layout : Layout α} {slots : List (Slot α)} (made : layout.MadeOf slots) {value : α}

section Filling

/-- The record with the given fields of a value and all others blank. -/
def filled (layout : Layout α) (slots : List (Slot α)) (value : α) (given : List String) : α :=
  slots.foldl (fun record slot =>
    slot.copy (if slot.form.name ∈ given then value else layout.blank) record) layout.blank

theorem filled_eq (given : List String) : filled layout slots value given =
    Part.filled layout.blank (slots.map Slot.part) value given := by
  rw [Part.filled, List.foldl_map]
  rfl

include made

/-- The slots of a record make it up. -/
theorem makeUp : Part.MakeUp layout.blank (slots.map Slot.part) where
  idle := List.forall_mem_map.2 fun slot member _ idle => (made.fits slot member).idle idle
  covers := List.forall_mem_map.2 made.covers
  distinct := List.pairwise_map.2 made.distinct
  apart := List.pairwise_map.2 made.apart
  whole := fun value => List.foldl_map.trans (made.whole value)

theorem filled_nil : filled layout slots value [] = layout.blank := by
  rw [filled_eq, made.makeUp.filled_nil]

/-- A record is complete when every field that is not given is idle. -/
theorem filled_complete {given : List String}
    (complete : ∀ slot ∈ slots, slot.form.idle value ∨ slot.form.name ∈ given) :
    filled layout slots value given = value := by
  rw [filled_eq, made.makeUp.filled_complete (List.forall_mem_map.2 complete)]

/-- Copying a field of the value adds it to the given ones. -/
theorem copy_filled {slot : Slot α} (member : slot ∈ slots) (given : List String) :
    slot.copy value (filled layout slots value given) =
      filled layout slots value (slot.form.name :: given) := by
  rw [filled_eq, filled_eq]
  exact made.makeUp.copy_filled (List.mem_map_of_mem member) given

end Filling

section Reading

variable {given : List String} {gap rest : List Char}

include made

/-- Fields that are left out at the end of a list are not missed. -/
theorem fromElements_left {left : List (Slot α)} (known : ∀ slot ∈ left, slot ∈ slots)
    (idle : ∀ slot ∈ left, slot.form.idle value) (first : Bool) (index : Nat) (record : α)
    (gapped : Gap gap) :
    layout.fromElements first record index (left.map Slot.field) (gap ++ ']' :: rest) =
      .ok (record, gap ++ ']' :: rest) := by
  -- The closing bracket is met at the first field left out, and each of the others has its default.
  induction left generalizing index with
  | nil => rfl
  | cons slot left ih =>
    have ⟨slot_, others⟩ := List.forall_mem_cons.1 known
    have ⟨here, later⟩ := List.forall_mem_cons.1 idle
    rw [List.map_cons, fromElements, nextElement_close first gapped]
    simp only [bind, Except.bind, (made.fits slot slot_).given here, Bool.false_eq_true, if_false]
    exact ih others later (index + 1)

/-- The fields in a list are read in their order. -/
theorem fromElements_row {kept left : List (Slot α)} {items : List Padded}
    (known : ∀ slot ∈ kept ++ left, slot ∈ slots)
    (written : List.Forall₂ (fun slot (item : Padded) => slot.form.form value item.text) kept items)
    (idle : ∀ slot ∈ left, slot.form.idle value) (first : Bool) (index : Nat) (given : List String)
    (gapped : Gap gap) (rest : List Char) : ∃ after, Gap after ∧
      layout.fromElements first (filled layout slots value given) index ((kept ++ left).map Slot.field)
        (gap ++ (row first (items.map Padded.whole) ++ ']' :: rest)) =
      .ok (filled layout slots value ((kept.map (·.form.name)).reverse ++ given),
        after ++ ']' :: rest) := by
  -- Each element adds the name of its field to the given ones.
  induction written generalizing first index given gap with
  | nil =>
    refine ⟨gap, gapped, ?_⟩
    have empty : row first ([].map Padded.whole) = [] := by cases first <;> rfl
    rw [empty]
    exact made.fromElements_left known idle first index _ gapped
  | @cons slot item kept items formed _ ih =>
    have ⟨member, others⟩ := List.forall_mem_cons.1 known
    have fits := made.fits slot member
    obtain ⟨after, afterGap, same⟩ := ih others false (index + 1) (slot.form.name :: given) item.gapAfter
    refine ⟨after, afterGap, ?_⟩
    have ends : Ends (following (items.map Padded.whole) ++ ']' :: rest) := ends_following .list _ rest
    -- The gap behind the element belongs to what follows it.
    have change := fits.reads formed .nil (ends.behind item.gapAfter)
    rw [List.nil_append] at change
    rw [List.cons_append, List.map_cons, List.map_cons, fromElements,
      nextElement_row first (fits.opens formed) gapped]
    simp only [change, bind, Except.bind, made.copy_filled member]
    rw [row, if_neg Bool.false_ne_true] at same
    rw [same]
    simp

/-- No field is missed that is given or idle. -/
theorem missing_eq_none (complete : ∀ slot ∈ slots, slot.form.idle value ∨ slot.form.name ∈ given) :
    layout.missing? given = none := by
  -- A field that is idle has a default, and one that is given is not asked for one.
  rw [missing?, made.fields, Option.map_eq_none_iff, List.find?_eq_none]
  intro field member
  obtain ⟨slot, inside, rfl⟩ := List.mem_map.1 member
  have fits := made.fits slot inside
  rcases complete slot inside with idle | here
  · simp [fits.given idle]
  · simp [fits.name, here]

/-- A field is found by its name. -/
theorem find?_slot {slot : Slot α} (inside : slot ∈ slots) :
    layout.fields.find? (fun field => field.name == slot.form.name) = some slot.field := by
  -- Some field of the name is found, and names are distinct.
  have found : (slots.find? fun other => other.field.name == slot.form.name).isSome := by
    rw [List.find?_isSome]
    exact ⟨slot, inside, by simp [(made.fits slot inside).name]⟩
  obtain ⟨other, search⟩ := Option.isSome_iff_exists.1 found
  have other_ := List.mem_of_find?_eq_some search
  -- What is found has the name as well, and only one slot does.
  have same : other.form.name = slot.form.name := by
    rw [← (made.fits other other_).name]
    simpa using List.find?_some search
  have equal : other = slot :=
    List.inj_on_of_nodup_map (List.pairwise_map.2 made.distinct) other_ inside same
  rw [made.fields, List.find?_map, ← equal]
  rw [← equal] at search
  exact congrArg (Option.map Slot.field) search

/-- No field is found by a strange name. -/
theorem find?_strange {name : String} (strange : ∀ slot ∈ slots, slot.form.name ≠ name) :
    layout.fields.find? (fun field => field.name == name) = none := by
  rw [made.fields, List.find?_eq_none]
  intro field member
  obtain ⟨slot, inside, rfl⟩ := List.mem_map.1 member
  simpa [(made.fits slot inside).name] using strange slot inside

/-- A member gives the field of its name. -/
theorem fromMembers_slot {slot : Slot α} (inside : slot ∈ slots) {member : Member}
    (named : TextForm slot.form.name member.name) (written : slot.form.form value member.value.text)
    (fresh : slot.form.name ∉ given) (first : Bool) (gapped : Gap gap) {wholes : List (List Char)}
    (ends : Ends (following wholes ++ rest)) :
    layout.fromMembers first (filled layout slots value given) given
        (gap ++ (row first (member.whole :: wholes) ++ rest)) =
      layout.fromMembers false (filled layout slots value (slot.form.name :: given))
        (slot.form.name :: given) (member.value.after ++ (row false wholes ++ rest)) := by
  -- The name is read, found among the fields and not yet given; then its value is read by the field.
  have shorter := after_member_shorter gap first member wholes rest
  have change := (made.fits slot inside).reads written member.value.gapBefore
    (ends.behind member.value.gapAfter)
  rw [fromMembers, nextName_row first named gapped]
  simp only [bind, Except.bind, made.find?_slot inside]
  simp only [List.contains_eq_mem, fresh, decide_false, Bool.false_eq_true, if_false,
    colon_gap member.gapAfter, member.value.whole_append, change, dif_pos shorter, made.copy_filled inside]
  rfl

/-- A member of a strange name is passed over. -/
theorem fromMembers_strange {name : String} (strange : ∀ slot ∈ slots, slot.form.name ≠ name)
    {member : Member} (named : TextForm name member.name) (formed : WellFormed member.value.text)
    (record : α) (first : Bool) (gapped : Gap gap) {wholes : List (List Char)}
    (ends : Ends (following wholes ++ rest)) :
    layout.fromMembers first record given (gap ++ (row first (member.whole :: wholes) ++ rest)) =
      layout.fromMembers false record given (member.value.after ++ (row false wholes ++ rest)) := by
  -- The name is read and found nowhere, so that its value is passed over as any value would be.
  have shorter := after_member_shorter gap first member wholes rest
  have skipped := formed.skip member.value.gapBefore (ends.behind member.value.gapAfter)
  rw [fromMembers, nextName_row first named gapped]
  simp only [bind, Except.bind, made.find?_strange strange, colon_gap member.gapAfter,
    member.value.whole_append, skipped, dif_pos shorter]
  rfl

/-- The members of an object are read in any order, and those of other names are passed over. -/
theorem fromMembers_row {members : List (String × Member)} (given : List String)
    (names : ∀ entry ∈ members, TextForm entry.1 entry.2.name)
    (known : ∀ entry ∈ members, ∀ slot ∈ slots, slot.form.name = entry.1 →
      slot.form.form value entry.2.value.text)
    (others : ∀ entry ∈ members, (∀ slot ∈ slots, slot.form.name ≠ entry.1) →
      WellFormed entry.2.value.text)
    (once : ∀ slot ∈ slots, (members.map Prod.fst ++ given).count slot.form.name ≤ 1)
    (complete : ∀ slot ∈ slots, slot.form.idle value ∨ slot.form.name ∈ members.map Prod.fst ++ given)
    (first : Bool) (gapped : Gap gap) (rest : List Char) : ∃ after, Gap after ∧
      layout.fromMembers first (filled layout slots value given) given
        (gap ++ (row first (members.map fun entry => entry.2.whole) ++ '\x7d' :: rest)) =
      .ok (value, after ++ '\x7d' :: rest) := by
  -- A known name moves from the members that are left to the given names, and a strange one is dropped.
  induction members generalizing first gap given with
  | nil =>
    refine ⟨gap, gapped, ?_⟩
    have empty : row first (([] : List (String × Member)).map fun entry => entry.2.whole) = [] := by
      cases first <;> rfl
    rw [List.map_nil, List.nil_append] at complete
    rw [empty, List.nil_append, fromMembers, nextName_close first gapped]
    simp only [bind, Except.bind, made.missing_eq_none complete, made.filled_complete complete]
  | cons entry members ih =>
    obtain ⟨name, member⟩ := entry
    have ⟨named, names'⟩ := List.forall_mem_cons.1 names
    have ⟨here, known'⟩ := List.forall_mem_cons.1 known
    have ⟨strange, others'⟩ := List.forall_mem_cons.1 others
    have ends : Ends (following (members.map fun entry => entry.2.whole) ++ '\x7d' :: rest) :=
      ends_following .object _ rest
    by_cases owned : ∃ slot ∈ slots, slot.form.name = name
    · obtain ⟨slot, inside, rfl⟩ := owned
      -- Members that are left and given names are counted together, so moving one changes no count.
      have moved : (members.map Prod.fst ++ slot.form.name :: given).Perm
          (slot.form.name :: members.map Prod.fst ++ given) := List.perm_middle
      have fresh : slot.form.name ∉ given := by
        have single := once slot inside
        rw [List.map_cons, List.cons_append, List.count_cons_self, List.count_append] at single
        exact List.count_eq_zero.1 (by omega)
      rw [List.map_cons, made.fromMembers_slot inside named (here slot inside rfl) fresh first gapped ends]
      exact ih _ names' known' others' (fun slot inside => (moved.count_eq _).trans_le (once slot inside))
        (fun slot inside => (complete slot inside).imp_right moved.mem_iff.2) false member.value.gapAfter
    · -- No field is called so, and no count is about such a name.
      have differs : ∀ slot ∈ slots, slot.form.name ≠ name := fun slot inside same =>
        owned ⟨slot, inside, same⟩
      rw [List.map_cons, made.fromMembers_strange differs named (strange differs) _ first gapped ends]
      refine ih _ names' known' others' (fun slot inside => ?_) (fun slot inside => ?_) false
        member.value.gapAfter
      · have single := once slot inside
        rwa [List.map_cons, List.cons_append, List.count_cons_of_ne (differs slot inside).symm] at single
      · have left := complete slot inside
        rwa [List.map_cons, List.cons_append, List.mem_cons, or_iff_right (differs slot inside)] at left

end Reading

include made

/-- A record is read from a list of its fields. -/
theorem read_listText {kept left : List (Slot α)} (whole : slots = kept ++ left) {inner gap : List Char}
    {items : List Padded} (innerGap : Gap inner)
    (written : List.Forall₂ (fun slot (item : Padded) => slot.form.form value item.text) kept items)
    (idle : ∀ slot ∈ left, slot.form.idle value) (gapped : Gap gap) (rest : List Char) :
    layout.read (gap ++ (listText inner items ++ rest)) = .ok (value, rest) := by
  -- The fields that are kept are given, and those that are left are idle.
  subst whole
  obtain ⟨after, afterGap, same⟩ := made.fromElements_row (fun _ member => member) written idle true 0 []
    innerGap rest
  have complete : filled layout (kept ++ left) value ((kept.map (·.form.name)).reverse ++ []) = value := by
    refine made.filled_complete fun slot member => (List.mem_append.1 member).symm.imp (idle slot) ?_
    exact fun inside => by simpa using ⟨slot, inside, rfl⟩
  rw [made.filled_nil, ← made.fields, complete] at same
  rw [Layout.read, skipGap_listText gapped]
  simp only [same, bind, Except.bind, closeList_gap afterGap]

/-- A record that consists of slots is read from each of its forms. -/
theorem reads : Reads layout.read (RecordForm (slots.map Slot.form)) where
  opens := by
    rintro value text (_ | _)
    · exact .cons (by decide)
    · exact .cons (by decide)
  reads := by
    intro value text gap rest written gapped _
    -- A record is written as a list of its fields in order, or as an object that names them.
    cases written with
    | @listed _ kept left inner items whole innerGap written idle =>
      obtain ⟨kept, left, split, rfl, rfl⟩ := List.map_eq_append_iff.1 whole
      exact made.read_listText split innerGap (List.forall₂_map_left_iff.1 written)
        (fun slot member => idle _ (List.mem_map_of_mem member)) gapped rest
    | @named _ inner members innerGap names known others once complete =>
      obtain ⟨after, afterGap, same⟩ := made.fromMembers_row [] names
        (fun entry member slot inside => known entry member _ (List.mem_map_of_mem inside))
        (fun entry member differs => others entry member (by simpa using differs))
        (fun slot inside => by simpa using once _ (List.mem_map_of_mem inside))
        (fun slot inside => by simpa using complete _ (List.mem_map_of_mem inside)) true innerGap rest
      rw [made.filled_nil] at same
      rw [Layout.read, skipGap_objectText gapped, List.map_map]
      simp only [Function.comp_def, same, bind, Except.bind, closeObject_gap afterGap]

end Layout.MadeOf

end InsightRelay.Json
