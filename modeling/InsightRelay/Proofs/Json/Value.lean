import InsightRelay.Proofs.Json.Text
import InsightRelay.Json.Value

/-! The text that a value is written as is among the forms of what it stands for. -/

namespace InsightRelay.Json

theorem Value.writeElements_eq (values : List Value) :
    writeElements values = following (values.map write) ++ [']'] := by
  induction values with
  | nil => rfl
  | cons value values ih => simp [writeElements, ih, following_cons]

theorem Value.writeMembers_eq (members : List (String × Value)) :
    writeMembers members = following (members.map fun member =>
      (Member.bare (writeText member.1.toList) member.2.write).whole) ++ ['\x7d'] := by
  induction members with
  | nil => rfl
  | cons member members ih =>
    simp [writeMembers, ih, following_cons, Member.whole, Member.bare, Padded.whole, Padded.bare]

/-- A list is written without gaps. -/
theorem Value.write_list (values : List Value) :
    (list values).write = listText [] (values.map fun value => .bare value.write) := by
  cases values with
  | nil => rfl
  | cons value values =>
    simp [write, writeElements_eq, listText, separated, Padded.whole, Padded.bare, Function.comp_def]

/-- An object is written without gaps. -/
theorem Value.write_object (members : List (String × Value)) : (object members).write =
    objectText [] (members.map fun member => .bare (writeText member.1.toList) member.2.write) := by
  cases members with
  | nil => rfl
  | cons member members =>
    simp [write, writeMembers_eq, objectText, separated, Member.whole, Member.bare, Padded.whole,
      Padded.bare, Function.comp_def]

variable {α : Type} {form : Form α} {write : α → Value}

/-- A value that may be missing is written in one of its forms. -/
theorem optionalForm_text (value : Option String) :
    OptionalForm TextForm value (Value.ofText? value).write := by
  cases value with
  | none => rfl
  | some value => exact textForm_writeText value

theorem optionalForm_integer (value : Option Int64) :
    OptionalForm IntegerForm value (Value.ofInt? (value.map Int64.toInt)).write := by
  cases value with
  | none => rfl
  | some value => rfl

/-- A list is written in one of its forms when its elements are. -/
theorem listForm_write (written : ∀ value, form value (write value).write) (values : List α) :
    ListForm form values (Value.list (values.map write)).write := by
  refine ⟨[], values.map fun value => .bare (write value).write, .nil, ?_, ?_⟩
  · exact List.forall₂_map_right_iff.2 (List.forall₂_same.2 fun value _ => written value)
  · simp [Value.write_list, Function.comp_def]

theorem optionalForm_list (written : ∀ value, form value (write value).write)
    (values : Option (List α)) :
    OptionalForm (ListForm form) values (Value.ofList? write values).write := by
  cases values with
  | none => rfl
  | some values => exact listForm_write written values

/-- An object whose names are data is written in one of its forms when its values are. -/
theorem entriesForm_write (written : ∀ value, form value (write value).write)
    (entries : List (String × α)) : EntriesForm form entries
      (Value.object (entries.map fun (name, value) => (name, write value))).write := by
  -- What the writer puts down has no gaps, so every entry is bare.
  refine ⟨[], entries.map fun entry => .bare (writeText entry.1.toList) (write entry.2).write, .nil,
    ?_, ?_⟩
  · refine List.forall₂_map_right_iff.2 (List.forall₂_same.2 fun entry _ => ?_)
    exact ⟨textForm_writeText entry.1, written entry.2⟩
  · simp [Value.write_object, Function.comp_def]

section Records

variable {fields : List (FieldForm α)} {members : List (String × Value)} {value : α}

/-- Members are written for the fields of a record, in their order. -/
abbrev Written (value : α) : (fields : List (FieldForm α)) → (members : List (String × Value)) → Prop :=
  List.Forall₂ fun field member => field.name = member.1 ∧ field.form value member.2.write

theorem Written.names (written : Written value fields members) :
    fields.map FieldForm.name = members.map Prod.fst := by
  induction written with
  | nil => rfl
  | cons head _ ih => rw [List.map_cons, List.map_cons, head.1, ih]

/-- Each field has its form in the member of its name. -/
theorem Written.field (written : Written value fields members)
    (distinct : (fields.map FieldForm.name).Nodup) {field : FieldForm α} {member : String × Value}
    (field_ : field ∈ fields) (member_ : member ∈ members) (same : field.name = member.1) :
    field.form value member.2.write := by
  induction written with
  | nil => cases field_
  | @cons first head fields members formed rest ih =>
    have names := Written.names rest
    rw [List.map_cons, List.nodup_cons] at distinct
    -- A field of the tail and a member of the head, or the other way round, differ in their names.
    rcases List.mem_cons.1 field_ with rfl | field_ <;> rcases List.mem_cons.1 member_ with rfl | member_
    · exact formed.2
    · refine absurd (List.mem_map_of_mem (f := Prod.fst) member_) ?_
      rw [← names, ← same]
      exact distinct.1
    · refine absurd (List.mem_map_of_mem (f := FieldForm.name) field_) ?_
      rw [same, ← formed.1]
      exact distinct.1
    · exact ih distinct.2 field_ member_

/-- A record is written in one of its forms when its fields are. -/
theorem Written.record (written : Written value fields members)
    (distinct : (fields.map FieldForm.name).Nodup) :
    RecordForm fields value (Value.object members).write := by
  -- Every member has the name of a field, and every field has a member, each of them once.
  let texts := members.map fun member =>
    (member.1, Member.bare (writeText member.1.toList) member.2.write)
  have names : texts.map Prod.fst = fields.map FieldForm.name := by
    simp [texts, written.names, Function.comp_def]
  have whole : (Value.object members).write = objectText [] (texts.map Prod.snd) := by
    simp [Value.write_object, texts, Function.comp_def]
  rw [whole]
  refine .named .nil ?_ ?_ ?_ ?_ ?_
  · intro entry inside
    obtain ⟨member, -, rfl⟩ := List.mem_map.1 inside
    exact textForm_writeText member.1
  · intro entry inside field field_ same
    obtain ⟨member, member_, rfl⟩ := List.mem_map.1 inside
    exact written.field distinct field_ member_ same
  · -- No member is strange, since all names are those of fields.
    intro entry inside strange
    rw [← names] at strange
    exact absurd (List.mem_map_of_mem inside) strange
  · intro field field_
    rw [names]
    exact List.nodup_iff_count.1 distinct field.name
  · intro field field_
    rw [names]
    exact .inr (List.mem_map_of_mem field_)

end Records

end InsightRelay.Json
