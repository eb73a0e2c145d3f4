import InsightRelay.Proofs.Record
import InsightRelay.Proofs.Toml.Document
import InsightRelay.Toml.Record

/-! Records give back the values of the documents that they are read from.

Fields may come in any order and some may be missing, and keys of other names may stand between them. -/

namespace InsightRelay.Toml

section Fields

variable {α β : Type} {kind other : Value → Prop} {read : Reader Value} {text : List Char}

theorem Reads.imp (reads : Reads read kind text) (weaker : ∀ value, kind value → other value) :
    Reads read other text := by
  intro rest follows
  obtain ⟨value, kind_, taken⟩ := reads follows
  exact ⟨value, weaker value kind_, taken⟩

/-- A value of a field is accepted from every text that it may be written as. -/
def Accepts (accept : Value → Except Fault β) (form : Form β) (value : β) : Prop :=
  ∀ ⦃text⦄, form value text →
    Opens text ∧ Reads (Toml.value valueDepth) (fun found => accept found = .ok value) text

theorem accepts_text (value : String) : Accepts Toml.text BasicForm value := by
  intro text form
  refine ⟨StringText.solid (.basic form), (form.reads valueDepth).imp ?_⟩
  rintro _ rfl
  rfl

theorem accepts_boolean (value : Bool) : Accepts Toml.boolean BooleanForm value := by
  -- There are two words, one for each of the two values.
  intro text form
  refine ⟨boolean_opens ?_, (form.reads valueDepth).imp ?_⟩
  · obtain rfl := form
    cases value
    · exact .inr rfl
    · exact .inl rfl
  · rintro _ rfl
    rfl

/-- A natural number is accepted when it fits its range and the integers of documents. -/
theorem accepts_natural {range : IntegerRange} {value : Nat} (least : range.least ≤ 0)
    (fits : (value : Int) ≤ range.greatest) (small : value < 2 ^ 63) :
    Accepts (Toml.natural range) NaturalForm value := by
  -- The value lies in the range of the integers of documents as well as in that of the field.
  intro text form
  have holds : range.holds value = true := by
    rw [IntegerRange.holds, Bool.and_eq_true, decide_eq_true_eq, decide_eq_true_eq]
    exact ⟨by omega, fits⟩
  have within : -2 ^ 63 ≤ (value : Int) ∧ (value : Int) < 2 ^ 63 := by omega
  refine ⟨IntegerForm.opens form |>.opens, (IntegerForm.reads form within valueDepth).imp ?_⟩
  rintro _ rfl
  rw [Toml.natural, if_pos holds, Int.toNat_natCast]

end Fields

section Forms

variable {α : Type}

/-- What a key with its value is in a document of a record: it belongs to a field, or to none. -/
inductive EntryForm (limited : Prop) (fields : List (FieldForm α)) (value : α) (entry : Entry) : Prop
  | known {field : FieldForm α} (listed : field ∈ fields) (key : KeyForm field.name entry.key)
    (single : entry.path = [field.name]) (form : field.form value entry.value)
  | other {depth : Nat} (key : PathForm entry.path entry.key)
    (strange : ∀ field ∈ fields, field.name ∉ entry.path.head?) (within : limited → depth ≤ depthLimit)
    (form : ValueText limited depth entry.value)

/-- A document is one of a record when each of its keys belongs to a field or to none. -/
theorem RecordForm.of_each {limited : Prop} {fields : List (FieldForm α)} {value : α}
    {document : Rows} (distinct : (fields.map FieldForm.name).Nodup)
    (each : ∀ entry ∈ document.entries, EntryForm limited fields value entry)
    (apart : document.entries.Pairwise fun entry other => Apart entry.path other.path)
    (short : limited → ∀ entry ∈ document.entries, entry.path.length < partLimit)
    (complete : ∀ field ∈ fields, field.idle value ∨ [field.name] ∈ document.entries.map Entry.path) :
    RecordForm limited fields value document where
  keys entry inside := by
    cases each entry inside with
    | known listed key single form => exact single ▸ .last key
    | other key strange within form => exact key
  -- A key belongs to one field at most, as the fields have different names.
  known entry inside field listed head := by
    cases each entry inside with
    | @known owner listed' key single form =>
      rw [single, List.head?_cons, Option.mem_some_iff] at head
      obtain rfl := List.inj_on_of_nodup_map distinct listed' listed head
      exact ⟨single, form⟩
    -- A strange key is not the name of any field.
    | other key strange within form => exact absurd head (strange field listed)
  others entry inside strange := by
    cases each entry inside with
    | known listed key single form => exact absurd (by rw [single]; rfl) (strange _ listed)
    | other key strange within form => exact ⟨_, within, form⟩
  apart := apart
  short := short
  complete := complete

end Forms

variable {α : Type}

/-- A field of a record, as it is read, as it is written, and as it is copied between records. -/
structure Slot (α : Type) where
  field : Field α
  form : FieldForm α
  /-- The second record with this field of the first one. -/
  copy : α → α → α

namespace Slot

variable {β : Type}

/-- A field that is always written. -/
def needed (name : String) (accept : Value → Except Fault β) (form : Form β) (get : α → β)
    (set : β → α → α) : Slot α where
  field := .needed name accept set
  form := .needed name form get
  copy := fun value => set (get value)

/-- A field that is written where it is set. -/
def optional (name : String) (accept : Value → Except Fault (Option β)) (form : Form β)
    (get : α → Option β) (set : Option β → α → α) : Slot α where
  field := .defaulted name accept set
  form := .optional name form get
  copy := fun value => set (get value)

/-- A field that may be left out where it holds its default. -/
def defaulted (name : String) (default : β) (accept : Value → Except Fault β) (form : Form β)
    (get : α → β) (set : β → α → α) : Slot α where
  field := .defaulted name accept set
  form := .defaulted name default form get
  copy := fun value => set (get value)

/-- The part of the record that a slot is about. -/
def part (slot : Slot α) : Part α where
  name := slot.form.name
  idle := slot.form.idle
  copy := slot.copy

/-- What is read of a field is what is written of it, and no field that is required is left out. -/
structure Fits (slot : Slot α) (value : α) : Prop where
  name : slot.field.name = slot.form.name
  given : slot.form.idle value → slot.field.required = false
  accepts : ∀ ⦃text⦄, slot.form.form value text → Opens text ∧
    Reads (Toml.value valueDepth) (fun found => slot.field.accept found = .ok (slot.copy value)) text

/-- A field is left out only where the blank record has the same. -/
def Idle (slot : Slot α) (blank : α) : Prop :=
  ∀ ⦃value⦄, slot.form.idle value → slot.copy value = slot.copy blank

variable {name : String} {default : β} {accept : Value → Except Fault β} {form : Form β} {get : α → β}
  {set : β → α → α} {value blank : α}

theorem needed_idle : (needed name accept form get set).Idle blank :=
  fun _ never => never.elim

theorem defaulted_idle (unset : get blank = default) :
    (defaulted name default accept form get set).Idle blank :=
  fun value same => congrArg set ((show get value = default from same).trans unset.symm)

theorem optional_idle {accept : Value → Except Fault (Option β)} {get : α → Option β}
    {set : Option β → α → α} (unset : get blank = none) : (optional name accept form get set).Idle blank :=
  fun value same => congrArg set ((show get value = none from same).trans unset.symm)

theorem needed_fits (accepts : Accepts accept form (get value)) :
    (needed name accept form get set).Fits value where
  name := rfl
  given := fun never => never.elim
  accepts := fun _ written => (accepts written).imp_right fun reads => reads.imp fun found same => by
    simp only [needed, Field.needed, same, Except.map]

theorem defaulted_fits (accepts : Accepts accept form (get value)) :
    (defaulted name default accept form get set).Fits value where
  name := rfl
  given := fun _ => rfl
  accepts := fun _ written => (accepts written).imp_right fun reads => reads.imp fun found same => by
    simp only [defaulted, Field.defaulted, same, Except.map]

theorem optional_fits {accept : Value → Except Fault (Option β)} {get : α → Option β}
    {set : Option β → α → α} (accepts : Accepts accept
      (fun value text => ∃ inner, value = some inner ∧ form inner text) (get value)) :
    (optional name accept form get set).Fits value where
  name := rfl
  given := fun _ => rfl
  accepts := fun _ written => (accepts written).imp_right fun reads => reads.imp fun found same => by
    simp only [optional, Field.defaulted, same, Except.map]

end Slot

/-- A record type consists of slots, which give back a value. -/
structure Layout.MadeOf (layout : Layout α) (slots : List (Slot α)) (value : α) : Prop where
  fields : layout.fields = slots.map Slot.field
  fits : ∀ slot ∈ slots, slot.Fits value
  makeUp : Part.MakeUp layout.blank (slots.map Slot.part)

theorem closeEntries_eq (entries : Entries) :
    closeEntries entries = entries.map fun entry => (entry.1, entry.2.close) := by
  induction entries with
  | nil => rfl
  | cons entry entries ih => rw [closeEntries, ih, List.map_cons]

namespace Layout

variable {layout : Layout α} {key : String} {item : Item} {entries : Entries} {record : α}

/-- What one key of a document changes of a record. -/
def change (layout : Layout α) (record : α) (entry : String × Value) : Except Fault α :=
  match layout.fields.find? fun field => field.name == entry.1 with
  | some field => (field.accept entry.2).map fun change => change record
  | none => .ok record

theorem apply_eq (entries : Entries) : layout.apply (closeEntries entries) =
    entries.foldlM (fun record entry => layout.change record (entry.1, entry.2.close)) layout.blank := by
  rw [closeEntries_eq, apply, List.foldlM_map]
  rfl

/-- A key that belongs to no field changes nothing. -/
theorem change_strange (strange : ∀ field ∈ layout.fields, field.name ≠ key) (value : Value) :
    layout.change record (key, value) = .ok record := by
  have none : layout.fields.find? (fun field => field.name == key) = none :=
    List.find?_eq_none.2 fun field inside => by simpa using strange field inside
  rw [change, none]

theorem apply_append (applied : layout.apply (closeEntries entries) = .ok record) :
    layout.apply (closeEntries (entries ++ [(key, item)])) = layout.change record (key, item.close) := by
  rw [apply_eq] at applied ⊢
  rw [List.foldlM_append, applied]
  exact bind_pure (layout.change record (key, item.close))

/-- What a key of no field stands for does not matter. -/
theorem apply_replace (strange : ∀ field ∈ layout.fields, field.name ≠ key) :
    layout.apply (closeEntries (entries.replace key item)) = layout.apply (closeEntries entries) := by
  -- Both documents change the record by the same keys in the same order, up to the one of no field.
  rw [apply_eq, apply_eq, Entries.replace, List.foldlM_map]
  congr
  funext record entry
  by_cases same : entry.1 = key
  · obtain ⟨first, held⟩ := entry
    obtain rfl : first = key := same
    simp [change_strange strange]
  · simp [same]

/-- The names of the keys that have been given, of which those with points count by their first part. -/
def names (given : List (List String)) : List String :=
  given.filterMap List.head?

/-- The keys given so far have been read: their fields are those of the value, and none of these is
missed. -/
structure Filling (layout : Layout α) (slots : List (Slot α)) (value : α) (given : List (List String))
    (entries : Entries) : Prop where
  applied : layout.apply (closeEntries entries) =
    .ok (Part.filled layout.blank (slots.map Slot.part) value (names given))
  present : ∀ slot ∈ slots, slot.form.name ∈ names given → slot.form.name ∈ entries.map Prod.fst

/-- The value of a key is accepted as that of the record, unless the key has no field. -/
def Fitting (slots : List (Slot α)) (value : α) (entry : Entry) (found : Value) : Prop :=
  (∃ slot ∈ slots, entry.path = [slot.form.name] ∧ slot.field.accept found = .ok (slot.copy value)) ∨
    ∀ slot ∈ slots, slot.form.name ∉ entry.path.head?

namespace MadeOf

variable {slots : List (Slot α)} {value : α} (made : layout.MadeOf slots value) {given : List (List String)}

include made

/-- The key of a slot changes its field to that of the value. -/
theorem change_slot {slot : Slot α} {found : Value} (inside : slot ∈ slots)
    (accepted : slot.field.accept found = .ok (slot.copy value)) (record : α) :
    layout.change record (slot.form.name, found) = .ok (slot.copy value record) := by
  -- No field in front of that of the slot has its name, so that the search comes to it.
  have search : layout.fields.find? (fun field => field.name == slot.form.name) = some slot.field := by
    obtain ⟨before, after, rfl⟩ := List.append_of_mem inside
    have distinct := List.pairwise_map.1 made.makeUp.distinct
    have others : ∀ other ∈ before, (other.field.name == slot.form.name) = false := by
      intro other member
      have differs := (List.pairwise_append.1 distinct).2.2 other member slot List.mem_cons_self
      rw [(made.fits other (List.mem_append_left _ member)).name]
      simpa [Slot.part] using differs
    have self : (slot.field.name == slot.form.name) = true := by
      simpa using (made.fits slot inside).name
    -- So the fields in front are passed, and the next one is that of the slot.
    rw [made.fields, List.find?_map, List.find?_append, List.find?_eq_none.2, Option.none_or,
      List.find?_cons]
    · simp [self]
    · intro other member
      simpa using others other member
  rw [change, search]
  simp only [accepted, Except.map]

/-- One more key is read. -/
theorem filling_keeps {entries : List Entry} : Keeps (Fitting slots value) (layout.Filling slots value)
    entries := by
  intro entry _ found given before after some fitting filling assigned
  unfold Fitting at fitting
  generalize entry.path = path at some fitting assigned ⊢
  obtain ⟨key, path, rfl⟩ := List.exists_cons_of_ne_nil some
  have given_ : names ((key :: path) :: given) = key :: names given := rfl
  -- The key of a field is added behind all others. Any other key is added too or changes the item that its
  -- first part stands for, and no field is read from that.
  rcases fitting with ⟨slot, inside, single, accepted⟩ | strange
  · obtain ⟨rfl, rfl⟩ := List.cons.inj single
    obtain rfl := Entries.assign_single assigned
    constructor
    · rw [apply_append filling.applied, Item.close, List.getLast_singleton,
        made.change_slot inside accepted, given_]
      exact congrArg Except.ok (made.makeUp.copy_filled (List.mem_map_of_mem inside) _)
    · intro other member given'
      rw [given_, List.mem_cons] at given'
      rw [List.map_append, List.mem_append]
      exact given'.elim (fun same => .inr (by simp [same]))
        fun old => .inl (filling.present other member old)
  · replace strange : ∀ slot ∈ slots, slot.form.name ≠ key := fun slot inside same =>
      strange slot inside (congrArg Option.some same.symm)
    have strange' : ∀ field ∈ layout.fields, field.name ≠ key := by
      rw [made.fields]
      exact List.forall_mem_map.2 fun slot inside => (made.fits slot inside).name ▸ strange slot inside
    obtain ⟨item, shape⟩ := Entries.assign_shape some assigned
    rw [List.head_cons] at shape
    constructor
    · rw [given_, Part.filled_strange (List.forall_mem_map.2 strange), ← filling.applied]
      rcases shape with rfl | rfl
      · rw [apply_append filling.applied, change_strange strange', filling.applied]
      · exact apply_replace strange'
    · -- No field of the record is called so, and what has been given stays where it is.
      intro other member given'
      rw [given_, List.mem_cons, or_iff_right (strange other member)] at given'
      have old := filling.present other member given'
      rcases shape with rfl | rfl
      · rw [List.map_append]
        exact List.mem_append_left _ old
      · rwa [Entries.names_replace]

/-- Every line of a document that a record is written as can be read. -/
theorem readable {document : Rows} (form : RecordForm True (slots.map Slot.form) value document) :
    ∀ entry ∈ document.entries, entry.Readable (Toml.value valueDepth) (Fitting slots value entry) := by
  -- A key is owned by a slot, which accepts its value, or by none, and then any value will do.
  intro entry inside
  have key := form.keys entry inside
  have short := form.short trivial entry inside
  by_cases owned : ∃ slot ∈ slots, slot.form.name ∈ entry.path.head?
  · obtain ⟨slot, member, head⟩ := owned
    obtain ⟨single, written⟩ := form.known entry inside slot.form (List.mem_map_of_mem member) head
    obtain ⟨opens, reads⟩ := (made.fits slot member).accepts written
    exact ⟨key, short, opens, reads.imp fun found accepted => .inl ⟨slot, member, single, accepted⟩⟩
  · have strange : ∀ slot ∈ slots, slot.form.name ∉ entry.path.head? :=
      fun slot member head => owned ⟨slot, member, head⟩
    obtain ⟨depth, within, value⟩ := form.others entry inside (List.forall_mem_map.2 strange)
    -- Of a value that no field takes it is enough that it can be read at all.
    exact ⟨key, short, value.opens, (value.reads (within trivial)).imp fun _ _ => .inr strange⟩

/-- No field is missed in a document that gives all fields that are not idle. -/
theorem missing?_eq_none {entries : Entries} (filling : layout.Filling slots value given entries)
    (complete : ∀ slot ∈ slots, slot.form.idle value ∨ slot.form.name ∈ names given) :
    layout.missing? (closeEntries entries) = none := by
  -- A slot that is idle has a default, and one that is given has its key among the entries.
  rw [missing?, Option.map_eq_none_iff, List.find?_eq_none, made.fields]
  refine List.forall_mem_map.2 fun slot inside => ?_
  have fits := made.fits slot inside
  rcases complete slot inside with idle | given'
  · simp [fits.given idle]
  · have present := filling.present slot inside given'
    rw [closeEntries_eq, fits.name]
    obtain ⟨entry, member, same⟩ := List.mem_map.1 present
    simp only [List.any_map, Bool.and_eq_true, Bool.not_eq_true', not_and, Bool.not_eq_false]
    exact fun _ => List.any_eq_true.2 ⟨entry, member, by simpa using same⟩

/-- A record is read from each document that it may be written as. -/
theorem read {source : String} {document : Rows} (written : source.toList = document.text)
    (form : RecordForm True (slots.map Slot.form) value document) : layout.read source = .ok value := by
  -- Before the first line no field has been given, and the record is the blank one.
  have start : layout.Filling slots value [] [] := by
    refine ⟨?_, nofun⟩
    rw [names, List.filterMap_nil, made.makeUp.filled_nil]
    rfl
  obtain ⟨entries, read, filling⟩ :=
    document_rows written (made.readable form) form.apart made.filling_keeps start
  have complete : ∀ slot ∈ slots, slot.form.idle value ∨
      slot.form.name ∈ names (document.entries.map Entry.path).reverse := by
    intro slot inside
    refine (form.complete slot.form (List.mem_map_of_mem inside)).imp_right fun given => ?_
    exact List.mem_filterMap.2 ⟨_, List.mem_reverse.2 given, rfl⟩
  -- With all fields given or idle, what was filled in is the record itself.
  have applied := filling.applied
  rw [made.makeUp.filled_complete (List.forall_mem_map.2 complete)] at applied
  rw [Layout.read, read]
  simp only [applied, made.missing?_eq_none filling complete, Except.mapError, bind, Except.bind]

end MadeOf

end Layout

end InsightRelay.Toml
