import InsightRelay.Toml.Document

/-! Records in TOML: documents whose top-level keys are fields. -/

namespace InsightRelay.Toml

/-- A field of a record: a value that fits gives the change that it makes to the record. -/
structure Field (α : Type) where
  name : String
  required : Bool
  accept : Value → Except Fault (α → α)

/-- A text. -/
def text : Value → Except Fault String
  | .text value => .ok value
  | other => .error (.wrongType other.found .text)

/-- A truth value. -/
def boolean : Value → Except Fault Bool
  | .boolean value => .ok value
  | other => .error (.wrongType other.found .boolean)

/-- A natural number of a range. -/
def natural (range : IntegerRange) : Value → Except Fault Nat
  | .integer value =>
    if range.holds value then .ok value.toNat
    else .error (.wrongValue (.integer value) (.integer range))
  | other => .error (.wrongType other.found (.integer range))

/-- A field that has to be given. -/
def Field.needed {α β : Type} (name : String) (read : Value → Except Fault β) (set : β → α → α) :
    Field α where
  name := name
  required := true
  accept := fun value => (read value).map set

/-- A field that keeps its default when it is left out. -/
def Field.defaulted {α β : Type} (name : String) (read : Value → Except Fault β)
    (set : β → α → α) : Field α where
  name := name
  required := false
  accept := fun value => (read value).map set

/-- A record type: its fields in their order, and the record that holds only defaults. -/
structure Layout (α : Type) where
  fields : List (Field α)
  blank : α

namespace Layout

variable {α : Type} (layout : Layout α)

/-- The changes of all known keys are made in the order of the document. -/
def apply (entries : List (String × Value)) : Except Fault α :=
  entries.foldlM (fun record (name, value) =>
    match layout.fields.find? fun field => field.name == name with
    | some field => (field.accept value).map fun change => change record
    -- A key that no field has changes nothing, whatever stands under it.
    | none => .ok record) layout.blank

/-- The first required field that a document does not give. -/
def missing? (entries : List (String × Value)) : Option String :=
  (layout.fields.find? fun field =>
    field.required && !(entries.any fun entry => entry.1 == field.name)).map Field.name

/-- The record of a document: first the text has to be well formed, then every known key has to fit,
and then every required field has to be there. -/
def read (source : String) : Except Problem α := do
  let some entries := document source | .error .malformed
  let record ← (layout.apply entries).mapError .unfit
  match layout.missing? entries with
  | some name => .error (.unfit (.missingField name))
  | none => .ok record

end Layout

end InsightRelay.Toml
