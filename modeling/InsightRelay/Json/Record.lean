import InsightRelay.Json.Reader

/-! Records in JSON: objects whose names are fields, or lists of the fields in their order. -/

namespace InsightRelay.Json

/-- A field of a record: reading it gives the change that it makes to the record. -/
structure Field (α : Type) where
  name : String
  required : Bool
  read : Reader (α → α)

/-- A field that has to be given. -/
def Field.needed {α β : Type} (name : String) (read : Reader β) (set : β → α → α) : Field α where
  name := name
  required := true
  read := fun source => (read source).map fun (value, rest) => (set value, rest)

/-- A field that keeps its default when it is left out. -/
def Field.defaulted {α β : Type} (name : String) (read : Reader β) (set : β → α → α) :
    Field α where
  name := name
  required := false
  read := fun source => (read source).map fun (value, rest) => (set value, rest)

/-- A record type: its name, its fields in their order, and the record that holds only defaults. -/
structure Layout (α : Type) where
  name : String
  fields : List (Field α)
  blank : α

namespace Layout

variable {α : Type} (layout : Layout α)

/-- The first required field that was not given. -/
def missing? (given : List String) : Option String :=
  (layout.fields.find? fun field => field.required && !given.contains field.name).map Field.name

/-- The members of an object up to its end, each changing the record; unknown names are passed over. -/
def fromMembers (first : Bool) (record : α) (given : List String) (source : List Char) :
    Except Problem (α × List Char) := do
  match ← nextName first source with
  | none =>
    match layout.missing? given with
    | some name => .error (.unfit (.missingField name))
    | none => .ok (record, source)
  | some (name, rest) =>
    match layout.fields.find? fun field => field.name == name with
    | some field =>
      -- A field that comes again is refused before its value is looked at.
      if given.contains name then .error (.unfit (.duplicateField name)) else
      let (change, rest) ← field.read (← colon rest)
      if _shorter : rest.length < source.length then
        fromMembers false (change record) (name :: given) rest
      else .error (.malformed .valueWanted)
    | none =>
      let rest ← skipValue (← colon rest)
      if _shorter : rest.length < source.length then fromMembers false record given rest
      else .error (.malformed .valueWanted)
termination_by source.length

/-- The fields of a list in their order, where fields with defaults may be left out at the end. -/
def fromElements (first : Bool) (record : α) (index : Nat) :
    (fields : List (Field α)) → (source : List Char) → Except Problem (α × List Char)
  | [], source => .ok (record, source)
  | field :: fields, source => do
    match ← nextElement first source with
    | some start =>
      let (change, rest) ← field.read start
      fromElements false (change record) (index + 1) fields rest
    -- Here the list is over, and only fields with defaults may be left.
    | none =>
      if field.required then
        .error (.unfit (.wrongLength index layout.name layout.fields.length))
      else fromElements first record (index + 1) fields source

/-- A record, written as an object or as a list. -/
def read : Reader α := fun source =>
  match skipGap source with
  | '[' :: rest => do
    let (record, rest) ← layout.fromElements true layout.blank 0 layout.fields rest
    .ok (record, ← closeList rest)
  | '\x7b' :: rest => do
    let (record, rest) ← layout.fromMembers true layout.blank [] rest
    .ok (record, ← closeObject rest)
  | rest => .error (misfit (.record layout.name) rest)

end Layout

end InsightRelay.Json
