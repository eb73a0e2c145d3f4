import InsightRelay.Json.Skip

/-! Typed readers of JSON values, which report the first thing that does not fit. -/

namespace InsightRelay.Json

/-- What is reported when the value at the head of a text is not of the wanted kind.

Scalars are read as far as they go, since a problem inside them comes first. -/
def misfit (wanted : Wanted) : List Char → Problem
  | 'n' :: text => ofScalar (word ['u', 'l', 'l'] text) fun _ => .null
  | 't' :: text => ofScalar (word ['r', 'u', 'e'] text) fun _ => .boolean true
  | 'f' :: text => ofScalar (word ['a', 'l', 's', 'e'] text) fun _ => .boolean false
  | '"' :: text => ofScalar (textBody text) fun read => .text (String.ofList read.1)
  -- Nothing inside a list or an object is read: that one stands here is all there is to say.
  | '[' :: _ => .unfit (.wrongType .list wanted)
  | '\x7b' :: _ => .unfit (.wrongType .map wanted)
  | char :: text =>
    if char == '-' || char.isDigit then
      ofScalar (number (char :: text)) fun read => read.1.found
    else .malformed .valueWanted
  | [] => .endsEarly .value
where
  /-- A scalar that was read is reported as the wrong one, and a problem inside it as itself. -/
  ofScalar {α : Type} (read : Except Problem α) (found : α → Found) : Problem :=
    match read with
    | .ok value => .unfit (.wrongType (found value) wanted)
    | .error problem => problem

/-- A string. -/
def text (wanted : Wanted) : Reader String := fun source =>
  match skipGap source with
  | '"' :: rest => do
    let (chars, rest) ← textBody rest
    .ok (String.ofList chars, rest)
  | rest => .error (misfit wanted rest)

/-- An integer of a range. -/
def integer (range : IntegerRange) : Reader Int := fun source =>
  match skipGap source with
  | [] => .error (.endsEarly .value)
  | char :: rest =>
    if char == '-' || char.isDigit then do
      let (value, rest) ← number (char :: rest)
      match value with
      | .natural value => accept value rest
      | .negative value => accept value rest
      -- A fraction is no integer, even where nothing but zeros stands behind its point.
      | .fraction .. => .error (.unfit (.wrongType value.found (.integer range)))
    else .error (misfit (.integer range) (char :: rest))
where
  /-- An integer outside the range is a wrong value. -/
  accept (value : Int) (rest : List Char) : Except Problem (Int × List Char) :=
    if range.holds value then .ok (value, rest)
    else .error (.unfit (.wrongValue (.integer value) (.integer range)))

/-- The word null. -/
def null : Reader Unit := fun source =>
  match skipGap source with
  | 'n' :: rest => do
    let rest ← word ['u', 'l', 'l'] rest
    .ok ((), rest)
  | rest => .error (misfit .nothing rest)

/-- Null, or a value. -/
def optional {α : Type} (read : Reader α) : Reader (Option α) := fun source =>
  match skipGap source with
  -- No other value starts with this letter, so it is null or malformed.
  | 'n' :: rest => do
    let rest ← word ['u', 'l', 'l'] rest
    .ok (none, rest)
  | rest => do
    let (value, rest) ← read rest
    .ok (some value, rest)

/-- Where the next element of a list starts, or nothing at the end of the list. -/
def nextElement (first : Bool) (source : List Char) : Except Problem (Option (List Char)) :=
  match skipGap source with
  | [] => .error (.endsEarly .list)
  | ']' :: _ => .ok none
  | ',' :: rest =>
    -- A comma in the place of the first element is left to the reader of elements, which refuses it.
    if first then .ok (some (',' :: rest)) else
    match skipGap rest with
    | [] => .error (.endsEarly .value)
    | ']' :: _ => .error (.malformed .trailingComma)
    | rest => .ok (some rest)
  | rest => if first then .ok (some rest) else .error (.malformed .commaOrListEndWanted)

/-- The text after the end of a list. -/
def closeList (source : List Char) : Except Problem (List Char) :=
  match skipGap source with
  | [] => .error (.endsEarly .list)
  | ']' :: rest => .ok rest
  -- Behind a comma too many, the end of the list is told from all else.
  | ',' :: rest => .error <| .malformed <|
    if (skipGap rest).head? = some ']' then .trailingComma else .trailingText
  | _ => .error (.malformed .trailingText)

/-- The elements of a list up to its end. -/
def elements {α : Type} (read : Reader α) (first : Bool) (source : List Char) :
    Except Problem (List α × List Char) := do
  match ← nextElement first source with
  | none => .ok ([], source)
  | some start =>
    let (value, rest) ← read start
    -- Every value takes something off the text, so this only makes the end of the recursion plain.
    if _shorter : rest.length < source.length then
      let (values, rest) ← elements read false rest
      .ok (value :: values, rest)
    else .error (.malformed .valueWanted)
termination_by source.length

/-- A list of values of one kind. -/
def list {α : Type} (read : Reader α) : Reader (List α) := fun source =>
  match skipGap source with
  | '[' :: rest => do
    let (values, rest) ← elements read true rest
    .ok (values, ← closeList rest)
  | rest => .error (misfit .list rest)

/-- The next name of an object and the text behind it, or nothing at the end of the object. -/
def nextName (first : Bool) (source : List Char) :
    Except Problem (Option (String × List Char)) :=
  match skipGap source with
  | [] => .error (.endsEarly .object)
  | '\x7d' :: _ => .ok none
  -- Two members need a comma between them.
  | '"' :: rest => if first then name rest else .error (.malformed .commaOrObjectEndWanted)
  | ',' :: rest =>
    if first then .error (.malformed .textWantedForName) else
    match skipGap rest with
    | [] => .error (.endsEarly .value)
    | '"' :: rest => name rest
    | '\x7d' :: _ => .error (.malformed .trailingComma)
    | _ => .error (.malformed .textWantedForName)
  | _ => .error (.malformed (if first then .textWantedForName else .commaOrObjectEndWanted))
where
  /-- A name whose opening quote has been read. -/
  name (rest : List Char) : Except Problem (Option (String × List Char)) := do
    let (chars, rest) ← textBody rest
    .ok (some (String.ofList chars, rest))

/-- The text after the end of an object. -/
def closeObject (source : List Char) : Except Problem (List Char) :=
  afterMark '\x7d' .object
    (fun char => if char = ',' then .trailingComma else .trailingText) source

/-- The members of an object up to its end, in the order in which they are written. -/
def members {α : Type} (read : Reader α) (first : Bool) (source : List Char) :
    Except Problem (List (String × α) × List Char) := do
  match ← nextName first source with
  | none => .ok ([], source)
  | some (name, rest) =>
    let (value, rest) ← read (← colon rest)
    if _shorter : rest.length < source.length then
      let (entries, rest) ← members read false rest
      .ok ((name, value) :: entries, rest)
    else .error (.malformed .valueWanted)
termination_by source.length

/-- An object whose names are data. -/
def dictionary {α : Type} (read : Reader α) : Reader (List (String × α)) := fun source =>
  match skipGap source with
  | '\x7b' :: rest => do
    let (entries, rest) ← members read true rest
    .ok (entries, ← closeObject rest)
  | rest => .error (misfit .map rest)

/-- The name in an object that stands for a variant.

It is read as the names of all objects are: one that is no string is not well formed, which is told from
its first character, and nothing more of it is read. -/
def variantName : Reader String := fun source =>
  match skipGap source with
  | [] => .error (.endsEarly .value)
  | '"' :: rest => do
    let (chars, rest) ← textBody rest
    .ok (String.ofList chars, rest)
  | _ => .error (.malformed .textWantedForName)

/-- One of several variants without content, written as its name or as an object that maps its name
to null. -/
def variant : Reader String := fun source =>
  match skipGap source with
  | [] => .error (.endsEarly .value)
  | '"' :: rest => do
    let (chars, rest) ← textBody rest
    .ok (String.ofList chars, rest)
  | '\x7b' :: rest => do
    let (name, rest) ← variantName rest
    -- A variant without content has null for it, and no other member may follow.
    let (_, rest) ← null (← colon rest)
    .ok (name, ← afterMark '\x7d' .object (fun _ => .valueWanted) rest)
  | _ => .error (.malformed .valueWanted)

/-- A whole text holds one value and nothing else but gaps. -/
def whole {α : Type} (read : Reader α) (source : List Char) : Except Problem α := do
  let (value, rest) ← read source
  if (skipGap rest).isEmpty then .ok value else .error (.malformed .trailingText)

end InsightRelay.Json
