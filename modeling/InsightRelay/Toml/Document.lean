import InsightRelay.Toml.Scalar

/-! TOML documents: lines that give values to keys, and headers that open tables. -/

namespace InsightRelay.Toml

/-- How a table came to be, which decides what may still be added to it. -/
inductive TableKind
  /-- It has its own header or is an element of a list of tables; the top of a document is one too. -/
  | headed
  /-- It was only passed on the way to the header of another table. -/
  | implied
  /-- It was only passed on the way to a key with points. -/
  | dotted
deriving DecidableEq, Repr

/-- What a key of a table stands for while the document is read. -/
inductive Item
  | value (value : Value)
  | table (kind : TableKind) (entries : List (String × Item))
  | tables (elements : List (List (String × Item)))

/-- The keys of a table, in the order in which they were first given. -/
abbrev Entries := List (String × Item)

mutual

/-- The value of an item once the document is complete. -/
def Item.close : Item → Value
  | .value value => value
  | .table _ entries => .table (closeEntries entries)
  | .tables elements => .list (closeTables elements)

/-- The values of the keys of a table. -/
def closeEntries : List (String × Item) → List (String × Value)
  | [] => []
  | (key, item) :: entries => (key, item.close) :: closeEntries entries

/-- The values of the tables of a list. -/
def closeTables : List (List (String × Item)) → List Value
  | [] => []
  | entries :: elements => .table (closeEntries entries) :: closeTables elements

end

namespace Entries

/-- The item of a key. -/
def get? (key : String) (entries : Entries) : Option Item :=
  (entries.find? fun entry => entry.1 == key).map Prod.snd

/-- The entries with another item for a key, which keeps its place. -/
def replace (key : String) (item : Item) (entries : Entries) : Entries :=
  entries.map fun entry => if entry.1 == key then (key, item) else entry

/-- The entries without a key. -/
def remove (key : String) (entries : Entries) : Entries :=
  entries.filter fun entry => entry.1 != key

/-- A change is made to the table that a path leads to, the tables on the way being created. -/
def within (created : TableKind) (change : TableKind → Entries → Option Entries) :
    (path : List String) → TableKind → Entries → Option Entries
  | [], kind, entries => change kind entries
  | key :: path, _, entries =>
    match entries.get? key with
    | none => do
      let inner ← within created change path created []
      some (entries ++ [(key, .table created inner)])
    | some (.value _) => none
    | some (.table kind inner) =>
      -- Keys with points add nothing to a table that has a header.
      if created = .dotted ∧ kind = .headed then none else do
      let inner ← within created change path kind inner
      some (entries.replace key (.table kind inner))
    -- A path leads into the table that was added last.
    | some (.tables elements) => do
      let last ← elements.getLast?
      let inner ← within created change path .headed last
      some (entries.replace key (.tables (elements.dropLast ++ [inner])))

/-- A value is given to a key with points, inside a table that has a header. -/
def assign (path : List String) (key : String) (value : Value) (entries : Entries) :
    Option Entries :=
  within .dotted (fun kind entries =>
    -- A key is given once, and keys with points reach only tables that such keys have made.
    if (path.isEmpty ∨ kind = .dotted) ∧ (entries.get? key).isNone then
      some (entries ++ [(key, .value value)])
    else none) path .headed entries

/-- A header opens a table, which takes over what was added to it on the way to other headers. -/
def openTable (path : List String) (key : String) (entries : Entries) : Option Entries :=
  within .implied (fun _ entries =>
    match entries.get? key with
    | none => some (entries ++ [(key, .table .headed [])])
    -- Such a table is listed where its own header stands.
    | some (.table .implied inner) => some (entries.remove key ++ [(key, .table .headed inner)])
    | some _ => none) path .headed entries

/-- A header opens another element of a list of tables. -/
def openElement (path : List String) (key : String) (entries : Entries) : Option Entries :=
  within .implied (fun _ entries =>
    match entries.get? key with
    | none => some (entries ++ [(key, .tables [[]])])
    | some (.tables elements) => some (entries.replace key (.tables (elements ++ [[]])))
    | some _ => none) path .headed entries

end Entries

/-- The values of a list after its opening bracket or a comma, with line ends and comments between
them and perhaps a comma after the last one. -/
def elements (read : Reader Value) (text : List Char) : Option (List Value × List Char) :=
  match skipLines false text with
  -- Either the list is empty, or the last element had a comma behind it.
  | ']' :: rest => some ([], rest)
  | start => do
    let (value, rest) ← read start
    match skipLines false rest with
    | ']' :: rest => some ([value], rest)
    | ',' :: rest =>
      if _shorter : rest.length < text.length then
        let (values, rest) ← elements read rest
        some (value :: values, rest)
      else none
    | _ => none
termination_by text.length

/-- A key, an equals sign and a value. -/
def pair (read : Reader Value) : Reader ((List String × String) × Value) := fun text => do
  let (key, rest) ← key text
  let (value, rest) ← read (skipGap (← expect '=' rest))
  some ((key, value), rest)

/-- The keys of an inline table after its opening brace or a comma, all on one line. -/
def inlineEntries (read : Reader Value) (entries : Entries) (text : List Char) :
    Option (Entries × List Char) := do
  let (((path, key), value), rest) ← pair read text
  let entries ← entries.assign path key value
  match skipGap rest with
  | '\x7d' :: rest => some (entries, rest)
  -- Behind a comma there has to be another pair.
  | ',' :: rest =>
    if _shorter : rest.length < text.length then inlineEntries read entries rest else none
  | _ => none
termination_by text.length

/-- A value without parts of its own. -/
def scalar : Reader Value := fun text =>
  match text with
  | '"' :: _ => (string text).map fun (chars, rest) => (.text (String.ofList chars), rest)
  | '\'' :: _ => (string text).map fun (chars, rest) => (.text (String.ofList chars), rest)
  | 't' :: 'r' :: 'u' :: 'e' :: rest => some (.boolean true, rest)
  | 'f' :: 'a' :: 'l' :: 's' :: 'e' :: rest => some (.boolean false, rest)
  | _ => dateOrNumber text

/-- A value whose lists and inline tables are nested at most to a depth. -/
def value : (depth : Nat) → Reader Value
  | 0, text => scalar text
  | depth + 1, text =>
    match text with
    | '[' :: rest => (elements (value depth) rest).map fun (values, rest) => (.list values, rest)
    | '\x7b' :: rest =>
      match skipGap rest with
      | '\x7d' :: rest => some (.table [], rest)
      | rest => (inlineEntries (value depth) [] rest).map fun (entries, rest) =>
          (.table (closeEntries entries), rest)
    | _ => scalar text

/-- The depth to which values may be nested. -/
def valueDepth : Nat := 79

/-- A document as far as it has been read: its entries, and the path to the table that is open. -/
structure Draft where
  entries : Entries
  current : List String

/-- A header, the text starting with its bracket. -/
def header (draft : Draft) (text : List Char) : Option (Draft × List Char) :=
  match text with
  | '[' :: '[' :: rest => do
    let ((path, name), rest) ← key rest
    let rest ← expect ']' (← expect ']' rest)
    some (⟨← draft.entries.openElement path name, path ++ [name]⟩, rest)
  | '[' :: rest => do
    let ((path, name), rest) ← key rest
    let rest ← expect ']' rest
    some (⟨← draft.entries.openTable path name, path ++ [name]⟩, rest)
  | _ => none

/-- A line that gives a value to a key of the open table. -/
def assignment (draft : Draft) (text : List Char) : Option (Draft × List Char) := do
  let (((path, name), value), rest) ← pair (value valueDepth) text
  let entries ← Entries.within .implied (fun _ => Entries.assign path name value) draft.current
    .headed draft.entries
  some ({ draft with entries := entries }, rest)

/-- The lines of a document from the draft of the lines before them. -/
def lines (draft : Draft) (text : List Char) : Option Draft :=
  let go (draft : Draft) (rest : List Char) : Option Draft :=
    if _shorter : rest.length < text.length then lines draft rest else none
  match text with
  | [] => some draft
  | char :: rest =>
    if isGap char then go draft rest
    else if char == '#' then do go draft (← endLine text)
    else if char == '\n' || char == '\r' then do go draft (← newline? text)
    else do
      let (draft, rest) ← if char == '[' then header draft text else assignment draft text
      go draft (← endLine rest)
termination_by text.length

/-- The entries of a whole document, in the order in which its keys were first given. -/
def document (text : String) : Option (List (String × Value)) :=
  let chars := match text.toList with
    -- A byte order mark is no part of the first line.
    | '\uFEFF' :: rest => rest
    | chars => chars
  (lines ⟨[], []⟩ chars).map fun draft => closeEntries draft.entries

end InsightRelay.Toml
