import InsightRelay.Number.Binary64
import InsightRelay.Number.Digits
import InsightRelay.Toml.Scalar
import Mathlib.Algebra.Group.Int.Defs
import Mathlib.Algebra.Group.Nat.Defs
import Mathlib.Data.List.Infix

/-! Forms of TOML documents: the texts that keys, values and whole documents may be written as.

The grammar is that of TOML 1.0. The reader sets limits that the grammar does not have: on how deep values
are nested, on how many parts a key has, and on the magnitude of floats. Where these matter, the forms say
whether they are to be kept. -/

namespace InsightRelay.Toml

/-- Which texts a value may be written as. -/
abbrev Form (α : Type) := α → List Char → Prop

section Gaps

/-- A text that holds nothing but spaces and tabs. -/
def Gap (text : List Char) : Prop :=
  ∀ char ∈ text, char ∈ [' ', '\t']

/-- The end of a line. -/
def Newline (text : List Char) : Prop :=
  text = ['\n'] ∨ text = ['\r', '\n']

/-- A character that may stand in comments and, quotes apart, in strings. -/
def Printable (char : Char) : Prop :=
  char = '\t' ∨ 0x20 ≤ char.toNat ∧ char.toNat ≠ 0x7f

/-- A comment, if there is one. -/
def Comment (text : List Char) : Prop :=
  text = [] ∨ ∃ chars, (∀ char ∈ chars, Printable char) ∧ text = '#' :: chars

/-- Gaps, line ends and comments, as they may stand between the elements of a list. -/
inductive Filler : List Char → Prop
  | nil : Filler []
  | gap {char : Char} {more : List Char} (gap : char ∈ [' ', '\t']) (more_ : Filler more) :
    Filler (char :: more)
  | line {comment newline more : List Char} (comment_ : Comment comment) (newline_ : Newline newline)
    (more_ : Filler more) : Filler (comment ++ (newline ++ more))

end Gaps

section Strings

/-- The letters of the short escapes, with the characters that they stand for. -/
def letterEscapes : List (Char × Char) :=
  [('b', '\x08'), ('t', '\t'), ('n', '\n'), ('f', '\x0c'), ('r', '\r'), ('"', '"'), ('\\', '\\')]

/-- A number of hexadecimal digits that write a value. -/
structure HexDigits (count value : Nat) (digits : List Char) : Prop where
  count : digits.length = count
  each : ∀ char ∈ digits, isDigitOf 16 char = true
  value : numeralValue 16 digits = value

/-- What a character may be written as behind a backslash. -/
inductive EscapeForm : Form Char
  | letter {letter char : Char} (listed : (letter, char) ∈ letterEscapes) : EscapeForm char [letter]
  | short {char : Char} {digits : List Char} (digits_ : HexDigits 4 char.toNat digits) :
    EscapeForm char ('u' :: digits)
  | long {char : Char} {digits : List Char} (digits_ : HexDigits 8 char.toNat digits) :
    EscapeForm char ('U' :: digits)

/-- What a character may be written as inside a basic string. -/
inductive CharForm : Form Char
  | raw {char : Char} (printable : Printable char) (unquoted : char ≠ '"') (unescaped : char ≠ '\\') :
    CharForm char [char]
  | escape {char : Char} {text : List Char} (escape : EscapeForm char text) : CharForm char ('\\' :: text)

/-- What characters may be written as inside a basic string, one after the other. -/
inductive CharsForm : Form (List Char)
  | nil : CharsForm [] []
  | cons {char : Char} {chars text texts : List Char} (first : CharForm char text)
    (rest : CharsForm chars texts) : CharsForm (char :: chars) (text ++ texts)

/-- What a string may be written as on one line, with escapes. -/
def BasicForm : Form String := fun value text =>
  ∃ body, CharsForm value.toList body ∧ text = '"' :: body ++ ['"']

/-- What a string may be written as on one line, without escapes. -/
def LiteralForm : Form String := fun value text =>
  (∀ char ∈ value.toList, Printable char ∧ char ≠ '\'') ∧ text = '\'' :: value.toList ++ ['\'']

/-- A part of a string of many lines that is no quote. -/
inductive LinePart (quote : Char) (escapes : Bool) : List Char → Prop
  | raw {char : Char} (printable : Printable char) (unquoted : char ≠ quote)
    (unescaped : escapes = true → char ≠ '\\') : LinePart quote escapes [char]
  | newline {text : List Char} (newline_ : Newline text) : LinePart quote escapes text
  | escape {char : Char} {text : List Char} (escapes_ : escapes = true) (escape : EscapeForm char text) :
    LinePart quote escapes ('\\' :: text)
  /-- A backslash at the end of a line takes away what is blank behind it. -/
  | goesOn {gap newline : List Char} (escapes_ : escapes = true) (gapped : Gap gap)
    (newline_ : Newline newline) : LinePart quote escapes ('\\' :: (gap ++ newline))

/-- The inside of a string of many lines, where at most two quotes stand next to each other. -/
inductive LinesBody (quote : Char) (escapes : Bool) : (quoted : Bool) → List Char → Prop
  | nil {quoted : Bool} : LinesBody quote escapes quoted []
  | part {quoted : Bool} {part more : List Char} (part_ : LinePart quote escapes part)
    (more_ : LinesBody quote escapes false more) : LinesBody quote escapes quoted (part ++ more)
  | quotes {count : Nat} {more : List Char} (few : count = 1 ∨ count = 2)
    (more_ : LinesBody quote escapes true more) :
    LinesBody quote escapes false (List.replicate count quote ++ more)

/-- A string of many lines, which may start on the line behind its quotes. -/
def LinesText (quote : Char) (escapes : Bool) (text : List Char) : Prop :=
  ∃ first body, (first = [] ∨ Newline first) ∧ LinesBody quote escapes false body ∧
    text = List.replicate 3 quote ++ (first ++ (body ++ List.replicate 3 quote))

/-- A string of any of the four kinds. -/
inductive StringText : List Char → Prop
  | basic {value : String} {text : List Char} (form : BasicForm value text) : StringText text
  | literal {value : String} {text : List Char} (form : LiteralForm value text) : StringText text
  | basicLines {text : List Char} (lines : LinesText '"' true text) : StringText text
  | literalLines {text : List Char} (lines : LinesText '\'' false text) : StringText text

end Strings

section Keys

/-- What a key of one part may be written as. -/
inductive KeyForm : Form String
  | bare {name : String} (some : name.toList ≠ [])
    (plain : ∀ char ∈ name.toList, char.isAlphanum = true ∨ char = '-' ∨ char = '_') :
    KeyForm name name.toList
  | basic {name : String} {text : List Char} (form : BasicForm name text) : KeyForm name text
  | literal {name : String} {text : List Char} (form : LiteralForm name text) : KeyForm name text

/-- What a key may be written as, with points between its parts. -/
inductive PathForm : Form (List String)
  | last {name : String} {text : List Char} (key : KeyForm name text) : PathForm [name] text
  | more {name : String} {path : List String} {text before after texts : List Char}
    (key : KeyForm name text) (gapBefore : Gap before) (gapAfter : Gap after)
    (rest : PathForm path texts) :
    PathForm (name :: path) (text ++ (before ++ '.' :: (after ++ texts)))

end Keys

section Numbers

/-- Digits of a base, written with single underscores between them or without. -/
inductive Grouped (base : Nat) : Form (List Char)
  | single {digit : Char} (digit_ : isDigitOf base digit = true) : Grouped base [digit] [digit]
  | digit {digit : Char} {digits text : List Char} (digit_ : isDigitOf base digit = true)
    (more : Grouped base digits text) : Grouped base (digit :: digits) (digit :: text)
  | underscore {digit : Char} {digits text : List Char} (digit_ : isDigitOf base digit = true)
    (more : Grouped base digits text) : Grouped base (digit :: digits) (digit :: '_' :: text)

/-- The digits of a decimal integer, of which a zero is the first one only if it is the only one. -/
structure WholeForm (digits text : List Char) : Prop where
  grouped : Grouped 10 digits text
  leading : digits.head? = some '0' → digits = ['0']

/-- A sign, if there is one. -/
def Sign (text : List Char) : Prop :=
  text = [] ∨ text = ['+'] ∨ text = ['-']

/-- The letters that tell the base of an integer. -/
def bases : List (Char × Nat) :=
  [('x', 16), ('o', 8), ('b', 2)]

/-- What an integer may be written as. -/
inductive IntegerForm : Form Int
  | natural {digits sign text : List Char} (signed : sign = [] ∨ sign = ['+'])
    (whole : WholeForm digits text) : IntegerForm (numeralValue 10 digits) (sign ++ text)
  | negative {digits text : List Char} (whole : WholeForm digits text) :
    IntegerForm (-numeralValue 10 digits) ('-' :: text)
  | based {letter : Char} {base : Nat} {digits text : List Char} (listed : (letter, base) ∈ bases)
    (grouped : Grouped base digits text) :
    IntegerForm (numeralValue base digits) ('0' :: letter :: text)

/-- What a decimal exponent may be written as, the letter being given. -/
inductive PowerForm : Form Int
  | up {digits sign text : List Char} {letter : Char} (letter_ : letter = 'e' ∨ letter = 'E')
    (signed : sign = [] ∨ sign = ['+']) (grouped : Grouped 10 digits text) :
    PowerForm (numeralValue 10 digits) (letter :: (sign ++ text))
  | down {digits text : List Char} {letter : Char} (letter_ : letter = 'e' ∨ letter = 'E')
    (grouped : Grouped 10 digits text) : PowerForm (-numeralValue 10 digits) (letter :: '-' :: text)

/-- A float is beyond the limits when it rounds to positive infinity. -/
def Overflows (sign digits : List Char) (exponent : Int) : Prop :=
  sign ≠ ['-'] ∧ Binary64.ofDecimal (numeralValue 10 digits) exponent = none

/-- A float, which keeps to the limits where these are asked for. -/
inductive FloatText (limited : Prop) : List Char → Prop
  | places {sign whole places text placesText : List Char}
    (signed : Sign sign) (whole_ : WholeForm whole text)
    (places_ : Grouped 10 places placesText)
    (fits : limited → ¬ Overflows sign (whole ++ places) (-places.length)) :
    FloatText limited (sign ++ (text ++ '.' :: placesText))
  | placesPower {sign whole places text placesText power : List Char} {exponent : Int}
    (signed : Sign sign) (whole_ : WholeForm whole text)
    (places_ : Grouped 10 places placesText) (power_ : PowerForm exponent power)
    (fits : limited → ¬ Overflows sign (whole ++ places) (exponent - places.length)) :
    FloatText limited (sign ++ (text ++ '.' :: (placesText ++ power)))
  | power {sign whole text power : List Char} {exponent : Int}
    (signed : Sign sign) (whole_ : WholeForm whole text)
    (power_ : PowerForm exponent power) (fits : limited → ¬ Overflows sign whole exponent) :
    FloatText limited (sign ++ (text ++ power))
  | special {sign text : List Char} (signed : Sign sign)
    (listed : text = "inf".toList ∨ text = "nan".toList) : FloatText limited (sign ++ text)

end Numbers

section Moments

/-- A number with a fixed count of decimal digits. -/
structure FixedForm (count value : Nat) (digits : List Char) : Prop where
  count : digits.length = count
  each : ∀ char ∈ digits, char.isDigit = true
  value : numeralValue 10 digits = value

/-- A day of the calendar. -/
inductive DateText : List Char → Prop
  | mk {year month day : Nat} {first second third : List Char} (year_ : FixedForm 4 year first)
    (month_ : FixedForm 2 month second) (day_ : FixedForm 2 day third)
    (inYear : 1 ≤ month ∧ month ≤ 12) (inMonth : 1 ≤ day ∧ day ≤ daysIn year month) :
    DateText (first ++ '-' :: (second ++ '-' :: third))

/-- A time of the day, whose seconds may have places. -/
inductive TimeText : List Char → Prop
  | mk {hour minute second : Nat} {first next third places : List Char} (hour_ : FixedForm 2 hour first)
    (minute_ : FixedForm 2 minute next) (second_ : FixedForm 2 second third)
    (inDay : hour ≤ 23 ∧ minute ≤ 59 ∧ second ≤ 60)
    (places_ : places = [] ∨ ∃ digits, digits ≠ [] ∧ (∀ char ∈ digits, char.isDigit = true) ∧
      places = '.' :: digits) :
    TimeText (first ++ ':' :: (next ++ ':' :: (third ++ places)))

/-- An offset from universal time, if there is one. -/
inductive OffsetText : List Char → Prop
  | local_ : OffsetText []
  | universal {letter : Char} (letter_ : letter = 'Z' ∨ letter = 'z') : OffsetText [letter]
  | signed {hour minute : Nat} {sign : Char} {first next : List Char} (sign_ : sign = '+' ∨ sign = '-')
    (hour_ : FixedForm 2 hour first) (minute_ : FixedForm 2 minute next)
    (inDay : hour ≤ 23 ∧ minute ≤ 59) : OffsetText (sign :: (first ++ ':' :: next))

/-- A date, a time, or both. -/
inductive MomentText : List Char → Prop
  | date {text : List Char} (date : DateText text) : MomentText text
  | time {text : List Char} (time : TimeText text) : MomentText text
  | both {date time offset : List Char} {between : Char} (date_ : DateText date)
    (between_ : between ∈ ['T', 't', ' ']) (time_ : TimeText time) (offset_ : OffsetText offset) :
    MomentText (date ++ between :: (time ++ offset))

end Moments

section Values

/-- An element of a list with what stands around it. -/
structure Element where
  before : List Char
  text : List Char
  after : List Char
  fillerBefore : Filler before
  fillerAfter : Filler after

/-- The element together with what stands around it. -/
def Element.whole (element : Element) : List Char :=
  element.before ++ (element.text ++ element.after)

/-- A key with its value and the gaps around them. -/
structure Entry where
  before : List Char
  path : List String
  /-- The text of the key. -/
  key : List Char
  beforeSign : List Char
  afterSign : List Char
  /-- The text of the value. -/
  value : List Char
  after : List Char
  gapBefore : Gap before
  gapBeforeSign : Gap beforeSign
  gapAfterSign : Gap afterSign
  gapAfter : Gap after

/-- The key, the equals sign and the value, together with all gaps. -/
def Entry.whole (entry : Entry) : List Char :=
  entry.before ++ (entry.key ++ (entry.beforeSign ++ '=' :: (entry.afterSign ++
    (entry.value ++ entry.after))))

/-- Texts with a comma between each two of them. -/
def separated : (texts : List (List Char)) → List Char
  | [] => []
  | [text] => text
  | text :: texts => text ++ ',' :: separated texts

/-- Two keys can stand in one table: neither is part of the way to the other. -/
def Apart (path other : List String) : Prop :=
  ¬ path <+: other ∧ ¬ other <+: path

/-- The number of parts that a key stays below, where the limits are kept. -/
def partLimit : Nat := 80

/-- A value of a nesting depth, which keeps to the limits where these are asked for. -/
inductive ValueText (limited : Prop) : (depth : Nat) → List Char → Prop
  | string {depth : Nat} {text : List Char} (string : StringText text) : ValueText limited depth text
  | boolean {depth : Nat} {text : List Char} (listed : text = "true".toList ∨ text = "false".toList) :
    ValueText limited depth text
  | integer {depth : Nat} {value : Int} {text : List Char} (form : IntegerForm value text)
    (fits : -2 ^ 63 ≤ value ∧ value < 2 ^ 63) : ValueText limited depth text
  | float {depth : Nat} {text : List Char} (float : FloatText limited text) :
    ValueText limited depth text
  | moment {depth : Nat} {text : List Char} (moment : MomentText text) : ValueText limited depth text
  | list {depth : Nat} {elements : List Element} {comma filler : List Char} (filler_ : Filler filler)
    (values : ∀ element ∈ elements, ValueText limited depth element.text)
    (comma_ : comma = [] ∨ comma = [','] ∧ elements ≠ []) :
    ValueText limited (depth + 1)
      ('[' :: (separated (elements.map Element.whole) ++ (comma ++ (filler ++ [']']))))
  | table {depth : Nat} {entries : List Entry} {gap : List Char} (gapped : Gap gap)
    (keys : ∀ entry ∈ entries, PathForm entry.path entry.key)
    (values : ∀ entry ∈ entries, ValueText limited depth entry.value)
    (apart : entries.Pairwise fun entry other => Apart entry.path other.path)
    (short : limited → ∀ entry ∈ entries, entry.path.length < partLimit) :
    ValueText limited (depth + 1)
      ('\x7b' :: (gap ++ (separated (entries.map Entry.whole) ++ ['\x7d'])))

/-- What a truth value is written as. -/
def BooleanForm : Form Bool := fun value text =>
  text = (if value then "true" else "false").toList

/-- What a natural number may be written as. -/
def NaturalForm : Form Nat := fun value text =>
  IntegerForm value text

end Values

section Documents

/-- A line of a document, which gives a value to a key or is blank, and may end with a comment. -/
structure Row where
  entry : Option Entry
  gap : List Char
  comment : List Char
  gapped : Gap gap
  commented : Comment comment

/-- The text of a line without its end. -/
def Row.text (row : Row) : List Char :=
  row.entry.elim [] Entry.whole ++ (row.gap ++ row.comment)

/-- The lines of a document without headers, the last of which has no end. -/
structure Rows where
  rows : List (Row × List Char)
  last : Row
  newlines : ∀ row ∈ rows, Newline row.2

/-- The text of a document. -/
def Rows.text (document : Rows) : List Char :=
  document.rows.flatMap (fun row => row.1.text ++ row.2) ++ document.last.text

/-- The keys of a document with their values, in the order in which they are written. -/
def Rows.entries (document : Rows) : List Entry :=
  (document.rows.map Prod.fst ++ [document.last]).filterMap Row.entry

/-- How one field of a record is written. -/
structure FieldForm (α : Type) where
  name : String
  /-- Whether the field may be left out. -/
  idle : α → Prop
  form : Form α

namespace FieldForm

variable {α β : Type}

/-- A field that is always written. -/
def needed (name : String) (form : Form β) (get : α → β) : FieldForm α where
  name := name
  idle := fun _ => False
  form := fun value => form (get value)

/-- A field that is written where it is set. -/
def optional (name : String) (form : Form β) (get : α → Option β) : FieldForm α where
  name := name
  idle := fun value => get value = none
  form := fun value text => ∃ inner, get value = some inner ∧ form inner text

/-- A field that may be left out where it holds its default. -/
def defaulted (name : String) (default : β) (form : Form β) (get : α → β) : FieldForm α where
  name := name
  idle := fun value => get value = default
  form := fun value => form (get value)

end FieldForm

/-- The depth up to which values may be nested, where the limits are kept. -/
def depthLimit : Nat := 79

/-- What a record may be written as: its fields in any order, with keys of other names between them. -/
structure RecordForm {α : Type} (limited : Prop) (fields : List (FieldForm α)) (value : α)
    (document : Rows) : Prop where
  keys : ∀ entry ∈ document.entries, PathForm entry.path entry.key
  /-- The keys of fields have one part and the values of these. -/
  known : ∀ entry ∈ document.entries, ∀ field ∈ fields, field.name ∈ entry.path.head? →
    entry.path = [field.name] ∧ field.form value entry.value
  /-- All other keys may have points and have values of any kind. -/
  others : ∀ entry ∈ document.entries, (∀ field ∈ fields, field.name ∉ entry.path.head?) →
    ∃ depth, (limited → depth ≤ depthLimit) ∧ ValueText limited depth entry.value
  apart : document.entries.Pairwise fun entry other => Apart entry.path other.path
  short : limited → ∀ entry ∈ document.entries, entry.path.length < partLimit
  complete : ∀ field ∈ fields, field.idle value ∨ [field.name] ∈ document.entries.map Entry.path

end Documents

end InsightRelay.Toml
