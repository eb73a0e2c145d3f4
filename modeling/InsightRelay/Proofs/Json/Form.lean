import InsightRelay.Json.Problem
import Mathlib.Data.List.Forall2

/-! Forms of JSON values: the texts that a value may be written as.

A text may have gaps between its parts, the characters of a string may be escaped or not, and the members
of an object may stand in any order. -/

namespace InsightRelay.Json

/-- Which texts, without the gaps around them, a value may be written as. -/
abbrev Form (α : Type) := α → List Char → Prop

/-- A text that holds nothing but spaces, tabs and line ends. -/
def Gap (text : List Char) : Prop :=
  ∀ char ∈ text, char ∈ [' ', '\t', '\n', '\r']

/-- A text with the gaps around it. -/
structure Padded where
  before : List Char
  text : List Char
  after : List Char
  gapBefore : Gap before
  gapAfter : Gap after

/-- The text together with the gaps around it. -/
def Padded.whole (item : Padded) : List Char :=
  item.before ++ item.text ++ item.after

theorem Padded.whole_append (item : Padded) (rest : List Char) :
    item.whole ++ rest = item.before ++ (item.text ++ (item.after ++ rest)) := by
  simp [whole]

/-- A text without gaps around it. -/
def Padded.bare (text : List Char) : Padded :=
  ⟨[], text, [], fun _ member => absurd member List.not_mem_nil,
    fun _ member => absurd member List.not_mem_nil⟩

/-- A name and a value with the gaps around them. -/
structure Member where
  before : List Char
  /-- The text of the name, with its quotes. -/
  name : List Char
  after : List Char
  value : Padded
  gapBefore : Gap before
  gapAfter : Gap after

/-- The name and the value with the colon between them, together with all gaps. -/
def Member.whole (member : Member) : List Char :=
  member.before ++ member.name ++ member.after ++ ':' :: member.value.whole

theorem Member.whole_append (member : Member) (rest : List Char) : member.whole ++ rest =
    member.before ++ (member.name ++ (member.after ++ ':' :: (member.value.whole ++ rest))) := by
  simp [whole]

/-- A name and a value without gaps around them. -/
def Member.bare (name value : List Char) : Member :=
  ⟨[], name, [], .bare value, fun _ member => absurd member List.not_mem_nil,
    fun _ member => absurd member List.not_mem_nil⟩

/-- Texts with a comma before each of them. -/
def following (texts : List (List Char)) : List Char :=
  texts.flatMap (',' :: ·)

/-- Texts with a comma between each two of them. -/
def separated : (texts : List (List Char)) → List Char
  | [] => []
  | text :: texts => text ++ following texts

theorem following_cons (text : List Char) (texts : List (List Char)) :
    following (text :: texts) = ',' :: (text ++ following texts) := rfl

/-- The text of a list, given its elements. -/
def listText (gap : List Char) (items : List Padded) : List Char :=
  '[' :: gap ++ separated (items.map Padded.whole) ++ [']']

/-- The text of an object, given its members. -/
def objectText (gap : List Char) (members : List Member) : List Char :=
  '\x7b' :: gap ++ separated (members.map Member.whole) ++ ['\x7d']

section Strings

/-- A hexadecimal digit of a value, in lower or upper case. -/
def IsHexDigit (value : Nat) (digit : Char) : Prop :=
  "0123456789abcdef".toList[value]? = some digit ∨ "0123456789ABCDEF".toList[value]? = some digit

/-- Four hexadecimal digits write a code unit. -/
inductive CodeUnit : Nat → List Char → Prop
  | digits {a b c d : Nat} {first second third fourth : Char} (first_ : IsHexDigit a first)
    (second_ : IsHexDigit b second) (third_ : IsHexDigit c third) (fourth_ : IsHexDigit d fourth) :
    CodeUnit (((a * 16 + b) * 16 + c) * 16 + d) [first, second, third, fourth]

/-- The letters of the short escapes, with the characters that they stand for. -/
def letterEscapes : List (Char × Char) :=
  [('"', '"'), ('\\', '\\'), ('/', '/'), ('b', '\x08'), ('f', '\x0c'), ('n', '\n'), ('r', '\r'),
    ('t', '\t')]

/-- What a character may be written as inside a string. -/
inductive CharForm : Form Char
  | raw {char : Char} (printable : 0x20 ≤ char.toNat) (unquoted : char ≠ '"')
    (unescaped : char ≠ '\\') : CharForm char [char]
  | letter {letter char : Char} (listed : (letter, char) ∈ letterEscapes) :
    CharForm char ['\\', letter]
  | unit {char : Char} {digits : List Char} (unit : CodeUnit char.toNat digits) :
    CharForm char ('\\' :: 'u' :: digits)
  /-- A character beyond the code units is written as a pair of surrogates. -/
  | pair {char : Char} {leading trailing : Nat} {first second : List Char}
    (leading_ : CodeUnit leading first) (trailing_ : CodeUnit trailing second)
    (high : 0xD800 ≤ leading ∧ leading ≤ 0xDBFF) (low : 0xDC00 ≤ trailing ∧ trailing ≤ 0xDFFF)
    (paired : char.toNat = 0x10000 + (leading - 0xD800) * 0x400 + (trailing - 0xDC00)) :
    CharForm char ('\\' :: 'u' :: first ++ '\\' :: 'u' :: second)

/-- What characters may be written as inside a string, one after the other. -/
inductive CharsForm : Form (List Char)
  | nil : CharsForm [] []
  | cons {char : Char} {chars text texts : List Char} (first : CharForm char text)
    (rest : CharsForm chars texts) : CharsForm (char :: chars) (text ++ texts)

/-- What a string may be written as. -/
def TextForm : Form String := fun value text =>
  ∃ body, CharsForm value.toList body ∧ text = '"' :: body ++ ['"']

/-- A part of a string that is passed over, in which surrogates need not be paired. -/
inductive PassedChar : List Char → Prop
  | raw {char : Char} (printable : 0x20 ≤ char.toNat) (unquoted : char ≠ '"')
    (unescaped : char ≠ '\\') : PassedChar [char]
  | letter {letter char : Char} (listed : (letter, char) ∈ letterEscapes) :
    PassedChar ['\\', letter]
  | unit {unit : Nat} {digits : List Char} (unit_ : CodeUnit unit digits) :
    PassedChar ('\\' :: 'u' :: digits)

/-- A string that is passed over. -/
def PassedText (text : List Char) : Prop :=
  ∃ parts : List (List Char), (∀ part ∈ parts, PassedChar part) ∧
    text = '"' :: parts.flatten ++ ['"']

end Strings

section Numbers

/-- One digit or more. -/
def Digits (text : List Char) : Prop :=
  text ≠ [] ∧ ∀ char ∈ text, char.isDigit = true

/-- The places behind the point of a number, if any. -/
def Places (text : List Char) : Prop :=
  text = [] ∨ ∃ digits, Digits digits ∧ text = '.' :: digits

/-- The exponent of a number, if any. -/
def Exponent (text : List Char) : Prop :=
  text = [] ∨ ∃ letter sign digits, (letter = 'e' ∨ letter = 'E') ∧
    (sign = [] ∨ sign = ['+'] ∨ sign = ['-']) ∧ Digits digits ∧ text = letter :: (sign ++ digits)

/-- A number of any magnitude. -/
inductive NumberText : List Char → Prop
  | mk {sign digits places exponent : List Char} (signed : sign = [] ∨ sign = ['-'])
    (digits_ : Digits digits) (leading : digits.head? = some '0' → digits = ['0'])
    (places_ : Places places) (exponent_ : Exponent exponent) :
    NumberText (sign ++ digits ++ places ++ exponent)

/-- What an integer of sixty-four bits is written as. -/
def IntegerForm : Form Int64 := fun value text =>
  text = (toString value.toInt).toList

end Numbers

/-- A value that is passed over: numbers may be of any magnitude, and lists and objects may be nested
at will. -/
inductive WellFormed : List Char → Prop
  | word {text : List Char}
    (listed : text = "null".toList ∨ text = "true".toList ∨ text = "false".toList) : WellFormed text
  | text {text : List Char} (passed : PassedText text) : WellFormed text
  | number {text : List Char} (number : NumberText text) : WellFormed text
  | list {gap : List Char} {items : List Padded} (gapped : Gap gap)
    (elements : ∀ item ∈ items, WellFormed item.text) : WellFormed (listText gap items)
  | object {gap : List Char} {members : List Member} (gapped : Gap gap)
    (names : ∀ member ∈ members, PassedText member.name)
    (values : ∀ member ∈ members, WellFormed member.value.text) :
    WellFormed (objectText gap members)

section Values

variable {α : Type}

/-- What a value that may be missing is written as. -/
def OptionalForm (form : Form α) : Form (Option α)
  | none, text => text = "null".toList
  | some value, text => form value text

/-- What a list of values may be written as. -/
def ListForm (form : Form α) : Form (List α) := fun values text =>
  ∃ gap items, Gap gap ∧ List.Forall₂ (fun value (item : Padded) => form value item.text) values items ∧
    text = listText gap items

/-- What an object whose names are data may be written as, its entries in the given order. -/
def EntriesForm (form : Form α) : Form (List (String × α)) := fun entries text =>
  ∃ gap members, Gap gap ∧ List.Forall₂ (fun entry (member : Member) =>
    TextForm entry.1 member.name ∧ form entry.2 member.value.text) entries members ∧
      text = objectText gap members

/-- What the name of a variant without content may be written as: a string, or the only name in an object,
with null as its value. -/
def VariantForm : Form String := fun name text =>
  TextForm name text ∨ ∃ gap member, Gap gap ∧ TextForm name member.name ∧
    member.value.text = "null".toList ∧ text = objectText gap [member]

/-- How one field of a record is written. -/
structure FieldForm (α : Type) where
  name : String
  /-- Whether the field may be left out. -/
  idle : α → Prop
  form : Form α

/-- What a record may be written as. -/
inductive RecordForm (fields : List (FieldForm α)) : Form α
  /-- As a list of its fields in their order, where the last ones may be left out. -/
  | listed {value : α} {kept left : List (FieldForm α)} {gap : List Char} {items : List Padded}
    (whole : fields = kept ++ left) (gapped : Gap gap)
    (written : List.Forall₂ (fun field (item : Padded) => field.form value item.text) kept items)
    (idle : ∀ field ∈ left, field.idle value) : RecordForm fields value (listText gap items)
  /-- As an object with its fields in any order, between which there may be members of other names. -/
  | named {value : α} {gap : List Char} {members : List (String × Member)} (gapped : Gap gap)
    (names : ∀ entry ∈ members, TextForm entry.1 entry.2.name)
    (known : ∀ entry ∈ members, ∀ field ∈ fields, field.name = entry.1 →
      field.form value entry.2.value.text)
    (others : ∀ entry ∈ members, entry.1 ∉ fields.map FieldForm.name →
      WellFormed entry.2.value.text)
    (once : ∀ field ∈ fields, (members.map Prod.fst).count field.name ≤ 1)
    (complete : ∀ field ∈ fields, field.idle value ∨ field.name ∈ members.map Prod.fst) :
    RecordForm fields value (objectText gap (members.map Prod.snd))

/-- A field that is always written. -/
def FieldForm.needed {β : Type} (name : String) (form : Form β) (get : α → β) : FieldForm α where
  name := name
  idle := fun _ => False
  form := fun value => form (get value)

/-- A field that may be left out where it holds its default. -/
def FieldForm.defaulted {β : Type} (name : String) (default : β) (form : Form β) (get : α → β) :
    FieldForm α where
  name := name
  idle := fun value => get value = default
  form := fun value => form (get value)

end Values

end InsightRelay.Json
