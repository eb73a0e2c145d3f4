import InsightRelay.Json.Text

/-! JSON values, and the text that a value is written as. -/

namespace InsightRelay.Json

/-- A JSON value whose numbers are integers. -/
inductive Value
  | null
  | boolean (value : Bool)
  | integer (value : Int)
  | text (value : String)
  | list (values : List Value)
  | object (members : List (String × Value))

namespace Value

/-- A text, or null. -/
def ofText? : Option String → Value
  | some value => .text value
  | none => .null

/-- An integer, or null. -/
def ofInt? : Option Int → Value
  | some value => .integer value
  | none => .null

/-- A list made of optional items, or null. -/
def ofList? {α : Type} (write : α → Value) : Option (List α) → Value
  | some values => .list (values.map write)
  | none => .null

mutual

/-- The text of a value, without gaps. -/
def write : Value → List Char
  | null => ['n', 'u', 'l', 'l']
  | boolean true => ['t', 'r', 'u', 'e']
  | boolean false => ['f', 'a', 'l', 's', 'e']
  | integer value => (toString value).toList
  | text value => writeText value.toList
  | list [] => ['[', ']']
  | list (value :: values) => '[' :: value.write ++ writeElements values
  | object [] => ['\x7b', '\x7d']
  | object ((name, value) :: members) =>
    '\x7b' :: writeText name.toList ++ ':' :: value.write ++ writeMembers members

/-- The elements of a list after the first, and its closing bracket. -/
def writeElements : List Value → List Char
  | [] => [']']
  | value :: values => ',' :: value.write ++ writeElements values

/-- The members of an object after the first, and its closing bracket. -/
def writeMembers : List (String × Value) → List Char
  | [] => ['\x7d']
  | (name, value) :: members =>
    ',' :: writeText name.toList ++ ':' :: value.write ++ writeMembers members

end

end Value

end InsightRelay.Json
