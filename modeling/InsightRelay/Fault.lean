import InsightRelay.Text.Quoted

/-! Data faults: what a document held somewhere, what was wanted there, and how the two are reported. -/

namespace InsightRelay

/-- The integers that a place admits, with the name they go by in reports. -/
structure IntegerRange where
  name : String
  least : Int
  greatest : Int
deriving DecidableEq, Repr

namespace IntegerRange

/-- Whether an integer lies in the range. -/
def holds (range : IntegerRange) (value : Int) : Bool :=
  range.least ≤ value && value ≤ range.greatest

/-- Naturals of thirty-two bits. -/
def natural32 : IntegerRange := ⟨"u32", 0, (1 <<< 32 - 1 : Nat)⟩

/-- Naturals of sixty-four bits. -/
def natural64 : IntegerRange := ⟨"u64", 0, (1 <<< 64 - 1 : Nat)⟩

/-- Naturals that count things in memory. -/
def count : IntegerRange := ⟨"usize", 0, (1 <<< 64 - 1 : Nat)⟩

/-- Integers of sixty-four bits. -/
def integer64 : IntegerRange := ⟨"i64", -(1 <<< 63 : Nat), (1 <<< 63 - 1 : Nat)⟩

end IntegerRange

/-- What a document held. -/
inductive Found
  | null
  | boolean (value : Bool)
  | integer (value : Int)
  | fraction (written : String)
  | text (value : String)
  | list
  | map
deriving DecidableEq, Repr

/-- What was wanted in its place. -/
inductive Wanted
  | text
  | boolean
  | list
  | map
  | nothing
  | integer (range : IntegerRange)
  | record (name : String)
deriving DecidableEq, Repr

/-- Why well-formed data does not fit the record it is read into. -/
inductive Fault
  | wrongType (found : Found) (wanted : Wanted)
  | wrongValue (found : Found) (wanted : Wanted)
  | wrongLength (length : Nat) (record : String) (fields : Nat)
  | missingField (name : String)
  | duplicateField (name : String)
deriving DecidableEq, Repr

/-- The words for what was found. -/
def Found.phrase : Found → String
  | null => "null"
  | boolean value => "boolean `" ++ (if value then "true" else "false") ++ "`"
  | integer value => "integer `" ++ toString value ++ "`"
  | fraction written => "floating point `" ++ written ++ "`"
  | text value => "string " ++ quoted value
  | list => "sequence"
  | map => "map"

/-- The words for what was wanted. -/
def Wanted.phrase : Wanted → String
  | text => "a string"
  | boolean => "a boolean"
  | list => "a sequence"
  | map => "a map"
  | nothing => "unit"
  | integer range => range.name
  | record name => "struct " ++ name

/-- The report of a fault. -/
def Fault.message : Fault → String
  | wrongType found wanted => "invalid type: " ++ found.phrase ++ ", expected " ++ wanted.phrase
  | wrongValue found wanted => "invalid value: " ++ found.phrase ++ ", expected " ++ wanted.phrase
  | wrongLength length record fields =>
    "invalid length " ++ toString length ++ ", expected struct " ++ record ++ " with " ++
      toString fields ++ " elements"
  | missingField name => "missing field `" ++ name ++ "`"
  | duplicateField name => "duplicate field `" ++ name ++ "`"

end InsightRelay
