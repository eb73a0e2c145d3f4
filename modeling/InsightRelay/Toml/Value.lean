import InsightRelay.Number.Shortest
import InsightRelay.Toml.Problem

/-! TOML values. -/

namespace InsightRelay.Toml

/-- A TOML float. -/
inductive Fraction
  | finite (negative : Bool) (value : Binary64)
  | infinite (negative : Bool)
  | notANumber
deriving DecidableEq, Repr

/-- Floats are always shown with a point and never with a power of ten. -/
def fractionLayout : DecimalLayout := ⟨none⟩

/-- A float in a fault report. -/
def Fraction.write : Fraction → String
  | finite negative value => fractionLayout.write negative value
  | infinite negative => if negative then "-inf" else "inf"
  | notANumber => "NaN"

/-- A TOML value, where dates and times are kept only as such. -/
inductive Value
  | text (value : String)
  | integer (value : Int)
  | fraction (value : Fraction)
  | boolean (value : Bool)
  | moment
  | list (values : List Value)
  | table (entries : List (String × Value))

/-- What a value is in a fault report. -/
def Value.found : Value → Found
  | text value => .text value
  | integer value => .integer value
  | fraction value => .fraction value.write
  | boolean value => .boolean value
  -- A date or a time is taken for a map that holds its text.
  | moment => .map
  | list _ => .list
  | table _ => .map

end InsightRelay.Toml
