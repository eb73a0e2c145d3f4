import InsightRelay.Json.Text
import InsightRelay.Json.Number

/-! Passing over a JSON value that no field wants: it must be well formed and may be nested at will. -/

namespace InsightRelay.Json

/-- A bracket that is still open. -/
inductive Nest
  | list
  | object
deriving DecidableEq, Repr

/-- What a text is in the middle of where it ends inside a bracket. -/
def Nest.within : Nest → Within
  | list => .list
  | object => .object

/-- What is wrong where neither a comma nor the end of a bracket stands behind a value. -/
def Nest.flaw : Nest → Flaw
  | list => .commaOrListEndWanted
  | object => .commaOrObjectEndWanted

/-- What stands next in the value that is passed over. -/
inductive Ahead
  /-- A value. -/
  | value
  /-- The first element of the innermost bracket, or the end of that bracket. -/
  | opening
  /-- A comma in the innermost bracket, or the end of that bracket. -/
  | separator
deriving DecidableEq, Repr

/-- The text after a scalar value that is not wanted. -/
def skipScalar : List Char → Except Problem (List Char)
  | 'n' :: text => word ['u', 'l', 'l'] text
  | 't' :: text => word ['r', 'u', 'e'] text
  | 'f' :: text => word ['a', 'l', 's', 'e'] text
  | '"' :: text => skipTextBody text
  | char :: text =>
    if char == '-' || char.isDigit then skipNumber (char :: text)
    else .error (.malformed .valueWanted)
  | [] => .error (.endsEarly .value)

/-- The text after the colon behind a name. -/
def colon (source : List Char) : Except Problem (List Char) :=
  afterMark ':' .object (fun _ => .colonWanted) source

/-- The text after the name of an object's member and its colon. -/
def skipName (text : List Char) : Except Problem (List Char) :=
  match skipGap text with
  | [] => .error (.endsEarly .object)
  | '"' :: text => do colon (← skipTextBody text)
  | _ => .error (.malformed .textWantedForName)

/-- The text at the next value of a bracket, behind its name if the bracket is an object. -/
def skipToValue (nest : Nest) (text : List Char) : Except Problem (List Char) :=
  match nest with
  | .list => .ok text
  | .object => skipName text

/-- The text after a value, where the open brackets are given from the inside out.

Every round takes at least one character, so a text that does not shrink ends the walk. -/
def skipFrom (ahead : Ahead) (nests : List Nest) (text : List Char) :
    Except Problem (List Char) :=
  let go (ahead : Ahead) (nests : List Nest) (rest : List Char) : Except Problem (List Char) :=
    if _shorter : rest.length < text.length then skipFrom ahead nests rest
    else .error (.malformed .valueWanted)
  -- After a value the walk ends unless a bracket is open.
  let close (nests : List Nest) (rest : List Char) : Except Problem (List Char) :=
    if nests.isEmpty then .ok rest else go .separator nests rest
  match ahead, nests, skipGap text with
  | .value, _, [] => .error (.endsEarly .value)
  | .value, nests, '[' :: rest => go .opening (.list :: nests) rest
  | .value, nests, '\x7b' :: rest => go .opening (.object :: nests) rest
  | .value, nests, scalar => do close nests (← skipScalar scalar)
  -- Without an open bracket there is nothing left to close.
  | _, [], rest => .ok rest
  | _, nest :: _, [] => .error (.endsEarly nest.within)
  | _, .list :: outer, ']' :: rest => close outer rest
  | _, .object :: outer, '\x7d' :: rest => close outer rest
  | .separator, nest :: outer, ',' :: rest => do go .value (nest :: outer) (← skipToValue nest rest)
  | .separator, nest :: _, _ => .error (.malformed nest.flaw)
  -- No comma stands before the first element.
  | .opening, .list :: outer, rest =>
    match rest with
    | '[' :: rest => go .opening (.list :: .list :: outer) rest
    | '\x7b' :: rest => go .opening (.object :: .list :: outer) rest
    | scalar => do close (.list :: outer) (← skipScalar scalar)
  | .opening, .object :: outer, rest => do go .value (.object :: outer) (← skipName rest)
termination_by text.length

/-- The text after one value that is not wanted. -/
def skipValue (text : List Char) : Except Problem (List Char) :=
  skipFrom .value [] text

/-- Nesting has no limit, and numbers may be beyond every magnitude. -/
example : (skipValue "[[\x7b\"a\":[1e999,\x7b\x7d]\x7d], null] x".toList).toOption = some " x".toList := by
  decide +kernel

/-- A comma calls for another element. -/
example : (skipValue "[1,]".toList).toOption = none := by decide +kernel

end InsightRelay.Json
