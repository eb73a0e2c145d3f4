import InsightRelay.Fault

/-! The ways in which reading a JSON text can fail. -/

namespace InsightRelay.Json

/-- What a text was in the middle of where it ended early. -/
inductive Within
  | list
  | object
  | text
  | value
deriving DecidableEq, Repr

/-- What is wrong where a character stands that none of the admitted ones is. -/
inductive Flaw
  | colonWanted
  | commaOrListEndWanted
  | commaOrObjectEndWanted
  | wordWanted
  | valueWanted
  | textWantedForName
  | badEscape
  | loneSurrogate
  | pairWanted
  | bareControl
  | badNumber
  | numberTooGreat
  | trailingComma
  | trailingText
deriving DecidableEq, Repr

/-- The first problem met when a JSON text is read from its start. -/
inductive Problem
  /-- The text ends where more was needed. -/
  | endsEarly (within : Within)
  /-- A character stands where none of the admitted ones does. -/
  | malformed (flaw : Flaw)
  /-- The text is well formed so far and does not fit the record it is read into. -/
  | unfit (fault : Fault)
deriving DecidableEq, Repr

/-- The words for what a text was in the middle of. -/
def Within.phrase : Within → String
  | list => "a list"
  | object => "an object"
  | text => "a string"
  | value => "a value"

/-- The words for a flaw. -/
def Flaw.message : Flaw → String
  | colonWanted => "expected `:`"
  | commaOrListEndWanted => "expected `,` or `]`"
  | commaOrObjectEndWanted => "expected `,` or `\x7d`"
  | wordWanted => "expected ident"
  | valueWanted => "expected value"
  | textWantedForName => "key must be a string"
  | badEscape => "invalid escape"
  | loneSurrogate => "lone leading surrogate in hex escape"
  | pairWanted => "unexpected end of hex escape"
  | bareControl => "control character (\\u0000-\\u001F) found while parsing a string"
  | badNumber => "invalid number"
  | numberTooGreat => "number out of range"
  | trailingComma => "trailing comma"
  | trailingText => "trailing characters"

/-- The words for a problem. -/
def Problem.message : Problem → String
  | endsEarly within => "EOF while parsing " ++ within.phrase
  | malformed flaw => flaw.message
  | unfit fault => fault.message

/-- The kinds of problems. -/
inductive Kind
  /-- The text ends early. -/
  | early
  /-- The text is not well formed. -/
  | form
  /-- The text does not fit what it is read into. -/
  | content
deriving DecidableEq, Repr

/-- The kind of a problem. -/
def Problem.kind : Problem → Kind
  | endsEarly _ => .early
  | malformed _ => .form
  | unfit _ => .content

/-- A reader takes a value from the head of a text and hands back the rest. -/
abbrev Reader (α : Type) := List Char → Except Problem (α × List Char)

/-- The four characters that may stand between the parts of a JSON text. -/
def isGap (char : Char) : Bool :=
  char == ' ' || char == '\t' || char == '\n' || char == '\r'

/-- The text after any leading gap. -/
def skipGap (text : List Char) : List Char :=
  text.dropWhile isGap

/-- A given word stands at the head of the text, and the rest follows it. -/
def word : (expected text : List Char) → Except Problem (List Char)
  | [], text => .ok text
  | _ :: _, [] => .error (.endsEarly .value)
  | letter :: expected, char :: text =>
    if char = letter then word expected text else .error (.malformed .wordWanted)

/-- The text after a mark behind a gap. What is wrong with another character may depend on it. -/
def afterMark (mark : Char) (within : Within) (flaw : Char → Flaw) (text : List Char) :
    Except Problem (List Char) :=
  match skipGap text with
  | [] => .error (.endsEarly within)
  | char :: text => if char = mark then .ok text else .error (.malformed (flaw char))

end InsightRelay.Json
