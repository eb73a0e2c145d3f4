import InsightRelay.Number.Digits
import InsightRelay.Toml.Problem

/-! The characters of TOML documents: gaps, comments, strings and keys. -/

namespace InsightRelay.Toml

/-- A reader takes something from the head of a text and hands back the rest, or refuses the text. -/
abbrev Reader (α : Type) := List Char → Option (α × List Char)

/-- The characters that separate the parts of a line. -/
def isGap (char : Char) : Bool :=
  char == ' ' || char == '\t'

/-- The text after any leading gap. -/
def skipGap (text : List Char) : List Char :=
  text.dropWhile isGap

/-- The text after the end of a line, if one stands at its head. -/
def newline? : List Char → Option (List Char)
  | '\n' :: rest => some rest
  | '\r' :: '\n' :: rest => some rest
  | _ => none

/-- Whether a character may stand in a comment. -/
def isCommentChar (char : Char) : Bool :=
  char == '\t' || (' ' ≤ char && char ≤ '~') || 0x80 ≤ char.toNat

/-- Whether a character may stand for itself in a basic string. -/
def isBasicChar (char : Char) : Bool :=
  isCommentChar char && char != '"' && char != '\\'

/-- Whether a character may stand in a literal string. -/
def isLiteralChar (char : Char) : Bool :=
  isCommentChar char && char != '\''

/-- The text after any gaps, line ends and comments, a comment being open at first or not. -/
def skipLines (comment : Bool) : List Char → List Char
  | [] => []
  | '\n' :: rest => skipLines false rest
  | '\r' :: '\n' :: rest => skipLines false rest
  | char :: rest =>
    -- A character that no comment may hold stops the walk, and whoever reads on refuses it.
    if comment then if isCommentChar char then skipLines true rest else char :: rest
    else if isGap char then skipLines false rest
    else if char == '#' then skipLines true rest
    else char :: rest

/-- The text after the rest of a line, which may hold a gap and a comment. -/
def endLine (text : List Char) : Option (List Char) :=
  let rest := match skipGap text with
    | '#' :: rest => rest.dropWhile isCommentChar
    | rest => rest
  -- The last line of a document may lack its line end.
  if rest.isEmpty then some [] else newline? rest

/-- A character written by a number of hexadecimal digits. -/
def numberedChar (count : Nat) (text : List Char) : Option Char :=
  let digits := text.take count
  if digits.length = count && digits.all (isDigitOf 16) then
    let point := numeralValue 16 digits
    -- Surrogates are no characters, not even as a pair of escapes.
    if point.isValidChar then some (Char.ofNat point) else none
  else none

/-- The character written by an escape, and how many characters the escape has after its backslash. -/
def escape : List Char → Option (Char × Nat)
  | 'b' :: _ => some ('\x08', 1)
  | 't' :: _ => some ('\t', 1)
  | 'n' :: _ => some ('\n', 1)
  | 'f' :: _ => some ('\x0c', 1)
  | 'r' :: _ => some ('\r', 1)
  | '"' :: _ => some ('"', 1)
  | '\\' :: _ => some ('\\', 1)
  | 'u' :: text => (numberedChar 4 text).map fun char => (char, 5)
  | 'U' :: text => (numberedChar 8 text).map fun char => (char, 9)
  | _ => none

/-- The characters of a basic string of one line, its opening quote having been read. -/
def basicBody (text : List Char) : Option (List Char × List Char) :=
  match text with
  | '"' :: rest => some ([], rest)
  | '\\' :: rest => do
    let (char, width) ← escape rest
    let (chars, rest) ← basicBody (rest.drop width)
    some (char :: chars, rest)
  | char :: rest =>
    if isBasicChar char then do
      let (chars, rest) ← basicBody rest
      some (char :: chars, rest)
    else none
  | [] => none
termination_by text.length

/-- The characters of a literal string of one line, its opening quote having been read. -/
def literalBody : List Char → Option (List Char × List Char)
  | '\'' :: rest => some ([], rest)
  | char :: rest =>
    if isLiteralChar char then do
      let (chars, rest) ← literalBody rest
      some (char :: chars, rest)
    else none
  | [] => none

/-- The length of the run of quotes at the head of a text. -/
def quoteRun (quote : Char) (text : List Char) : Nat :=
  (text.takeWhile (· == quote)).length

/-- What follows a backslash that ends a line: the next character that is no gap and no line end. -/
def continuedLine? (text : List Char) : Option (List Char) :=
  (newline? (skipGap text)).map skipBlankLines
where
  /-- The text after any gaps and line ends. -/
  skipBlankLines : List Char → List Char
    | '\n' :: rest => skipBlankLines rest
    | '\r' :: '\n' :: rest => skipBlankLines rest
    | char :: rest => if isGap char then skipBlankLines rest else char :: rest
    | [] => []

/-- The characters of a string of many lines, its opening quotes having been read.

Up to two quotes may stand anywhere, also right before the three that close the string. -/
def multilineBody (quote : Char) (escapes : Bool) (text : List Char) :
    Option (List Char × List Char) :=
  let go (chars rest : List Char) : Option (List Char × List Char) :=
    if _shorter : rest.length < text.length then
      (multilineBody quote escapes rest).map fun (more, rest) => (chars ++ more, rest)
    else none
  match text with
  | [] => none
  | '\n' :: rest => go ['\n'] rest
  | '\r' :: '\n' :: rest => go ['\n'] rest
  | char :: rest =>
    if char == quote then
      -- The last three quotes of a run close the string, and up to two before them belong to it.
      let run := quoteRun quote text
      if run < 3 then go (List.replicate run quote) (text.drop run)
      else if run < 6 then some (List.replicate (run - 3) quote, text.drop run)
      else none
    else if escapes && char == '\\' then
      -- A backslash at the end of a line takes that line end away, with all blanks behind it.
      match continuedLine? rest with
      | some rest => go [] rest
      | none => do
        let (char, width) ← escape rest
        go [char] (rest.drop width)
    else if isCommentChar char then go [char] rest
    else none
termination_by text.length

/-- The text after a line end that directly follows the opening quotes of a string. -/
def skipFirstNewline (text : List Char) : List Char :=
  (newline? text).getD text

/-- A string of any of the four kinds, the text starting with its quote. -/
def string (text : List Char) : Option (List Char × List Char) :=
  match text with
  | '"' :: '"' :: '"' :: rest => multilineBody '"' true (skipFirstNewline rest)
  | '"' :: rest => basicBody rest
  | '\'' :: '\'' :: '\'' :: rest => multilineBody '\'' false (skipFirstNewline rest)
  | '\'' :: rest => literalBody rest
  | _ => none

/-- Whether a character may stand in a key without quotes. -/
def isBareChar (char : Char) : Bool :=
  char.isAlphanum || char == '-' || char == '_'

/-- One part of a key. -/
def keyPart : Reader String := fun text =>
  match text with
  | '"' :: rest => (basicBody rest).map fun (chars, rest) => (String.ofList chars, rest)
  | '\'' :: rest => (literalBody rest).map fun (chars, rest) => (String.ofList chars, rest)
  | _ =>
    let chars := text.takeWhile isBareChar
    if chars.isEmpty then none else some (String.ofList chars, text.dropWhile isBareChar)

/-- The parts of a key, which points separate, with gaps around each of them. -/
def keyParts (text : List Char) : Option (List String × List Char) := do
  let (part, rest) ← keyPart (skipGap text)
  match skipGap rest with
  | '.' :: rest =>
    if _shorter : rest.length < text.length then
      let (parts, rest) ← keyParts rest
      some (part :: parts, rest)
    else none
  | rest => some ([part], rest)
termination_by text.length

/-- The number of parts that a key has to stay below. -/
def keyDepthLimit : Nat := 80

/-- A key as the names of the tables that lead to it and its own name. -/
def key : Reader (List String × String) := fun text => do
  let (parts, rest) ← keyParts text
  if keyDepthLimit ≤ parts.length then none else
  let last ← parts.getLast?
  some ((parts.dropLast, last), rest)

end InsightRelay.Toml
