import InsightRelay.Json.Problem
import InsightRelay.Number.Digits

/-! JSON strings: reading them with their escapes, passing over them, and writing them. -/

namespace InsightRelay.Json

/-- The code unit written by the four hexadecimal digits at the head of a text.

A text of fewer than four bytes ends early, whatever its characters are. -/
def codeUnit : List Char → Except Problem Nat
  | a :: b :: c :: d :: _ =>
    match digitValue? a, digitValue? b, digitValue? c, digitValue? d with
    | some a, some b, some c, some d => .ok (((a * 16 + b) * 16 + c) * 16 + d)
    | _, _, _, _ => .error (.malformed .badEscape)
  | short => .error <|
    if (short.map Char.utf8Size).foldr (· + ·) 0 < 4 then .endsEarly .text else .malformed .badEscape

/-- The character behind a one-letter escape. -/
def letterEscape? : Char → Option Char
  | '"' => some '"'
  | '\\' => some '\\'
  | '/' => some '/'
  | 'b' => some '\x08'
  | 'f' => some '\x0c'
  | 'n' => some '\n'
  | 'r' => some '\r'
  | 't' => some '\t'
  | _ => none

/-- The character whose code units are a leading and a trailing surrogate. -/
def pairedChar (leading trailing : Nat) : Char :=
  Char.ofNat (0x10000 + (leading - 0xD800) * 0x400 + (trailing - 0xDC00))

/-- The character written by an escape, and how many characters the escape has after its backslash.

Surrogates are admitted only as a leading one followed at once by a trailing one. -/
def escape : List Char → Except Problem (Char × Nat)
  | [] => .error (.endsEarly .text)
  | 'u' :: text => do
    let unit ← codeUnit text
    if 0xDC00 ≤ unit ∧ unit ≤ 0xDFFF then .error (.malformed .loneSurrogate)
    else if unit < 0xD800 ∨ 0xDBFF < unit then .ok (Char.ofNat unit, 5)
    else match text.drop 4 with
      | [] => .error (.endsEarly .text)
      -- A trailing surrogate could still follow.
      | ['\\'] => .error (.endsEarly .text)
      | '\\' :: 'u' :: text => do
        let trailing ← codeUnit text
        if trailing < 0xDC00 ∨ 0xDFFF < trailing then .error (.malformed .loneSurrogate)
        else .ok (pairedChar unit trailing, 11)
      | _ => .error (.malformed .pairWanted)
  | char :: _ =>
    match letterEscape? char with
    | some escaped => .ok (escaped, 1)
    | none => .error (.malformed .badEscape)

/-- The characters of a string whose opening quote has been read. -/
def textBody (text : List Char) : Except Problem (List Char × List Char) :=
  match text with
  | [] => .error (.endsEarly .text)
  | '"' :: rest => .ok ([], rest)
  | '\\' :: rest => do
    let (char, width) ← escape rest
    let (chars, rest) ← textBody (rest.drop width)
    .ok (char :: chars, rest)
  | char :: rest =>
    -- Controls have to be escaped.
    if char.toNat < 0x20 then .error (.malformed .bareControl) else do
    let (chars, rest) ← textBody rest
    .ok (char :: chars, rest)
termination_by text.length

/-- How many characters an escape has after its backslash, whatever it stands for. -/
def escapeWidth : List Char → Except Problem Nat
  | [] => .error (.endsEarly .text)
  -- Surrogates are not paired up where the character is not wanted.
  | 'u' :: text => (codeUnit text).map fun _ => 5
  | char :: _ => if (letterEscape? char).isSome then .ok 1 else .error (.malformed .badEscape)

/-- The text after a string whose opening quote has been read and whose content is not wanted. -/
def skipTextBody (text : List Char) : Except Problem (List Char) :=
  match text with
  | [] => .error (.endsEarly .text)
  | '"' :: rest => .ok rest
  | '\\' :: rest => do
    let width ← escapeWidth rest
    skipTextBody (rest.drop width)
  | char :: rest =>
    if char.toNat < 0x20 then .error (.malformed .bareControl) else skipTextBody rest
termination_by text.length

/-- One character as it is written inside a string. -/
def writeChar (char : Char) : List Char :=
  match char with
  | '"' => ['\\', '"']
  | '\\' => ['\\', '\\']
  | '\x08' => ['\\', 'b']
  | '\x0c' => ['\\', 'f']
  | '\n' => ['\\', 'n']
  | '\r' => ['\\', 'r']
  | '\t' => ['\\', 't']
  | _ =>
    if char.toNat < 0x20 then
      ['\\', 'u', '0', '0', Nat.digitChar (char.toNat / 16), Nat.digitChar (char.toNat % 16)]
    else [char]

/-- A string with its quotes. -/
def writeText (chars : List Char) : List Char :=
  '"' :: chars.flatMap writeChar ++ ['"']

/-- A surrogate pair is read as one character. -/
example : (textBody "\\ud83d\\ude00\" rest".toList).toOption = some (['😀'], " rest".toList) := by
  decide +kernel

/-- A lone surrogate is refused where the string is read and passed over where it is not. -/
example : (textBody "\\ud83d\"".toList).toOption = none ∧
    (skipTextBody "\\ud83d\"".toList).toOption = some [] := by decide +kernel

end InsightRelay.Json
