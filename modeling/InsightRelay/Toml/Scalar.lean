import InsightRelay.Toml.Text
import InsightRelay.Toml.Value

/-! TOML numbers, dates and times. -/

namespace InsightRelay.Toml

/-- Digits of a base after the first, with single underscores between them. -/
def moreDigits (base : Nat) : Reader (List Char)
  | '_' :: char :: rest =>
    if isDigitOf base char then (moreDigits base rest).map fun (chars, rest) => (char :: chars, rest)
    else none
  | ['_'] => none
  | char :: rest =>
    if isDigitOf base char then (moreDigits base rest).map fun (chars, rest) => (char :: chars, rest)
    else some ([], char :: rest)
  | [] => some ([], [])

/-- Digits of a base, with single underscores between them. -/
def digits (base : Nat) : Reader (List Char)
  | first :: rest =>
    if isDigitOf base first then
      (moreDigits base rest).map fun (chars, rest) => (first :: chars, rest)
    else none
  | [] => none

/-- The digits of a decimal integer, a leading zero standing alone. -/
def wholeDigits : Reader (List Char)
  | '0' :: rest => some (['0'], rest)
  | text => digits 10 text

/-- An exponent part whose letter has been read. -/
def exponentPart : Reader Int := fun text =>
  let (negative, text) := match text with
    | '+' :: text => (false, text)
    | '-' :: text => (true, text)
    | text => (false, text)
  (digits 10 text).map fun (chars, rest) =>
    let value : Int := numeralValue 10 chars
    (if negative then -value else value, rest)

/-- An optional exponent part. -/
def exponent? : Reader Int := fun text =>
  match text with
  | 'e' :: text => exponentPart text
  | 'E' :: text => exponentPart text
  | text => some (0, text)

/-- A float, which must not round to positive infinity. -/
def fractionOf (negative : Bool) (significand : List Char) (exponent : Int) : Option Value :=
  match Binary64.ofDecimal (numeralValue 10 significand) exponent with
  | some value => some (.fraction (.finite negative value))
  -- The rounded value is only compared with positive infinity, so beyond the other end it passes.
  | none => if negative then some (.fraction (.infinite true)) else none

/-- An integer, which must fit sixty-four bits. -/
def integerOf (value : Int) : Option Value :=
  if IntegerRange.integer64.holds value then some (.integer value) else none

/-- A number whose sign has been read. -/
def unsignedNumber (negative : Bool) : Reader Value := fun text =>
  match text with
  | 'i' :: 'n' :: 'f' :: rest => some (.fraction (.infinite negative), rest)
  | 'n' :: 'a' :: 'n' :: rest => some (.fraction .notANumber, rest)
  | _ => do
    let (whole, rest) ← wholeDigits text
    match rest with
    | '.' :: rest =>
      -- Both sides of the point need digits.
      let (places, rest) ← digits 10 rest
      let (exponent, rest) ← exponent? rest
      some (← fractionOf negative (whole ++ places) (exponent - places.length), rest)
    | 'e' :: rest =>
      let (exponent, rest) ← exponentPart rest
      some (← fractionOf negative whole exponent, rest)
    | 'E' :: rest =>
      let (exponent, rest) ← exponentPart rest
      some (← fractionOf negative whole exponent, rest)
    | rest =>
      let value : Int := numeralValue 10 whole
      some (← integerOf (if negative then -value else value), rest)

/-- An integer in a base that its first two characters tell. -/
def basedInteger (base : Nat) : Reader Value := fun text => do
  let (chars, rest) ← digits base text
  some (← integerOf (numeralValue base chars), rest)

/-- A number. -/
def number : Reader Value := fun text =>
  match text with
  | '+' :: rest => unsignedNumber false rest
  | '-' :: rest => unsignedNumber true rest
  | '0' :: 'x' :: rest => basedInteger 16 rest
  | '0' :: 'o' :: rest => basedInteger 8 rest
  | '0' :: 'b' :: rest => basedInteger 2 rest
  | _ => unsignedNumber false text

/-- A natural number of a fixed count of digits. -/
def fixedDigits (count : Nat) : Reader Nat := fun text =>
  let chars := text.take count
  if chars.length = count && chars.all Char.isDigit then
    some (numeralValue 10 chars, text.drop count)
  else none

/-- A natural number of two digits up to a greatest one. -/
def twoDigits (greatest : Nat) : Reader Nat := fun text => do
  let (value, rest) ← fixedDigits 2 text
  if value ≤ greatest then some (value, rest) else none

/-- The text after a given character. -/
def expect (char : Char) : List Char → Option (List Char)
  | first :: rest => if first = char then some rest else none
  | [] => none

/-- The number of days in a month. -/
def daysIn (year month : Nat) : Nat :=
  if month = 2 then
    if year % 4 = 0 ∧ (year % 100 ≠ 0 ∨ year % 400 = 0) then 29 else 28
  else if month = 4 ∨ month = 6 ∨ month = 9 ∨ month = 11 then 30
  else 31

/-- The text after a date. -/
def skipDate (text : List Char) : Option (List Char) := do
  let (year, rest) ← fixedDigits 4 text
  let (month, rest) ← twoDigits 12 (← expect '-' rest)
  let (day, rest) ← twoDigits (daysIn year month) (← expect '-' rest)
  -- The digits were bounded from above only.
  if month = 0 ∨ day = 0 then none else some rest

/-- The text after a time, whose seconds may have places and may be leap seconds. -/
def skipTime (text : List Char) : Option (List Char) := do
  let (_, rest) ← twoDigits 23 text
  let (_, rest) ← twoDigits 59 (← expect ':' rest)
  let (_, rest) ← twoDigits 60 (← expect ':' rest)
  match rest with
  | '.' :: places =>
    if (places.takeWhile Char.isDigit).isEmpty then none
    else some (places.dropWhile Char.isDigit)
  | rest => some rest

/-- The text after an offset from universal time, if there is one. -/
def skipOffset (text : List Char) : Option (List Char) :=
  let signed (rest : List Char) : Option (List Char) := do
    let (_, rest) ← twoDigits 23 rest
    let (_, rest) ← twoDigits 59 (← expect ':' rest)
    some rest
  match text with
  | 'Z' :: rest => some rest
  | 'z' :: rest => some rest
  | '+' :: rest => signed rest
  | '-' :: rest => signed rest
  | rest => some rest

/-- Whether a text starts with two digits and a colon. -/
def startsTime (text : List Char) : Bool :=
  ((fixedDigits 2 text).bind fun (_, rest) => expect ':' rest).isSome

/-- Whether a text starts with four digits and a hyphen. -/
def startsDate (text : List Char) : Bool :=
  ((fixedDigits 4 text).bind fun (_, rest) => expect '-' rest).isSome

/-- The text after a date, a time, or both. -/
def skipMoment (text : List Char) : Option (List Char) :=
  if startsDate text then do
    let rest ← skipDate text
    let timed (time : List Char) : Option (List Char) := do skipOffset (← skipTime time)
    match rest with
    -- What stands behind a date belongs to it only if a time follows: a space may as well be a gap.
    | 'T' :: time => if startsTime time then timed time else some rest
    | 't' :: time => if startsTime time then timed time else some rest
    | ' ' :: time => if startsTime time then timed time else some rest
    | rest => some rest
  else skipTime text

/-- A date, a time or a number. -/
def dateOrNumber : Reader Value := fun text =>
  if startsDate text || startsTime text then (skipMoment text).map fun rest => (.moment, rest)
  else number text

end InsightRelay.Toml
