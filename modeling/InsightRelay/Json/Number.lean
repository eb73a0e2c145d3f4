import InsightRelay.Json.Problem
import InsightRelay.Number.Digits
import InsightRelay.Number.Shortest

/-! JSON numbers: exact integers where they fit sixty-four bits, and rounded fractions elsewhere. -/

namespace InsightRelay.Json

/-- A number as it is read. -/
inductive Number
  | natural (value : Nat)
  | negative (value : Int)
  | fraction (negative : Bool) (value : Binary64)
deriving DecidableEq, Repr

/-- Fractions are shown with a point from five places behind it up to sixteen before it. -/
def fractionLayout : DecimalLayout := ⟨some (-5, 15)⟩

/-- The point is used from the fifth place behind it on, and for sixteen digits before it. -/
example : (Binary64.ofDecimal 123 (-7)).map (fractionLayout.write false) = some "0.0000123" ∧
    (Binary64.ofDecimal 1 (-6)).map (fractionLayout.write false) = some "1e-6" ∧
    (Binary64.ofDecimal 1 15).map (fractionLayout.write true) = some "-1000000000000000.0" ∧
    (Binary64.ofDecimal 125 14).map (fractionLayout.write true) = some "-1.25e+16" := by
  decide +kernel

/-- What a number is in a fault report. -/
def Number.found : Number → Found
  | natural value => .integer value
  | negative value => .integer value
  | fraction isNegative value => .fraction (fractionLayout.write isNegative value)

/-- The greatest significand that is kept exactly. -/
def significandLimit : Nat := 1 <<< 64 - 1

/-- The digits are appended to a significand until it would pass the limit, and the number of digits
left over is counted. -/
def absorb (significand : Nat) : (digits : List Char) → Nat × Nat
  | [] => (significand, 0)
  | digit :: digits =>
    let next := significand * 10 + (digit.toNat - 48)
    -- From here on digits only count as places, so that no later one is taken in either.
    if significandLimit < next then (significand, digits.length + 1) else absorb next digits

/-- A rounded power of ten. -/
def powerOfTen (exponent : Nat) : Binary64 :=
  (Binary64.ofDecimal 1 exponent).getD Binary64.zero

/-- A magnitude is scaled by a power of ten, with one rounding for every step of at most 308 places,
and nothing is left when it grows beyond every finite magnitude. -/
def scale (value : Binary64) (exponent : Int) : Option Binary64 :=
  if value.isZero then some value
  else if 308 < exponent then none
  else if 0 ≤ exponent then value.mul (powerOfTen exponent.toNat)
  else if -308 ≤ exponent then value.div (powerOfTen (-exponent).toNat)
  else do
    let smaller ← value.div (powerOfTen 308)
    scale smaller (exponent + 308)
termination_by (-exponent).toNat

/-- The fraction with a significand and a decimal exponent. -/
def fractionOf (negative : Bool) (significand : Nat) (exponent : Int) :
    Except Problem Number := do
  let some whole := Binary64.ofNat significand | .error (.malformed .numberTooGreat)
  let some value := scale whole exponent | .error (.malformed .numberTooGreat)
  .ok (.fraction negative value)

/-- An exponent part whose letter has been read. -/
def exponentPart (negative : Bool) (significand : Nat) (exponent : Int) : Reader Number := fun text =>
  let (down, text) := match text with
    | '+' :: text => (false, text)
    | '-' :: text => (true, text)
    | text => (false, text)
  match text with
  | [] => .error (.endsEarly .value)
  | first :: _ =>
    if first.isDigit then do
      -- The power is not bounded here: `scale` finds out what is left of the magnitude.
      let power : Int := numeralValue 10 (text.takeWhile Char.isDigit)
      let number ← fractionOf negative significand (exponent + if down then -power else power)
      .ok (number, text.dropWhile Char.isDigit)
    else .error (.malformed .badNumber)

/-- The places behind a point that has been read. -/
def placesPart (negative : Bool) (significand : Nat) (exponent : Int) : Reader Number := fun text =>
  let digits := text.takeWhile Char.isDigit
  let rest := text.dropWhile Char.isDigit
  if digits.isEmpty then .error (if text.isEmpty then .endsEarly .value else .malformed .badNumber) else
  let (significand, left) := absorb significand digits
  -- Only digits that came into the significand move its point.
  let exponent := exponent - (digits.length - left)
  match rest with
  | 'e' :: rest => exponentPart negative significand exponent rest
  | 'E' :: rest => exponentPart negative significand exponent rest
  | rest => do
    let number ← fractionOf negative significand exponent
    .ok (number, rest)

/-- An integer as a number, the negative ones that do not fit being rounded. -/
def integerOf (negative : Bool) (significand : Nat) : Number :=
  if !negative then .natural significand
  -- Minus zero is no integer, as an integer would lose its sign.
  else if 0 < significand ∧ significand ≤ 1 <<< 63 then .negative (-significand)
  else .fraction true ((Binary64.ofNat significand).getD Binary64.zero)

/-- The digits of a number and what may follow them, the sign having been read. -/
def magnitude (negative : Bool) : Reader Number := fun text =>
  let digits := text.takeWhile Char.isDigit
  let rest := text.dropWhile Char.isDigit
  match digits with
  | [] => .error (if text.isEmpty then .endsEarly .value else .malformed .badNumber)
  -- A zero stands alone before the point.
  | '0' :: _ :: _ => .error (.malformed .badNumber)
  | digits =>
    let (significand, left) := absorb 0 digits
    match rest with
    | '.' :: rest => placesPart negative significand left rest
    | 'e' :: rest => exponentPart negative significand left rest
    | 'E' :: rest => exponentPart negative significand left rest
    | rest =>
      -- Digits that the significand could not take make a fraction of it.
      if left = 0 then .ok (integerOf negative significand, rest) else do
      let number ← fractionOf negative significand left
      .ok (number, rest)

/-- A number, the text starting with a minus sign or a digit. -/
def number : Reader Number
  | '-' :: text => magnitude true text
  | text => magnitude false text

/-- The text after an exponent part whose letter has been read. -/
def skipExponent (text : List Char) : Except Problem (List Char) :=
  let text := match text with
    | '+' :: text => text
    | '-' :: text => text
    | text => text
  match text with
  -- Where the number is not wanted, a text that ends in it is malformed and not too short.
  | [] => .error (.malformed .badNumber)
  | first :: _ => if first.isDigit then .ok (text.dropWhile Char.isDigit) else .error (.malformed .badNumber)

/-- The text after a number that is not wanted, which may be too large for any magnitude. -/
def skipNumber (text : List Char) : Except Problem (List Char) :=
  let text := match text with
    | '-' :: text => text
    | text => text
  let rest := text.dropWhile Char.isDigit
  match text.takeWhile Char.isDigit with
  | [] => .error (.malformed .badNumber)
  | '0' :: _ :: _ => .error (.malformed .badNumber)
  | _ =>
    match rest with
    | '.' :: places =>
      if (places.takeWhile Char.isDigit).isEmpty then .error (.malformed .badNumber) else
      match places.dropWhile Char.isDigit with
      | 'e' :: rest => skipExponent rest
      | 'E' :: rest => skipExponent rest
      | rest => .ok rest
    | 'e' :: rest => skipExponent rest
    | 'E' :: rest => skipExponent rest
    | rest => .ok rest

end InsightRelay.Json
