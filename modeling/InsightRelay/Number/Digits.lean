/-! Numerals: the value of a run of digits in a base. -/

namespace InsightRelay

/-- The value of one digit in any base up to sixteen, its case not mattering. -/
def digitValue? (char : Char) : Option Nat :=
  if '0' ≤ char ∧ char ≤ '9' then some (char.toNat - 48)
  else if 'a' ≤ char ∧ char ≤ 'f' then some (char.toNat - 87)
  else if 'A' ≤ char ∧ char ≤ 'F' then some (char.toNat - 55)
  else none

/-- Whether a character is a digit of a base. -/
def isDigitOf (base : Nat) (char : Char) : Bool :=
  match digitValue? char with
  | some value => value < base
  | none => false

/-- The value of a numeral, where characters that are no digits count as zero. -/
def numeralValue (base : Nat) (digits : List Char) : Nat :=
  digits.foldl (fun value char => value * base + (digitValue? char).getD 0) 0

/-- The natural number that a decimal numeral stands for, with or without a plus sign in front, unless it
is greater than a limit. -/
def readNatural (limit : Nat) (text : List Char) : Option Nat :=
  let digits := match text with
    | '+' :: digits => digits
    | digits => digits
  if digits.isEmpty || !digits.all (isDigitOf 10) then none
  else if limit < numeralValue 10 digits then none
  else some (numeralValue 10 digits)

/-- A numeral with one more digit. -/
theorem numeralValue_concat (base : Nat) (digits : List Char) (digit : Char) :
    numeralValue base (digits ++ [digit]) =
      numeralValue base digits * base + (digitValue? digit).getD 0 := by
  simp [numeralValue]

/-- Zeros in front do not count, a sign alone is no numeral, and a limit is met by itself. -/
example : readNatural 65535 "+0080".toList = some 80 ∧ readNatural 65535 "+".toList = none ∧
    readNatural 65535 "65535".toList = some 65535 ∧ readNatural 65535 "65536".toList = none := by
  decide +kernel

end InsightRelay
