/-! Double-precision magnitudes: exact rounding of quotients to fifty-three binary places. -/

namespace InsightRelay

/-- A finite magnitude in double precision, standing for `mantissa * 2 ^ exponent`.

Either the mantissa has all fifty-three places or the exponent is the least one. -/
structure Binary64 where
  mantissa : Nat
  exponent : Int
deriving DecidableEq, Repr

namespace Binary64

/-- The exponent shared by zero and every magnitude too small for a full mantissa. -/
def leastExponent : Int := -1074

/-- The greatest exponent of a finite magnitude. -/
def greatestExponent : Int := 971

/-- The magnitude zero. -/
def zero : Binary64 := ⟨0, leastExponent⟩

/-- Whether a magnitude is zero. -/
def isZero (value : Binary64) : Bool :=
  value.mantissa == 0

/-- A quotient of naturals to the nearest natural, a half going to the even neighbour. -/
def roundQuotient (num den : Nat) : Nat :=
  let whole := num / den
  let twice := 2 * (num % den)
  if twice < den then whole
  else if den < twice then whole + 1
  else whole + whole % 2

/-- The quotient `num / den` in units of `2 ^ exponent`, as a numerator and a denominator. -/
def inUnits (num den : Nat) (exponent : Int) : Nat × Nat :=
  if 0 ≤ exponent then (num, den <<< exponent.toNat) else (num <<< (-exponent).toNat, den)

/-- The magnitude nearest to `num / den`, or nothing when that is beyond every finite one. -/
def ofQuotient (num den : Nat) : Option Binary64 :=
  -- The logarithms place the leading bit to within one position, and one division settles it.
  if num = 0 then some zero else
  let guess : Int := (Nat.log2 num : Int) - Nat.log2 den - 53
  let (high, low) := inUnits num den guess
  let normal := if high / low < 1 <<< 53 then guess else guess + 1
  let exponent := max normal leastExponent
  let (high, low) := inUnits num den exponent
  let mantissa := roundQuotient high low
  let rounded : Binary64 :=
    if mantissa = 1 <<< 53 then ⟨1 <<< 52, exponent + 1⟩ else ⟨mantissa, exponent⟩
  if greatestExponent < rounded.exponent then none else some rounded

/-- The magnitude nearest to a natural number. -/
def ofNat (value : Nat) : Option Binary64 :=
  ofQuotient value 1

/-- The magnitude nearest to a quotient times a power of two. -/
def ofScaled (num den : Nat) (exponent : Int) : Option Binary64 :=
  if 0 ≤ exponent then ofQuotient (num <<< exponent.toNat) den
  else ofQuotient num (den <<< (-exponent).toNat)

/-- The rounded product of two magnitudes. -/
def mul (left right : Binary64) : Option Binary64 :=
  ofScaled (left.mantissa * right.mantissa) 1 (left.exponent + right.exponent)

/-- The rounded quotient of two magnitudes, the divisor not being zero. -/
def div (left right : Binary64) : Option Binary64 :=
  ofScaled left.mantissa right.mantissa (left.exponent - right.exponent)

/-- The magnitude nearest to `digits * 10 ^ exponent`. -/
def ofDecimal (digits : Nat) (exponent : Int) : Option Binary64 :=
  -- Decimals far outside the range of magnitudes are settled by their number of places.
  let places : Int := (Nat.toDigits 10 digits).length + exponent
  if digits = 0 then some zero
  else if 400 < places then none
  else if places < -400 then some zero
  else if 0 ≤ exponent then ofQuotient (digits * Nat.pow 10 exponent.toNat) 1
  else ofQuotient digits (Nat.pow 10 (-exponent).toNat)

end Binary64

/-- One third has the mantissa that ends its repeating bits by rounding down. -/
example : Binary64.ofQuotient 1 3 = some ⟨6004799503160661, -54⟩ := by decide +kernel

/-- Half a unit above an even mantissa rounds down and above an odd one up. -/
example : Binary64.ofNat (2 ^ 53 + 1) = some ⟨2 ^ 52, 1⟩ ∧
    Binary64.ofNat (2 ^ 53 + 3) = some ⟨2 ^ 52 + 2, 1⟩ := by decide +kernel

/-- The least positive magnitude is kept, and everything up to half of it vanishes. -/
example : Binary64.ofDecimal 5 (-324) = some ⟨1, -1074⟩ ∧
    Binary64.ofDecimal 2 (-324) = some Binary64.zero := by decide +kernel

/-- The finite magnitudes end just below two to the power 1024. -/
example : Binary64.ofDecimal 17976931348623157 292 = some ⟨2 ^ 53 - 1, 971⟩ ∧
    Binary64.ofDecimal 1 309 = none := by decide +kernel

end InsightRelay
