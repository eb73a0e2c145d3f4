import InsightRelay.Number.Binary64

/-! The shortest decimal that reads back as a given magnitude, and the ways of laying it out. -/

namespace InsightRelay

/-- A decimal, standing for `digits * 10 ^ exponent`. -/
structure Decimal where
  digits : Nat
  exponent : Int
deriving DecidableEq, Repr

namespace Binary64

/-- The reals that round to a magnitude lie between the first and the last of these, the magnitude
itself in the middle, all three in units of `2 ^ (exponent - 2)`. -/
def interval (value : Binary64) : Nat × Nat × Nat :=
  -- Below a power of two the neighbours stand half as far apart as above it.
  let middle := 4 * value.mantissa
  let narrow := value.mantissa = 1 <<< 52 ∧ leastExponent < value.exponent
  (middle - (if narrow then 1 else 2), middle, middle + 2)

/-- The decimal exponent of the leading digit of `num / den`, both being positive. -/
def leadingExponent (num den : Nat) : Int :=
  -- A binary logarithm times log10 2 is off by less than two, and comparisons settle the rest.
  let estimate : Int := ((Nat.log2 num : Int) - Nat.log2 den) * 30103 / 100000 + 2
  let reaches (power : Int) : Bool :=
    if 0 ≤ power then Nat.pow 10 power.toNat * den ≤ num else den ≤ num * Nat.pow 10 (-power).toNat
  if reaches estimate then estimate
  else if reaches (estimate - 1) then estimate - 1
  else if reaches (estimate - 2) then estimate - 2
  else if reaches (estimate - 3) then estimate - 3
  else estimate - 4

/-- The nearest point of the grid `10 ^ exponent` among those that read back as the magnitude. -/
def nearestOnGrid (value : Binary64) (exponent : Int) : Option Nat :=
  -- Everything is put over one denominator, so that the comparisons are between naturals.
  let (low, middle, high) := value.interval
  let unit := value.exponent - 2
  let (up, down) : Nat × Nat :=
    if 0 ≤ unit then (1 <<< unit.toNat, 1) else (1, 1 <<< (-unit).toNat)
  let (step, scale) : Nat × Nat :=
    if 0 ≤ exponent then (Nat.pow 10 exponent.toNat * down, up)
    else (down, up * Nat.pow 10 (-exponent).toNat)
  let inside (point : Nat) : Bool :=
    if value.mantissa % 2 = 0 then low * scale ≤ point * step && point * step ≤ high * scale
    else low * scale < point * step && point * step < high * scale
  let below := middle * scale / step
  let above := below + 1
  let rest := middle * scale % step
  match inside below, inside above with
  | true, true =>
    if 2 * rest < step then some below
    else if step < 2 * rest then some above
    else some (below + below % 2)
  | true, false => some below
  | false, true => some above
  | false, false => none

/-- The grids of one digit up to `count` digits are tried in turn. -/
def shortestFrom (value : Binary64) (leading : Int) : (count tried : Nat) → Decimal
  | 0, tried => ⟨value.mantissa, leading - tried⟩
  | count + 1, tried =>
    match value.nearestOnGrid (leading - tried) with
    | some digits =>
      -- A magnitude just below a power of ten may round up to it, which saves a digit.
      if digits % 10 = 0 then ⟨digits / 10, leading - tried + 1⟩ else ⟨digits, leading - tried⟩
    | none => shortestFrom value leading count (tried + 1)

/-- The decimal with the fewest digits that reads back as the magnitude, the nearest of those. -/
def shortest (value : Binary64) : Decimal :=
  -- Seventeen digits always suffice.
  if value.isZero then ⟨0, 0⟩ else
  let (num, den) := inUnits value.mantissa 1 (-value.exponent)
  value.shortestFrom (leadingExponent num den) 17 0

end Binary64

/-- Where a decimal is written with a point instead of a power of ten. -/
structure DecimalLayout where
  /-- The least and the greatest exponent of the leading digit that the point is used for, or
  nothing when it is always used. -/
  positional : Option (Int × Int)

namespace DecimalLayout

/-- Digits with a decimal point, and with at least one digit on each side of it. -/
def withPoint (digits : List Char) (exponent : Int) : List Char :=
  let point := (digits.length : Int) + exponent
  if 0 ≤ exponent then digits ++ List.replicate exponent.toNat '0' ++ ['.', '0']
  else if 0 < point then digits.take point.toNat ++ '.' :: digits.drop point.toNat
  else ['0', '.'] ++ List.replicate (-point).toNat '0' ++ digits

/-- One digit, the others behind a point, and the power of ten with its sign. -/
def withPower (digits : List Char) (leading : Int) : List Char :=
  let mantissa := match digits with
    | first :: second :: rest => first :: '.' :: second :: rest
    | _ => digits
  let sign := if leading < 0 then '-' else '+'
  mantissa ++ 'e' :: sign :: Nat.toDigits 10 leading.natAbs

/-- A signed magnitude in a layout. -/
def write (layout : DecimalLayout) (negative : Bool) (value : Binary64) : String :=
  let decimal := value.shortest
  let digits := Nat.toDigits 10 decimal.digits
  let leading := (digits.length : Int) + decimal.exponent - 1
  let usesPoint := match layout.positional with
    | none => true
    | some (least, greatest) => least ≤ leading && leading ≤ greatest
  let body := if usesPoint then withPoint digits decimal.exponent else withPower digits leading
  String.ofList (if negative then '-' :: body else body)

end DecimalLayout

/-- The shortest decimal of one tenth has one digit. -/
example : (Binary64.ofDecimal 1 (-1)).map Binary64.shortest = some ⟨1, -1⟩ := by decide +kernel

/-- The least positive magnitude is written with a single digit. -/
example : (Binary64.mk 1 (-1074)).shortest = ⟨5, -324⟩ := by decide +kernel

/-- The greatest finite magnitude needs all seventeen digits. -/
example : (Binary64.mk (2 ^ 53 - 1) 971).shortest = ⟨17976931348623157, 292⟩ := by decide +kernel

end InsightRelay
