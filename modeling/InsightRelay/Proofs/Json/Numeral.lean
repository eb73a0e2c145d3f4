import InsightRelay.Proofs.Json.Number

/-! Numbers taken apart: numbers that are read and numbers that are passed over are put together from the
same few readers, of digits, places and an exponent, which differ in what is made of the digits. -/

namespace InsightRelay.Json

variable {α : Type}

section Parts

/-- Nothing more is taken off, and the result is given. -/
def finish (result : Except Problem α) : Reader α := fun text =>
  result.map fun value => (value, text)

/-- A character chooses the reader of what follows it, or another reader starts with it. -/
def branch (choose : Char → Option (Reader α)) (other : Reader α) : Reader α
  | [] => other []
  | char :: text =>
    match choose char with
    | some read => read text
    | none => other (char :: text)

/-- Digits, of which there must be one, with what follows them. -/
def afterDigits (empty : Problem) (next : List Char → Reader α) : Reader α := fun text =>
  if (text.takeWhile Char.isDigit).isEmpty then
    .error (if text.isEmpty then empty else .malformed .badNumber)
  else next (text.takeWhile Char.isDigit) (text.dropWhile Char.isDigit)

variable {choose : Char → Option (Reader α)} {read other : Reader α} {char : Char}

theorem branch_some (choice : choose char = some read) (text : List Char) :
    branch choose other (char :: text) = read text := by
  simp [branch, choice]

theorem branch_none (choice : choose char = none) (text : List Char) :
    branch choose other (char :: text) = other (char :: text) := by
  simp [branch, choice]

theorem afterDigits_some {empty : Problem} {next : List Char → Reader α} {text : List Char}
    (some : text.takeWhile Char.isDigit ≠ []) : afterDigits empty next text =
      next (text.takeWhile Char.isDigit) (text.dropWhile Char.isDigit) := by
  rw [afterDigits, List.isEmpty_eq_false_iff.2 some, if_neg Bool.false_ne_true]

theorem afterDigits_none {empty : Problem} {next : List Char → Reader α} {text : List Char}
    (none : text.takeWhile Char.isDigit = []) : afterDigits empty next text =
      .error (if text.isEmpty then empty else .malformed .badNumber) := by
  rw [afterDigits, none, if_pos List.isEmpty_nil]

/-- The first character tells whether there are digits. -/
theorem afterDigits_eq (empty : Problem) (next : List Char → Reader α) (text : List Char) :
    afterDigits empty next text = match text with
      | [] => .error empty
      | first :: _ =>
        if first.isDigit then next (text.takeWhile Char.isDigit) (text.dropWhile Char.isDigit)
        else .error (.malformed .badNumber) := by
  cases text with
  | nil => rfl
  | cons first text => by_cases digit : first.isDigit = true <;> simp [afterDigits, digit]

end Parts

section Readers

variable {negative : Bool} {significand : Nat} {exponent : Int}

/-- A reader of exponents whose letter has been read. -/
def powerOf (empty : Problem) (result : Bool × List Char → Except Problem α) : Reader α :=
  let digits (down : Bool) := afterDigits empty fun digits => finish (result (down, digits))
  branch (fun char =>
      if char = '+' then some (digits false) else if char = '-' then some (digits true) else none)
    (digits false)

/-- A letter chooses a reader of exponents. -/
def powerLetter (read : Reader α) (char : Char) : Option (Reader α) :=
  if char = 'e' ∨ char = 'E' then some read else none

/-- A reader of places, with or without an exponent behind them. -/
def placesOf (empty : Problem) (result : List Char → Option (Bool × List Char) → Except Problem α) :
    Reader α :=
  afterDigits empty fun digits =>
    branch (powerLetter (powerOf empty fun power => result digits (some power)))
      (finish (result digits none))

/-- A reader of digits, with or without places and an exponent behind them. -/
def magnitudeOf (empty : Problem)
    (result : List Char → Option (List Char) → Option (Bool × List Char) → Except Problem α) : Reader α :=
  afterDigits empty fun digits =>
    if digits.head? = some '0' ∧ digits ≠ ['0'] then finish (.error (.malformed .badNumber))
    else branch (fun char =>
        if char = '.' then some (placesOf empty fun places => result digits (some places))
        else powerLetter (powerOf empty fun power => result digits none (some power)) char)
      (finish (result digits none none))

/-- A reader of digits with or without a sign before them. -/
def signedOf (read : Bool → Reader α) : Reader α :=
  branch (fun char => if char = '-' then some (read true) else none) (read false)

/-- A decimal exponent that is moved by an exponent part, if there is one. -/
def moved (exponent : Int) : Option (Bool × List Char) → Int
  | none => exponent
  | some (down, digits) =>
    exponent + if down then -(numeralValue 10 digits : Int) else numeralValue 10 digits

/-- A reader of exponents is known by what it does behind either sign and without one. -/
theorem eq_powerOf {empty : Problem} {result : Bool × List Char → Except Problem α} {read : Reader α}
    (plus : ∀ text, read ('+' :: text) =
      afterDigits empty (fun digits => finish (result (false, digits))) text)
    (minus : ∀ text, read ('-' :: text) =
      afterDigits empty (fun digits => finish (result (true, digits))) text)
    (unsigned : ∀ text, (∀ more, text ≠ '+' :: more) → (∀ more, text ≠ '-' :: more) →
      read text = afterDigits empty (fun digits => finish (result (false, digits))) text) :
    read = powerOf empty result := by
  -- The three premises are the three branches of the general reader.
  funext text
  rcases text with _ | ⟨first, text⟩
  · exact unsigned [] nofun nofun
  by_cases positive : first = '+'
  · exact positive ▸ plus text
  by_cases negative : first = '-'
  · exact negative ▸ minus text
  rw [powerOf, branch_none (by rw [if_neg positive, if_neg negative])]
  exact unsigned _ (by simp [positive]) (by simp [negative])

/-- Places end at the letter of an exponent. -/
theorem branch_powerLetter (powered : Reader α) (plain : Except Problem α) (text : List Char) :
    branch (powerLetter powered) (finish plain) text = match text with
      | 'e' :: rest => powered rest
      | 'E' :: rest => powered rest
      | rest => plain.map fun value => (value, rest) := by
  -- The two letters come first; any other character is left to whatever stands behind the number.
  rcases text with _ | ⟨letter, text⟩
  · rfl
  by_cases small : letter = 'e'
  · subst small
    exact branch_some (if_pos (.inl rfl)) text
  by_cases large : letter = 'E'
  · subst large
    exact branch_some (if_pos (.inr rfl)) text
  rw [branch_none (if_neg (not_or.2 ⟨small, large⟩))]
  split <;> simp_all [finish]

/-- Digits end at a point or at the letter of an exponent. -/
theorem branch_point (pointed powered : Reader α) (plain : Except Problem α) (text : List Char) :
    branch (fun char => if char = '.' then some pointed else powerLetter powered char) (finish plain) text =
      match text with
      | '.' :: rest => pointed rest
      | 'e' :: rest => powered rest
      | 'E' :: rest => powered rest
      | rest => plain.map fun value => (value, rest) := by
  -- Past the point, what can follow is what can follow places.
  rcases text with _ | ⟨char, text⟩
  · rfl
  by_cases point : char = '.'
  · subst point
    exact branch_some (if_pos rfl) text
  have same : branch (fun char => if char = '.' then some pointed else powerLetter powered char)
      (finish plain) (char :: text) = branch (powerLetter powered) (finish plain) (char :: text) := by
    simp [branch, point]
  rw [same, branch_powerLetter]
  split <;> simp_all

theorem exponentPart_eq : exponentPart negative significand exponent =
    powerOf (.endsEarly .value) fun power =>
      fractionOf negative significand (moved exponent (some power)) := by
  -- Behind a sign, both readers take the same digits.
  refine eq_powerOf (fun text => ?plus) (fun text => ?minus) fun text plus minus => ?unsigned
  case plus =>
    rw [afterDigits_eq]
    rfl
  case minus =>
    rw [afterDigits_eq]
    rfl
  case unsigned =>
    -- The sign is told by a match of its own, which here leaves the text as it is.
    rw [afterDigits_eq, exponentPart.eq_def]
    split
    next down behind signed =>
    split at signed
    · exact absurd rfl (plus _)
    · exact absurd rfl (minus _)
    · cases signed
      rfl

theorem skipExponent_eq : (fun text => (skipExponent text).map fun left => ((), left)) =
    powerOf (.malformed .badNumber) fun _ => .ok () := by
  -- The sign is taken off first, and then both readers take the same digits.
  have digits : ∀ text, (match text with
      | [] => .error (.malformed .badNumber)
      | first :: _ =>
        if first.isDigit then .ok (text.dropWhile Char.isDigit) else .error (.malformed .badNumber) :
        Except Problem (List Char)).map (fun left => ((), left)) =
      afterDigits (.malformed .badNumber) (fun _ => finish (.ok ())) text := by
    intro text
    rw [afterDigits_eq]
    cases text with
    | nil => rfl
    | cons first text => by_cases digit : first.isDigit = true <;> simp [digit, finish, Except.map]
  -- The sign itself is dropped, so one fact serves all three branches.
  refine eq_powerOf digits digits fun text plus minus => ?_
  rw [skipExponent.eq_def]
  split
  · exact absurd rfl (plus _)
  · exact absurd rfl (minus _)
  · exact digits text

theorem placesPart_eq : placesPart negative significand exponent =
    placesOf (.endsEarly .value) fun digits power =>
      fractionOf negative (absorb significand digits).1
        (moved (exponent - (digits.length - (absorb significand digits).2)) power) := by
  funext text
  simp only [placesOf, ← exponentPart_eq, afterDigits, branch_powerLetter]
  rfl

/-- Digits other than a zero with more behind it are not led by a zero. -/
theorem leadingZero_of {digits : List Char} (zero : ∀ next more, digits = '0' :: next :: more → False) :
    ¬ (digits.head? = some '0' ∧ digits ≠ ['0']) := by
  rintro ⟨first, more⟩
  rcases digits with _ | ⟨_, _ | ⟨_, _⟩⟩
  · contradiction
  · exact more (by simpa using first)
  · cases first
    exact zero _ _ rfl

theorem magnitude_eq : magnitude negative = magnitudeOf (.endsEarly .value) fun digits places power =>
    match places, power with
    | none, none =>
      if (absorb 0 digits).2 = 0 then .ok (integerOf negative (absorb 0 digits).1)
      else fractionOf negative (absorb 0 digits).1 (absorb 0 digits).2
    | none, some power => fractionOf negative (absorb 0 digits).1 (moved (absorb 0 digits).2 (some power))
    | some places, power => fractionOf negative (absorb (absorb 0 digits).1 places).1
        (moved ((absorb 0 digits).2 - (places.length - (absorb (absorb 0 digits).1 places).2)) power) := by
  -- Both sides take the same digits and then look at what stands behind them.
  funext text
  simp only [magnitudeOf, ← exponentPart_eq, ← placesPart_eq, afterDigits]
  rw [magnitude]
  generalize text.takeWhile Char.isDigit = digits
  generalize text.dropWhile Char.isDigit = behind
  split
  · rfl
  · rfl
  · next some zero =>
    rw [if_neg (leadingZero_of zero), branch_point, List.isEmpty_eq_false_iff.2 some,
      if_neg Bool.false_ne_true]
    -- Only here do they differ in shape: without a point and a letter, digits left over make a fraction.
    rcases absorb 0 digits with ⟨significand, left⟩
    simp only
    split
    · rfl
    · rfl
    · rfl
    · next point small large =>
      by_cases none : left = 0
      · simp only [if_pos none]
        rfl
      · simp only [if_neg none]
        rfl

theorem number_eq : number = signedOf magnitude := by
  -- A text is negative or starts with a digit, and the two readers agree on which it is.
  funext text
  rcases text with _ | ⟨first, text⟩
  · rfl
  by_cases minus : first = '-'
  · subst minus
    rfl
  · rw [number, signedOf, branch_none (if_neg minus)]
    simp [minus]

theorem skipPower_eq (text : List Char) : (skipPower text).map (fun left => ((), left)) =
    branch (powerLetter (powerOf (.malformed .badNumber) fun _ => .ok ())) (finish (.ok ())) text := by
  rw [branch_powerLetter, ← skipExponent_eq, skipPower.eq_def]
  split
  · rfl
  · rfl
  · simp_all [Except.map]

/-- What follows the digits of a number that is passed over: places, an exponent or neither. -/
theorem skipPlaces_eq (text : List Char) : (skipPlaces text).map (fun left => ((), left)) =
    branch (fun char =>
        if char = '.' then some (placesOf (.malformed .badNumber) fun _ _ => .ok ())
        else powerLetter (powerOf (.malformed .badNumber) fun _ => .ok ()) char)
      (finish (.ok ())) text := by
  -- Behind a point there has to be a digit.
  have places : ∀ text, (if (text.takeWhile Char.isDigit).isEmpty then .error (.malformed .badNumber)
      else skipPower (text.dropWhile Char.isDigit)).map (fun left => ((), left)) =
      placesOf (.malformed .badNumber) (fun _ _ => .ok ()) text := by
    intro text
    simp only [placesOf, afterDigits, ← skipPower_eq, ite_self]
    split_ifs <;> rfl
  -- Behind a point there are places, and without one there may be an exponent still.
  rw [branch_point, ← skipExponent_eq, skipPlaces.eq_def]
  split
  · exact places _
  · rfl
  · rfl
  · simp_all [Except.map]

/-- The text after a number that is passed over, behind its sign. -/
def skipMagnitude (text : List Char) : Except Problem (List Char) :=
  match text.takeWhile Char.isDigit with
  | [] => .error (.malformed .badNumber)
  | '0' :: _ :: _ => .error (.malformed .badNumber)
  | _ => skipPlaces (text.dropWhile Char.isDigit)

theorem skipMagnitude_eq (text : List Char) : (skipMagnitude text).map (fun left => ((), left)) =
    magnitudeOf (.malformed .badNumber) (fun _ _ _ => .ok ()) text := by
  -- Digits are split off in the same way, and their first is judged in the same way.
  rw [skipMagnitude]
  simp only [magnitudeOf, afterDigits, ite_self]
  generalize text.takeWhile Char.isDigit = digits
  generalize text.dropWhile Char.isDigit = behind
  split
  · rfl
  · rfl
  · next some zero =>
    rw [if_neg (leadingZero_of zero), List.isEmpty_eq_false_iff.2 some, if_neg Bool.false_ne_true]
    exact skipPlaces_eq behind

theorem skipNumber_eq : (fun text => (skipNumber text).map fun left => ((), left)) =
    signedOf fun _ => magnitudeOf (.malformed .badNumber) fun _ _ _ => .ok () := by
  -- The sign is taken off first, and then both readers pass over the same digits.
  funext text
  rcases text with _ | ⟨first, text⟩
  · rfl
  by_cases minus : first = '-'
  · subst minus
    exact skipMagnitude_eq text
  · rw [signedOf, branch_none (if_neg minus), ← skipMagnitude_eq, skipNumber]
    · rfl
    · simp [minus]

end Readers

end InsightRelay.Json
