import InsightRelay.Url.Basic
import Mathlib.Data.List.TakeWhile

/-! Authorities taken apart: user information up to the last `@`, the host, and what stands behind it,
with the number that is written there for a port. -/

namespace InsightRelay

/-- Two steps come to a result if each of them does. -/
theorem bind_eq_ok_iff {ε α β : Type} {first : Except ε α} {next : α → Except ε β}
    {value : β} :
    first >>= next = .ok value ↔ ∃ between, first = .ok between ∧ next between = .ok value := by
  -- Where the first step fails neither side holds.
  cases first <;> simp [bind, Except.bind]

/-- A step behind a check is only taken when the check does not fail. -/
theorem check_eq_ok_iff {ε α : Type} {fails : Prop} [Decidable fails] {problem : ε}
    {next : PUnit → Except ε α} {value : α} :
    (if fails then throw problem >>= next else next ⟨⟩) = .ok value ↔
      ¬ fails ∧ next ⟨⟩ = .ok value := by
  split
  · simp [throw, throwThe, MonadExceptOf.throw, bind, Except.bind, *]
  · simp [*]

/-- A text writes a number as a decimal numeral, with or without a plus sign in front. -/
def WritesNumber (text : List Char) (number : Nat) : Prop :=
  ∃ digits, (text = digits ∨ text = '+' :: digits) ∧ digits ≠ [] ∧
    (∀ digit ∈ digits, isDigitOf 10 digit = true) ∧ numeralValue 10 digits = number

/-- A number is written with digits and the sign alone. -/
theorem WritesNumber.not_mem {text : List Char} {number : Nat} (writes : WritesNumber text number)
    {char : Char} (other : char ≠ '+') (apart : isDigitOf 10 char = false) : char ∉ text := by
  -- The digits are told from the character by what they are digits of.
  obtain ⟨digits, written, -, each, -⟩ := writes
  have outside : char ∉ digits := by
    intro member
    rw [each char member] at apart
    exact Bool.noConfusion apart
  rcases written with rfl | rfl
  · exact outside
  · simp [other, outside]

/-- A numeral is read as if it had a plus sign in front. -/
private theorem readNatural_digits {limit : Nat} {text digits : List Char}
    (written : text = digits ∨ text = '+' :: digits)
    (each : ∀ digit ∈ digits, isDigitOf 10 digit = true) :
    readNatural limit text = readNatural limit ('+' :: digits) := by
  -- Where there is no sign, the first digit is not taken for one.
  rcases written with rfl | rfl
  · cases text with
    | nil => rfl
    | cons first digits =>
      have unsigned : first ≠ '+' := by
        rintro rfl
        exact absurd (each '+' (by simp)) (by decide)
      simp [readNatural, unsigned]
  · rfl

/-- What can be read as a number up to a limit is what writes such a number. -/
theorem readNatural_eq_some_iff {limit number : Nat} {text : List Char} :
    readNatural limit text = some number ↔ WritesNumber text number ∧ number ≤ limit := by
  constructor
  · -- The digits are what is left once a sign is taken off.
    intro read
    unfold readNatural at read
    extract_lets digits at read
    split at read
    · simp at read
    · rename_i proper
      simp only [Bool.or_eq_true, List.isEmpty_iff, Bool.not_eq_true', not_or] at proper
      obtain ⟨filled, each⟩ := proper
      rw [Bool.not_eq_false, List.all_eq_true] at each
      split at read
      · simp at read
      · rename_i within
        obtain rfl := Option.some.inj read
        -- Only a plus may stand in front of the digits.
        have written : text = digits ∨ text = '+' :: digits := by
          simp only [digits]
          split <;> simp
        exact ⟨⟨digits, written, filled, each, rfl⟩, by omega⟩
  · -- Digits are no sign, so they are read as they are written.
    rintro ⟨⟨digits, written, filled, each, rfl⟩, within⟩
    have all : digits.all (isDigitOf 10) = true := List.all_eq_true.2 each
    rw [readNatural_digits written each]
    simp [readNatural, filled, all, within]

/-- Each decimal digit has its value. -/
private theorem digitValue?_digitChar :
    ∀ value < 10, digitValue? (Nat.digitChar value) = some value := by
  decide

/-- The digits of a number write it. -/
theorem writesNumber_toDigits (number : Nat) :
    WritesNumber (Nat.toDigits 10 number) number := by
  refine ⟨_, .inl rfl, Nat.toDigits_ne_nil, ?_⟩
  -- The last digit is split off until one is left.
  induction number using Nat.strongRecOn with
  | ind number ih =>
    rw [Nat.toDigits_eq_if (by decide)]
    split
    · next small =>
      have value := digitValue?_digitChar number small
      simp [numeralValue, isDigitOf, value, small]
    · next great =>
      obtain ⟨each, value⟩ := ih (number / 10) (by omega)
      -- The others write what is left when the number is divided by ten.
      have last := digitValue?_digitChar (number % 10) (by omega)
      constructor
      · intro digit member
        rcases List.mem_append.1 member with earlier | end_
        · exact each digit earlier
        · obtain rfl := List.mem_singleton.1 end_
          have below : number % 10 < 10 := Nat.mod_lt _ (by decide)
          simp [isDigitOf, last, below]
      · rw [numeralValue_concat, value, last, Option.getD_some]
        omega

namespace Authority

variable {mark : Char} {text : List Char}

/-- Nothing follows a character that does not occur. -/
theorem afterLast?_eq_none_iff : afterLast? mark text = none ↔ mark ∉ text := by
  -- The recursion looks behind each character before it looks at the character.
  induction text with
  | nil => simp [afterLast?]
  | cons char rest ih =>
    rw [afterLast?, List.mem_cons, not_or, ← ih]
    cases afterLast? mark rest with
    | none => simp [eq_comm]
    | some found => simp

/-- What follows the last occurrence of a character has no further one. -/
theorem afterLast?_eq_some_iff {rest : List Char} :
    afterLast? mark text = some rest ↔
      ∃ before, text = before ++ mark :: rest ∧ mark ∉ rest := by
  constructor
  · -- The search goes to the end first, and only then it looks at the characters on the way.
    intro found
    induction text with
    | nil => simp [afterLast?] at found
    | cons char tail ih =>
      rw [afterLast?] at found
      cases behind : afterLast? mark tail with
      | some later =>
        rw [behind] at found
        obtain ⟨before, rfl, last⟩ := ih (behind.trans found)
        exact ⟨char :: before, rfl, last⟩
      | none =>
        simp only [behind, Option.ite_none_right_eq_some, Option.some.injEq] at found
        obtain ⟨rfl, rfl⟩ := found
        exact ⟨[], rfl, afterLast?_eq_none_iff.1 behind⟩
  · -- In what stands behind it the search finds nothing, so it is found on the way back.
    rintro ⟨before, rfl, last⟩
    induction before with
    | nil => simp [afterLast?, afterLast?_eq_none_iff.2 last]
    | cons char before ih => simp [afterLast?, ih]

/-- Another character behind the last occurrence is part of what follows it. -/
theorem mem_of_afterLast? {stop : Char} {before behind rest : List Char} (other : mark ≠ stop)
    (absent : mark ∉ behind) (found : afterLast? mark (before ++ stop :: behind) = some rest) :
    stop ∈ rest := by
  -- Both characters cut the text, and it matters which of them comes first.
  obtain ⟨lead, same, -⟩ := afterLast?_eq_some_iff.1 found
  rcases List.append_eq_append_iff.1 same with ⟨gap, -, late⟩ | ⟨gap, -, early⟩
  · -- The last occurrence cannot be behind the other character.
    have occurs : mark ∈ stop :: behind := by simp [late]
    simp [other, absent] at occurs
  · cases gap with
    | nil => exact absurd (List.cons.inj early).1 other
    | cons char gap =>
      obtain ⟨-, rfl⟩ := List.cons.inj early
      simp

/-- A host and what stands behind it: an address in brackets with anything, or a name without colons
with nothing, or with a colon and anything. -/
inductive HostForm : (host behind : List Char) → Prop
  | bracketed {inner behind : List Char} (closed : ']' ∉ inner) :
    HostForm ('[' :: inner ++ [']']) behind
  | plain {host behind : List Char} (unopened : host.head? ≠ some '[') (uncut : ':' ∉ host)
    (follows : ∀ char ∈ behind.head?, char = ':') : HostForm host behind

/-- Whatever stands behind a host, a colon and anything else may stand there too. -/
theorem HostForm.replace {host behind : List Char} (form : HostForm host behind)
    (rest : List Char) : HostForm host (':' :: rest) := by
  cases form with
  | bracketed closed => exact .bracketed closed
  | plain unopened uncut _ => exact .plain unopened uncut (by simp)

/-- An authority cut into its parts. -/
structure Parts (name : List Char) where
  user : List Char
  host : List Char
  behind : List Char
  whole : name = user ++ host ++ behind
  /-- User information is there up to the last `@`. -/
  signed : user = [] ∨ ∃ credentials, user = credentials ++ ['@']
  unsigned : '@' ∉ host ++ behind
  form : HostForm host behind

variable {name : List Char}

/-- The authority of a host without user information. -/
def Parts.bare (host behind : List Char) (unsigned : '@' ∉ host ++ behind)
    (form : HostForm host behind) : Parts (host ++ behind) where
  user := []
  host := host
  behind := behind
  whole := rfl
  signed := .inl rfl
  unsigned := unsigned
  form := form

/-- A host has no `@`, and neither has a port. -/
private theorem Parts.unsigned_port (parts : Parts name) (port : Nat) :
    '@' ∉ parts.host ++ ':' :: Nat.toDigits 10 port := by
  have outside : '@' ∉ parts.host := fun member =>
    parts.unsigned (List.mem_append_left _ member)
  have apart := (writesNumber_toDigits port).not_mem (show '@' ≠ '+' by decide) (by decide)
  simp [outside, apart]

/-- The authority of a host with a port in place of whatever stands around it. -/
def Parts.withPort (parts : Parts name) (port : Nat) :
    Parts (parts.host ++ ':' :: Nat.toDigits 10 port) :=
  .bare parts.host (':' :: Nat.toDigits 10 port) (parts.unsigned_port port) (parts.form.replace _)

/-- Behind the user information the host is read. -/
private theorem afterUser (parts : Parts name) :
    (afterLast? '@' name).getD name = parts.host ++ parts.behind := by
  -- Neither the host nor what stands behind it has an `@`.
  obtain ⟨user, host, behind, rfl, signed, unsigned, -⟩ := parts
  rcases signed with rfl | ⟨credentials, rfl⟩
  · simp [afterLast?_eq_none_iff.2 unsigned]
  · have found : afterLast? '@' (credentials ++ ['@'] ++ host ++ behind) = some (host ++ behind) :=
      afterLast?_eq_some_iff.2 ⟨credentials, by simp, unsigned⟩
    rw [found, Option.getD_some]

/-- The host of an authority is that of its parts. -/
theorem host_of_parts (parts : Parts name) : host name = parts.host := by
  rw [host, afterUser parts]
  obtain ⟨user, host, behind, -, -, -, form⟩ := parts
  cases form with
  | bracketed closed =>
    -- The address ends at its first closing bracket.
    have within : ∀ char ∈ _, (char != ']') = true := fun char member => by
      simpa using ne_of_mem_of_not_mem member closed
    simp [List.takeWhile_append_of_pos within]
  | plain unopened uncut follows =>
    have within : ∀ char ∈ host, (char != ':') = true := fun char member => by
      simpa using ne_of_mem_of_not_mem member uncut
    -- Nothing or a colon follows the host.
    have ends : behind.takeWhile (· != ':') = [] := by
      cases behind with
      | nil => rfl
      | cons char rest => simp [follows char (by simp)]
    have whole : (host ++ behind).takeWhile (· != ':') = host := by
      rw [List.takeWhile_append_of_pos within, ends, List.append_nil]
    split
    · -- No bracket stands in front, neither in the host nor in what follows one that is empty.
      rename_i rest opens
      exfalso
      cases host with
      | nil => exact absurd (follows '[' (by simpa using congrArg List.head? opens)) (by decide)
      | cons first more => exact unopened (by simpa using congrArg List.head? opens)
    · exact whole

/-- The number behind the last colon that follows the host is the port. -/
theorem port?_written (parts : Parts name) {lead digits : List Char} {number : Nat}
    (behind : parts.behind = lead ++ ':' :: digits) (writes : WritesNumber digits number)
    (within : number ≤ greatestPort) : port? name = some number := by
  -- A number has no colons, so the colon in front of it is the last one of all.
  have last : ':' ∉ digits := writes.not_mem (by decide) (by decide)
  have found : afterLast? ':' name = some digits :=
    afterLast?_eq_some_iff.2 ⟨parts.user ++ parts.host ++ lead, by simp [parts.whole, behind], last⟩
  rw [port?, found, Option.bind_some]
  exact readNatural_eq_some_iff.2 ⟨writes, within⟩

/-- A port stands behind the host. -/
theorem port?_behind (parts : Parts name) {number : Nat} (read : port? name = some number) :
    ∃ lead digits, parts.behind = lead ++ ':' :: digits ∧ WritesNumber digits number ∧
      number ≤ greatestPort := by
  -- The port is what is read behind the last colon of all.
  obtain ⟨digits, found, digits_⟩ := Option.bind_eq_some_iff.1 read
  obtain ⟨writes, within⟩ := readNatural_eq_some_iff.1 digits_
  have plain : '@' ∉ digits ∧ ']' ∉ digits :=
    ⟨writes.not_mem (by decide) (by decide), writes.not_mem (by decide) (by decide)⟩
  by_cases colon : ':' ∈ parts.behind
  · -- A colon behind the host is the last one of all.
    obtain ⟨later, above⟩ := Option.ne_none_iff_exists'.1
      (fun none => afterLast?_eq_none_iff.1 none colon : afterLast? ':' parts.behind ≠ none)
    obtain ⟨lead, behind, last⟩ := afterLast?_eq_some_iff.1 above
    have same : afterLast? ':' name = some later := afterLast?_eq_some_iff.2
      ⟨parts.user ++ parts.host ++ lead, by simp [parts.whole, behind], last⟩
    obtain rfl : later = digits := Option.some.inj (same.symm.trans found)
    exact ⟨lead, later, behind, writes, within⟩
  · -- The last colon is in front of a bracket or an `@`, and no number has these.
    exfalso
    obtain ⟨user, host, behind, rfl, signed, unsigned, form⟩ := parts
    cases form with
    | @bracketed inner behind closed =>
      have shape : user ++ ('[' :: inner ++ [']']) ++ behind =
          (user ++ '[' :: inner) ++ ']' :: behind := by simp
      rw [shape] at found
      exact plain.2 (mem_of_afterLast? (by decide) colon found)
    | plain unopened uncut follows =>
      have absent : ':' ∉ host ++ behind := by simp [uncut, colon]
      rcases signed with rfl | ⟨credentials, rfl⟩
      · exact Option.some_ne_none _ (found.symm.trans (afterLast?_eq_none_iff.2 absent))
      · have shape : credentials ++ ['@'] ++ host ++ behind =
            credentials ++ '@' :: (host ++ behind) := by simp
        rw [shape] at found
        exact plain.1 (mem_of_afterLast? (by decide) absent found)

/-- The port is one that there can be. -/
theorem port?_le {number : Nat} (read : port? name = some number) : number ≤ greatestPort := by
  obtain ⟨digits, -, found⟩ := Option.bind_eq_some_iff.1 read
  exact (readNatural_eq_some_iff.1 found).2

/-- What some characters can make of the marks of brackets. -/
structure Leads (before : AuthorityMarks) (text : List Char) (after : AuthorityMarks) : Prop where
  opened : before.opened = true → after.opened = true
  closed : after.closed = true → before.closed = true ∨ ']' ∈ text
  ordered : (before.closed = true → before.opened = true) →
    after.closed = true → after.opened = true

/-- One character that is passed. -/
private theorem leads_of_pass {before after : AuthorityMarks} {char : Char}
    (passed : pass before char = .ok after) : Leads before [char] after := by
  unfold pass at passed
  -- Brackets are the characters that matter, and a closing one needs an opening one before it.
  split at passed
  · split at passed
    · simp at passed
    · obtain rfl := Except.ok.inj passed
      exact ⟨id, .inl, id⟩
  · split at passed
    · simp at passed
    · obtain rfl := Except.ok.inj passed
      exact ⟨fun _ => rfl, .inl, fun _ _ => rfl⟩
  · split at passed
    · simp at passed
    · -- A closing bracket that is passed has an opening one before it.
      rename_i allowed
      obtain rfl := Except.ok.inj passed
      exact ⟨id, fun _ => .inr (by simp), fun _ _ => by simp_all⟩
  · obtain rfl := Except.ok.inj passed
    exact ⟨id, .inl, id⟩
  · obtain rfl := Except.ok.inj passed
    exact ⟨id, .inl, id⟩
  · split at passed
    · obtain rfl := Except.ok.inj passed
      exact ⟨id, .inl, id⟩
    · simp at passed

/-- Any characters that are passed. -/
private theorem leads_of_passes {before after : AuthorityMarks} {text : List Char}
    (passed : text.foldlM pass before = .ok after) : Leads before text after := by
  -- The marks are carried from one character to the next.
  induction text generalizing before with
  | nil =>
    obtain rfl := Except.ok.inj passed
    exact ⟨id, .inl, id⟩
  | cons char rest ih =>
    rw [List.foldlM_cons] at passed
    obtain ⟨between, one, more⟩ := bind_eq_ok_iff.1 passed
    obtain ⟨opened, closed, ordered⟩ := leads_of_pass one
    obtain ⟨opened', closed', ordered'⟩ := ih more
    refine ⟨opened' ∘ opened, ?_, ordered' ∘ ordered⟩
    intro shut
    -- Whatever closes is the first character or one of the others.
    rcases closed' shut with early | late
    · rcases closed early with before_ | here
      · exact .inl before_
      · exact .inr (by simpa using .inl (List.mem_singleton.1 here))
    · exact .inr (List.mem_cons_of_mem _ late)

/-- An opening bracket is passed if none has opened before, and it closes nothing. -/
private theorem opens_of_pass {before after : AuthorityMarks}
    (passed : pass before '[' = .ok after) :
    before.opened = false ∧ after.opened = true ∧ after.closed = before.closed := by
  -- The bracket is refused in the other branch.
  simp only [pass] at passed
  split at passed
  · simp at passed
  · rename_i allowed
    obtain rfl := Except.ok.inj passed
    simp only [Bool.or_eq_true, not_or, Bool.not_eq_true] at allowed
    exact ⟨allowed.2, rfl, rfl⟩

/-- A bracket that opens in an accepted authority is closed again. -/
private theorem closes_of_accepted {before rest : List Char}
    (accepted : check (before ++ '[' :: rest) = .ok ()) : ']' ∈ rest := by
  -- The passage is taken apart at the bracket, and in the end brackets have to come in pairs.
  obtain ⟨marks, passed, judged⟩ := bind_eq_ok_iff.1 accepted
  have paired : marks.opened = marks.closed := by
    by_contra odd
    simp [odd, throw, throwThe, MonadExceptOf.throw] at judged
  rw [List.foldlM_append] at passed
  obtain ⟨early, passedBefore, passed⟩ := bind_eq_ok_iff.1 passed
  rw [List.foldlM_cons] at passed
  obtain ⟨opened, passedBracket, passedRest⟩ := bind_eq_ok_iff.1 passed
  obtain ⟨unopened, opens, closed⟩ := opens_of_pass passedBracket
  have later := leads_of_passes passedRest
  -- The bracket is the first one that opens, so none has closed before it.
  have unclosed : early.closed = false := by
    by_contra shut
    have contrary := (leads_of_passes passedBefore).ordered (by simp [noMarks]) (by simpa using shut)
    simp [unopened] at contrary
  have shut : marks.closed = true := by
    rw [← paired]
    exact later.opened opens
  -- So it is closed behind the bracket.
  rcases later.closed shut with before_ | member
  · rw [closed, unclosed] at before_
    exact Bool.noConfusion before_
  · exact member

/-- A host is read from whatever text brackets are closed in. -/
private theorem exists_hostForm {text : List Char}
    (closes : ∀ rest, text = '[' :: rest → ']' ∈ rest) :
    ∃ host behind, text = host ++ behind ∧ HostForm host behind := by
  by_cases opens : ∃ rest, text = '[' :: rest
  · -- The host goes to the first bracket that closes.
    obtain ⟨rest, rfl⟩ := opens
    obtain ⟨inner, behind, rfl, first⟩ := List.eq_append_cons_of_mem (closes rest rfl)
    exact ⟨'[' :: inner ++ [']'], behind, by simp, .bracketed first⟩
  · -- What stands behind the host starts where the host stops.
    refine ⟨text.takeWhile (· != ':'), text.dropWhile (· != ':'),
      (List.takeWhile_append_dropWhile).symm, .plain ?_ ?_ ?_⟩
    · intro first
      cases text with
      | nil => simp at first
      | cons char rest =>
        by_cases colon : char = ':'
        · simp [colon] at first
        · obtain rfl : char = '[' := by simpa [colon] using first
          exact opens ⟨rest, rfl⟩
    · intro member
      simpa using List.mem_takeWhile_imp member
    · intro char member
      have stops := List.head?_dropWhile_not (· != ':') text
      rw [Option.mem_def.1 member] at stops
      simpa using stops

/-- Every accepted authority has its parts. -/
theorem exists_parts (accepted : check name = .ok ()) : Nonempty (Parts name) := by
  -- The user information is what ends with the last `@`, if there is one.
  obtain ⟨user, text, whole, signed, unsigned⟩ : ∃ user text, name = user ++ text ∧
      (user = [] ∨ ∃ credentials, user = credentials ++ ['@']) ∧ '@' ∉ text := by
    cases found : afterLast? '@' name with
    | none => exact ⟨[], name, rfl, .inl rfl, afterLast?_eq_none_iff.1 found⟩
    | some text =>
      obtain ⟨credentials, whole, unsigned⟩ := afterLast?_eq_some_iff.1 found
      exact ⟨credentials ++ ['@'], text, by simp [whole], .inr ⟨credentials, rfl⟩, unsigned⟩
  -- What is left is cut where the host ends.
  obtain ⟨host, behind, cut, form⟩ := exists_hostForm fun rest (opens : text = '[' :: rest) => by
    rw [whole, opens] at accepted
    exact closes_of_accepted accepted
  exact ⟨⟨user, host, behind, by simp [whole, cut], signed, cut ▸ unsigned, form⟩⟩

end Authority

end InsightRelay
