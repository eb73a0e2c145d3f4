import InsightRelay.Proofs.Json.Numeral
import InsightRelay.Proofs.Json.Seam.Basic

/-! Numbers that go on behind a seam: whatever is made of its parts, the reading of a number changes with
what follows the seam only where the seam runs through the number. -/

namespace InsightRelay.Json

variable {α : Type}

/-- A character that may stand in a number. -/
def Numeral (char : Char) : Prop :=
  char.isDigit = true ∨ char ∈ ['+', '-', '.', 'e', 'E']

/-- A text that runs into a number is all of it numerals, and where the whole is read, some of the rest
belongs to the number. -/
structure RunsInto (form : List Char → Prop) (read : Reader α) (text rest : List Char) : Prop where
  numerals : ∀ char ∈ text, Numeral char
  taken : ∀ {value left}, read (text ++ rest) = .ok (value, left) →
    ∃ tail, tail ≠ [] ∧ rest = tail ++ left ∧ form (text ++ tail)

/-- A reader takes off texts of a form, and a rest changes nothing unless the text runs into such a form. -/
structure TakesOff (form : List Char → Prop) (read : Reader α) : Prop where
  taken : ∀ {text value left}, read text = .ok (value, left) → ∃ piece, form piece ∧ text = piece ++ left
  goesOn : ∀ text rest, read (text ++ rest) = (read text).map (fun taken => (taken.1, taken.2 ++ rest)) ∨
    RunsInto form read text rest

section Parts

variable {form : List Char → Prop} {choose : Char → Option (Reader α)} {read other : Reader α}
  {char : Char}

theorem takesOff_finish {result : Except Problem α} (ends : ∀ value, result = .ok value → form []) :
    TakesOff form (finish result) where
  -- Nothing is taken off here, so the form has to hold of no text at all.
  taken := by
    intro text value left read
    cases result with
    | error problem => cases read
    | ok value =>
      cases read
      exact ⟨[], ends value rfl, rfl⟩
  goesOn := by
    intro text rest
    cases result <;> exact .inl rfl

/-- Another way of reading the same texts runs into the same forms. -/
theorem RunsInto.of_eq {text rest : List Char} (into : RunsInto form other text rest)
    (same : read (text ++ rest) = other (text ++ rest)) : RunsInto form read text rest where
  numerals := into.numerals
  taken := fun ok => into.taken (same ▸ ok)

/-- The form that is left behind a piece of text. -/
def Behind (form : List Char → Prop) (piece text : List Char) : Prop :=
  form (piece ++ text)

theorem RunsInto.behind {piece text rest : List Char}
    (into : RunsInto (Behind form piece) other text rest) (numerals : ∀ char ∈ piece, Numeral char)
    (same : read (piece ++ (text ++ rest)) = other (text ++ rest)) :
    RunsInto form read (piece ++ text) rest where
  numerals := List.forall_mem_append.2 ⟨numerals, into.numerals⟩
  taken := by
    -- The piece is read as a part of the number, so the form is asked of the text behind it only.
    intro value left ok
    rw [List.append_assoc, same] at ok
    obtain ⟨tail, more, rfl, formed⟩ := into.taken ok
    exact ⟨tail, more, rfl, by rwa [Behind, ← List.append_assoc] at formed⟩

/-- A branch takes off what the chosen reader does, behind the character that chooses it. -/
theorem takesOff_branch
    (chosen : ∀ char read, choose char = some read → Numeral char ∧ TakesOff (Behind form [char]) read)
    (others : TakesOff form other) : TakesOff form (branch choose other) where
  taken := by
    intro text value left read
    cases text with
    | nil => exact others.taken read
    -- The first character chooses, and the piece starts with it if it does.
    | cons char text =>
      cases choice : choose char with
      | none =>
        rw [branch_none choice] at read
        exact others.taken read
      | some reader =>
        rw [branch_some choice] at read
        obtain ⟨piece, formed, rfl⟩ := (chosen char reader choice).2.taken read
        exact ⟨char :: piece, formed, rfl⟩
  goesOn := by
    -- Where the text is over, the rest makes the choice.
    intro text rest
    rcases text with _ | ⟨char, text⟩
    · rcases rest with _ | ⟨char, rest⟩
      · left
        simp only [List.append_nil]
        exact (congrFun Except.map_id _).symm
      cases choice : choose char with
      | none =>
        have same : branch choose other ([] ++ char :: rest) = other ([] ++ char :: rest) :=
          branch_none choice rest
        rw [same]
        exact (others.goesOn [] (char :: rest)).imp_right (·.of_eq same)
      | some reader =>
        refine .inr ⟨nofun, fun {value left} ok => ?_⟩
        rw [List.nil_append, branch_some choice] at ok
        obtain ⟨piece, formed, rfl⟩ := (chosen char reader choice).2.taken ok
        exact ⟨char :: piece, List.cons_ne_nil _ _, rfl, formed⟩
    · -- Otherwise the first character has made it, in both texts alike.
      cases choice : choose char with
      | none =>
        have same : ∀ text, branch choose other (char :: text) = other (char :: text) := branch_none choice
        rw [List.cons_append, same, same]
        exact (others.goesOn (char :: text) rest).imp_right (·.of_eq (same _))
      | some reader =>
        have same : ∀ text, branch choose other ([char] ++ text) = reader text := branch_some choice
        obtain ⟨numeral, takes⟩ := chosen char reader choice
        rw [← List.singleton_append, List.append_assoc, same, same]
        exact (takes.goesOn text rest).imp_right
          (·.behind (List.forall_mem_singleton.2 numeral) (same _))

/-- Digits end before the seam, or the text is all digits and more of them follow. -/
theorem digits_meet (text rest : List Char) :
    ((text ++ rest).takeWhile Char.isDigit = text.takeWhile Char.isDigit ∧
      (text ++ rest).dropWhile Char.isDigit = text.dropWhile Char.isDigit ++ rest) ∨
    ((∀ char ∈ text, char.isDigit = true) ∧ rest.takeWhile Char.isDigit ≠ [] ∧
      (text ++ rest).takeWhile Char.isDigit = text ++ rest.takeWhile Char.isDigit ∧
      (text ++ rest).dropWhile Char.isDigit = rest.dropWhile Char.isDigit) := by
  -- A character that is no digit ends them before the seam; without one they run up to it.
  by_cases all : ∀ char ∈ text, char.isDigit = true
  · rw [List.takeWhile_append_of_pos all, List.dropWhile_append_of_pos all]
    -- Even then they end there, if the rest does not start with another digit.
    by_cases more : rest.takeWhile Char.isDigit = []
    · have none := List.takeWhile_append_dropWhile (p := Char.isDigit) (l := rest)
      rw [more, List.nil_append] at none
      rw [more, none, List.takeWhile_eq_self_iff.2 all, List.dropWhile_eq_nil_iff.2 all, List.append_nil]
      exact .inl ⟨rfl, rfl⟩
    · exact .inr ⟨all, more, rfl, rfl⟩
  · have left : text.dropWhile Char.isDigit ≠ [] := mt List.dropWhile_eq_nil_iff.1 all
    have fewer : (text.takeWhile Char.isDigit).length ≠ text.length := fun same =>
      all (List.takeWhile_eq_self_iff.1 ((List.takeWhile_prefix _).eq_of_length same))
    rw [List.takeWhile_append, if_neg fewer, List.dropWhile_append, List.isEmpty_eq_false_iff.2 left]
    exact .inl ⟨rfl, rfl⟩

theorem digits_takeWhile {text : List Char} (some : text.takeWhile Char.isDigit ≠ []) :
    Digits (text.takeWhile Char.isDigit) :=
  ⟨some, fun _ member => List.mem_takeWhile_imp member⟩

/-- Digits are taken off together with what is taken off behind them. -/
theorem takesOff_afterDigits {empty : Problem} {next : List Char → Reader α}
    (takes : ∀ digits, Digits digits → TakesOff (Behind form digits) (next digits)) :
    TakesOff form (afterDigits empty next) where
  taken := by
    intro text value left read
    by_cases some : text.takeWhile Char.isDigit = []
    · rw [afterDigits_none some] at read
      contradiction
    · rw [afterDigits_some some] at read
      obtain ⟨piece, formed, same⟩ := (takes _ (digits_takeWhile some)).taken read
      refine ⟨_, formed, ?_⟩
      rw [List.append_assoc, ← same, List.takeWhile_append_dropWhile]
  goesOn := by
    intro text rest
    rcases digits_meet text rest with ⟨digits, behind⟩ | ⟨all, more, digits, behind⟩
    · by_cases some : text.takeWhile Char.isDigit = []
      · -- Without digits before the seam there are none behind it, so neither text is read.
        rw [afterDigits_none some, afterDigits_none (digits.trans some)]
        cases text with
        | nil =>
          refine .inr ⟨nofun, fun ok => ?_⟩
          rw [afterDigits_none (digits.trans some)] at ok
          contradiction
        | cons char text => exact .inl rfl
      · -- The digits end before the seam, so both texts leave it to the same reader.
        have same : afterDigits empty next (text ++ rest) =
            next (text.takeWhile Char.isDigit) (text.dropWhile Char.isDigit ++ rest) := by
          rw [afterDigits_some (digits ▸ some), digits, behind]
        rw [same, afterDigits_some some]
        refine ((takes _ (digits_takeWhile some)).goesOn _ rest).imp_right fun into => ?_
        have joined := List.takeWhile_append_dropWhile (p := Char.isDigit) (l := text)
        rw [← joined]
        refine into.behind (fun char member => .inl (List.mem_takeWhile_imp member)) ?_
        rw [← List.append_assoc, joined]
        exact same
    · -- The digits go on behind the seam, so some of the rest belongs to the number.
      refine .inr ⟨fun char member => .inl (all char member), fun ok => ?_⟩
      have some : (text ++ rest).takeWhile Char.isDigit ≠ [] := by
        rw [digits]
        exact List.append_ne_nil_of_right_ne_nil _ more
      rw [afterDigits_some some] at ok
      obtain ⟨piece, formed, same⟩ := (takes _ (digits_takeWhile some)).taken ok
      refine ⟨rest.takeWhile Char.isDigit ++ piece, by simp [more], ?_, ?_⟩
      · rw [List.append_assoc, ← same, behind, List.takeWhile_append_dropWhile]
      · rwa [Behind, digits, List.append_assoc] at formed

end Parts

section Numbers

variable {form : List Char → Prop}

theorem takesOff_power {empty : Problem} {result : Bool × List Char → Except Problem α}
    (formed : ∀ {sign digits}, (sign = [] ∨ sign = ['+'] ∨ sign = ['-']) → Digits digits →
      form (sign ++ digits)) : TakesOff form (powerOf empty result) := by
  -- The sign is a choice made first; the digits behind it are the same in all three cases.
  have digits : ∀ down sign, (sign = [] ∨ sign = ['+'] ∨ sign = ['-']) →
      TakesOff (Behind form sign) (afterDigits empty fun digits => finish (result (down, digits))) :=
    fun down sign signed => takesOff_afterDigits fun digits digits_ =>
      takesOff_finish fun _ _ => by simpa [Behind] using formed signed digits_
  refine takesOff_branch (fun char read choice => ?_) (digits false [] (.inl rfl))
  split at choice
  · next plus =>
    subst plus
    cases choice
    exact ⟨.inr (by decide), digits false ['+'] (.inr (.inl rfl))⟩
  split at choice
  · next minus =>
    subst minus
    cases choice
    exact ⟨.inr (by decide), digits true ['-'] (.inr (.inr rfl))⟩
  · -- No other character is chosen.
    contradiction

/-- An exponent may be chosen where it is of the form. -/
theorem takesOff_powerLetter {empty : Problem} {result : Bool × List Char → Except Problem α}
    (formed : ∀ {exponent}, Exponent exponent → form exponent) {char : Char} {read : Reader α}
    (choice : powerLetter (powerOf empty result) char = some read) :
    Numeral char ∧ TakesOff (Behind form [char]) read := by
  -- The letter is part of what is taken off, and an exponent follows it.
  rw [powerLetter] at choice
  split at choice
  · next letter =>
    cases choice
    refine ⟨.inr (by rcases letter with rfl | rfl <;> decide), takesOff_power fun signed digits_ => ?_⟩
    exact formed (.inr ⟨char, _, _, letter, signed, digits_, rfl⟩)
  · contradiction

theorem takesOff_places {empty : Problem}
    {result : List Char → Option (Bool × List Char) → Except Problem α}
    (formed : ∀ {digits exponent}, Digits digits → Exponent exponent → form (digits ++ exponent)) :
    TakesOff form (placesOf empty result) :=
  takesOff_afterDigits fun _ digits_ =>
    takesOff_branch (fun _ _ => takesOff_powerLetter (formed digits_))
      (takesOff_finish fun _ _ => formed digits_ (.inl rfl))

theorem takesOff_magnitude {empty : Problem}
    {result : List Char → Option (List Char) → Option (Bool × List Char) → Except Problem α}
    (formed : ∀ {digits places exponent}, Digits digits → (digits.head? = some '0' → digits = ['0']) →
      Places places → Exponent exponent → form (digits ++ (places ++ exponent))) :
    TakesOff form (magnitudeOf empty result) := by
  -- Digits come first. Behind them the number ends, goes on with places or goes on with an exponent.
  refine takesOff_afterDigits fun digits digits_ => ?_
  split
  · -- A number that is refused takes off nothing.
    exact takesOff_finish fun _ never => nomatch never
  next zero =>
  have leading : digits.head? = some '0' → digits = ['0'] := by simpa using zero
  refine takesOff_branch (fun char read choice => ?_)
    (takesOff_finish fun _ _ => formed digits_ leading (.inl rfl) (.inl rfl))
  split at choice
  · next point =>
    subst point
    cases choice
    refine ⟨.inr (by decide), takesOff_places fun {places _} places_ exponent_ => ?_⟩
    have pointed : Places ('.' :: places) := .inr ⟨places, places_, rfl⟩
    have whole := formed digits_ leading pointed exponent_
    exact whole
  · exact takesOff_powerLetter (fun exponent_ => formed digits_ leading (.inl rfl) exponent_) choice

/-- Whatever is made of its parts, what is taken off as a number is one. -/
theorem takesOff_signed {empty : Problem} {result : Bool → List Char → Option (List Char) →
    Option (Bool × List Char) → Except Problem α} :
    TakesOff NumberText (signedOf fun negative => magnitudeOf empty (result negative)) := by
  -- The sign is a choice made first; the magnitude behind it is the same in both cases.
  have magnitude : ∀ negative {sign}, (sign = [] ∨ sign = ['-']) →
      TakesOff (Behind NumberText sign) (magnitudeOf empty (result negative)) := by
    intro negative sign signed
    refine takesOff_magnitude fun digits_ leading places_ exponent_ => ?_
    -- With its sign, the magnitude is a number.
    have number := NumberText.mk signed digits_ leading places_ exponent_
    rwa [List.append_assoc, List.append_assoc] at number
  refine takesOff_branch (fun char read choice => ?_) (magnitude false (.inl rfl))
  split at choice
  · next minus =>
    subst minus
    cases choice
    exact ⟨.inr (by decide), magnitude true (.inr rfl)⟩
  · contradiction

theorem takesOff_number : TakesOff NumberText number := by
  have same : magnitude = _ := funext @magnitude_eq
  rw [number_eq, same]
  exact takesOff_signed

theorem takesOff_skipNumber :
    TakesOff NumberText fun text => (skipNumber text).map fun left => ((), left) := by
  rw [skipNumber_eq]
  exact takesOff_signed

end Numbers

section Seams

variable {cut : Cut} {rest text : List Char} {first : Char}

theorem Digits.numeral (digits : Digits text) : ∀ char ∈ text, Numeral char :=
  fun char member => .inl (digits.2 char member)

/-- A number consists of numerals. -/
theorem NumberText.numeral (number : NumberText text) : ∀ char ∈ text, Numeral char := by
  -- Part by part: sign, digits, places and exponent, each of which may be missing but the digits.
  obtain ⟨signed, digits_, -, places_, exponent_⟩ := number
  simp only [List.forall_mem_append]
  refine ⟨⟨⟨?_, digits_.numeral⟩, ?_⟩, ?_⟩
  · -- Each mark is one of the characters that a number may have.
    rcases signed with rfl | rfl
    · exact nofun
    · exact List.forall_mem_singleton.2 (.inr (by decide))
  · rcases places_ with rfl | ⟨digits, digits_, rfl⟩
    · exact nofun
    · exact List.forall_mem_cons.2 ⟨.inr (by decide), digits_.numeral⟩
  · rcases exponent_ with rfl | ⟨letter, sign, digits, letter_, signed, digits_, rfl⟩
    · exact nofun
    · refine List.forall_mem_cons.2 ⟨.inr (by rcases letter_ with rfl | rfl <;> decide), ?_⟩
      refine List.forall_mem_append.2 ⟨?_, digits_.numeral⟩
      rcases signed with rfl | rfl | rfl
      · exact nofun
      · exact List.forall_mem_singleton.2 (.inr (by decide))
      · exact List.forall_mem_singleton.2 (.inr (by decide))

theorem Numeral.plain {char : Char} (numeral : Numeral char) : char ≠ '"' ∧ char ≠ ' ' := by
  constructor <;> rintro rfl <;> rcases numeral with digit | listed <;> contradiction

/-- No number is cut inside a string. -/
theorem CutsNumber.outside {place : Place} (cut : CutsNumber place text rest) :
    place.behind text = .outside := by
  obtain ⟨before, head, tail, after, rfl, -, outside, -, -, number⟩ := cut
  have plain : ∀ char ∈ head, char ≠ '"' := fun char member =>
    (number.numeral char (List.mem_append_left tail member)).plain.1
  rw [Place.behind, List.foldl_append]
  exact (congrArg (head.foldl Place.next ·) outside).trans (Place.behind_outside plain)

/-- Behind a number, a text outside strings goes on outside them. -/
theorem Seam.number {piece : List Char} (number : NumberText piece)
    (seam : Seam cut rest .outside (piece ++ text)) : Seam cut rest .outside text := by
  have behind := seam.drop
  rwa [Place.behind_outside fun char member => (number.numeral char member).plain.1] at behind

/-- A number before the seam is read whatever follows, unless the seam cuts it. -/
theorem TakesOff.continues {read : Reader α} (takes : TakesOff NumberText read) (nonempty : text ≠ [])
    (seam : Seam cut rest .outside text) :
    Continues cut (Taken cut rest) (read text) (read (text ++ rest)) := by
  -- What is read goes on in the same way behind the seam, or it runs into the rest.
  rcases takes.goesOn text rest with same | into
  · rw [same]
    cases result : read text with
    | error problem => exact .failed
    | ok taken =>
      obtain ⟨piece, number, rfl⟩ := takes.taken result
      exact .read ⟨rfl, (seam.number number).left⟩
  · cases result : read (text ++ rest) with
    | error problem =>
      -- The last character of the text is a numeral, so the seam is not behind a space.
      refine .refused fun holds => ?_
      obtain ⟨before, last, rfl⟩ := List.eq_nil_or_concat text |>.resolve_left nonempty
      have space := seam.space holds before last List.concat_eq_append
      exact (into.numerals last (by simp)).plain.2 space
    | ok taken =>
      obtain ⟨tail, some, same, number⟩ := into.taken result
      exact absurd ⟨[], text, tail, _, rfl, same, rfl, nonempty, some, number⟩ seam.uncut

/-- A seam behind a space cuts no number. -/
theorem Seam.behind_space (rest before : List Char) (place : Place) :
    Seam ⟨True, Turning (before ++ [' ']) rest⟩ rest place (before ++ [' ']) where
  -- A number that is cut there would end with the space, and no number holds one.
  uncut := by
    rintro ⟨start, head, tail, after, same, -, -, some, -, number⟩
    obtain ⟨front, last, rfl⟩ := List.eq_nil_or_concat head |>.resolve_left some
    rw [List.concat_eq_append, ← List.append_assoc] at same
    obtain rfl : ' ' = last := List.singleton_inj.1 (List.append_inj' same rfl).2
    exact (number.numeral ' ' (by simp)).plain.2 rfl
  space := by
    intro _ front last same
    exact (List.singleton_inj.1 (List.append_inj' same rfl).2).symm
  turning := id

end Seams

end InsightRelay.Json
