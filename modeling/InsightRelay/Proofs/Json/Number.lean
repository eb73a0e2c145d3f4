import InsightRelay.Proofs.Json.Text
import InsightRelay.Json.Reader
import Mathlib.Data.List.TakeWhile

/-! Integers read back from their decimal digits, and numbers of any magnitude that are passed over. -/

namespace InsightRelay.Json

/-- No number that stands before the text goes on in it. -/
def Ends (text : List Char) : Prop :=
  ∀ char ∈ text.head?, char.isDigit = false ∧ char ∉ ['.', 'e', 'E']

section Ends

variable {gap digits rest : List Char}

theorem Ends.nil : Ends [] := fun _ member => nomatch member

theorem Ends.cons {char : Char} (listed : char ∈ [' ', '\t', '\n', '\r', ',', ']', '\x7d']) :
    Ends (char :: rest) := by
  have all : ∀ char ∈ [' ', '\t', '\n', '\r', ',', ']', '\x7d'],
      char.isDigit = false ∧ char ∉ ['.', 'e', 'E'] := by simp
  intro head same
  obtain rfl : char = head := by simpa using same
  exact all _ listed

theorem Ends.behind (ends : Ends rest) (gapped : Gap gap) : Ends (gap ++ rest) := by
  cases gap with
  | nil => exact ends
  | cons char more => exact .cons (List.mem_append_left _ (gapped _ List.mem_cons_self))

/-- Digits are told from what follows them. -/
theorem Digits.apart (digits_ : Digits digits) (stop : ∀ char ∈ rest.head?, char.isDigit = false) :
    (digits ++ rest).takeWhile Char.isDigit = digits ∧
      (digits ++ rest).dropWhile Char.isDigit = rest := by
  rw [List.takeWhile_append_of_pos digits_.2, List.dropWhile_append_of_pos digits_.2]
  cases rest with
  | nil => simp
  | cons char rest => simp [stop char rfl]

theorem Digits.head (digits_ : Digits digits) :
    ∃ first more, digits = first :: more ∧ first.isDigit = true := by
  obtain ⟨nonempty, each⟩ := digits_
  obtain ⟨first, more, rfl⟩ := List.exists_cons_of_ne_nil nonempty
  exact ⟨first, more, rfl, each first List.mem_cons_self⟩

end Ends

section Starts

variable {first : Char}

/-- A number may start with the character. -/
def StartsNumber (first : Char) : Prop :=
  (first == '-' || first.isDigit) = true

theorem StartsNumber.of_isDigit (digit : first.isDigit = true) : StartsNumber first := by
  simp [StartsNumber, digit]

theorem StartsNumber.opens (start : StartsNumber first) (more : List Char) : Opens (first :: more) := by
  -- None of the characters of a gap starts a number, and neither does a closing bracket.
  refine .cons ⟨Bool.eq_false_iff.2 fun gap => ?_, ?_, ?_⟩
  · have all : ∀ char ∈ [' ', '\t', '\n', '\r'], ¬ StartsNumber char := by
      simp [StartsNumber]
    exact all first (by simpa [isGap, or_assoc] using gap) start
  · rintro rfl
    contradiction
  · rintro rfl
    contradiction

/-- No other value starts with a character that a number may start with. -/
theorem StartsNumber.other (start : StartsNumber first) : first ≠ '"' ∧ first ≠ '[' ∧ first ≠ '\x7b' ∧
    first ≠ 'n' ∧ first ≠ 't' ∧ first ≠ 'f' := by
  refine ⟨?_, ?_, ?_, ?_, ?_, ?_⟩ <;> rintro rfl <;> contradiction

end Starts

section Passing

variable {sign digits places exponent text rest : List Char}

/-- Digits end where an exponent or what follows a number starts. -/
theorem Exponent.stop (exponent_ : Exponent exponent) (ends : Ends rest) :
    ∀ char ∈ (exponent ++ rest).head?, char.isDigit = false := by
  rcases exponent_ with rfl | ⟨letter, sign, digits, listed, -, -, rfl⟩
  · exact fun char member => (ends char member).1
  · rcases listed with rfl | rfl <;> simp

/-- Digits end where the places of a number start. -/
theorem Places.stop (places_ : Places places) (exponent_ : Exponent exponent) (ends : Ends rest) :
    ∀ char ∈ (places ++ (exponent ++ rest)).head?, char.isDigit = false := by
  rcases places_ with rfl | ⟨digits, -, rfl⟩
  · exact exponent_.stop ends
  · simp

/-- An exponent that is passed over leaves what follows it. -/
theorem skipExponent_append (signed : sign = [] ∨ sign = ['+'] ∨ sign = ['-']) (digits_ : Digits digits)
    (ends : Ends rest) : skipExponent (sign ++ digits ++ rest) = .ok rest := by
  -- A digit is no sign, so an exponent without one is read from its first digit on.
  have apart := (digits_.apart fun char member => (ends char member).1).2
  obtain ⟨first, more, rfl, digit⟩ := digits_.head
  have unsigned : first ≠ '+' ∧ first ≠ '-' := by
    constructor <;> rintro rfl <;> contradiction
  rw [List.cons_append] at apart
  rcases signed with rfl | rfl | rfl <;> simp [skipExponent, unsigned, digit, apart]

/-- The text after the exponent of a number that is passed over, if there is one. -/
def skipPower : List Char → Except Problem (List Char)
  | 'e' :: text => skipExponent text
  | 'E' :: text => skipExponent text
  | text => .ok text

/-- The text after the places and the exponent of a number that is passed over. -/
def skipPlaces : List Char → Except Problem (List Char)
  | '.' :: text =>
    if (text.takeWhile Char.isDigit).isEmpty then .error (.malformed .badNumber)
    else skipPower (text.dropWhile Char.isDigit)
  | 'e' :: text => skipExponent text
  | 'E' :: text => skipExponent text
  | text => .ok text

/-- Behind the digits of a number that is passed over stand its places and its exponent. -/
theorem skipNumber_append (signed : sign = [] ∨ sign = ['-']) (digits_ : Digits digits)
    (leading : digits.head? = some '0' → digits = ['0'])
    (stop : ∀ char ∈ rest.head?, char.isDigit = false) :
    skipNumber (sign ++ (digits ++ rest)) = skipPlaces rest := by
  -- The first digit rules out a second sign, and a zero with more digits behind it.
  obtain ⟨taken, left⟩ := digits_.apart stop
  obtain ⟨first, more, rfl, digit⟩ := digits_.head
  have unsigned : first ≠ '-' := by rintro rfl; contradiction
  have same : skipNumber (sign ++ (first :: more ++ rest)) = skipNumber (first :: more ++ rest) := by
      rcases signed with rfl | rfl <;> simp [skipNumber, unsigned]
  rw [same]
  rw [List.cons_append] at taken left ⊢
  -- Of the three cases on the digits only the last is left.
  simp only [skipNumber, List.cons.injEq, unsigned, false_and, imp_self, implies_true, taken, left]
  split
  · contradiction
  · simp_all
  · rfl

/-- An exponent that is passed over leaves what follows it, with or without places before it. -/
theorem Exponent.skip (exponent_ : Exponent exponent) (ends : Ends rest) :
    skipPower (exponent ++ rest) = .ok rest ∧ skipPlaces (exponent ++ rest) = .ok rest := by
  rcases exponent_ with rfl | ⟨letter, sign, digits, listed, signed, digits_, rfl⟩
  · rw [List.nil_append, skipPower.eq_def, skipPlaces.eq_def]
    constructor <;> split <;> first | rfl | exact absurd (ends _ rfl).2 (by decide)
  · have skip := skipExponent_append signed digits_ ends
    rcases listed with rfl | rfl <;> exact ⟨skip, skip⟩

/-- Places and an exponent that are passed over leave what follows them. -/
theorem Places.skip (places_ : Places places) (exponent_ : Exponent exponent) (ends : Ends rest) :
    skipPlaces (places ++ (exponent ++ rest)) = .ok rest := by
  obtain ⟨alone, behind⟩ := exponent_.skip ends
  rcases places_ with rfl | ⟨digits, digits_, rfl⟩
  · exact behind
  · obtain ⟨taken, left⟩ := digits_.apart (exponent_.stop ends)
    simp [skipPlaces, taken, left, alone, digits_.1, -List.isEmpty_iff]

/-- A number that is passed over leaves what follows it. -/
theorem NumberText.skip (number : NumberText text) (ends : Ends rest) :
    skipNumber (text ++ rest) = .ok rest := by
  obtain ⟨signed, digits_, leading, places_, exponent_⟩ := number
  simp only [List.append_assoc]
  rw [skipNumber_append signed digits_ leading (places_.stop exponent_ ends)]
  exact places_.skip exponent_ ends

/-- A number starts with a sign or a digit. -/
theorem NumberText.head (number : NumberText text) :
    ∃ first more, text = first :: more ∧ StartsNumber first := by
  obtain ⟨signed, digits_, -, -, -⟩ := number
  obtain ⟨first, more, rfl, digit⟩ := digits_.head
  rcases signed with rfl | rfl
  · exact ⟨first, _, rfl, .of_isDigit digit⟩
  · exact ⟨_, _, rfl, rfl⟩

end Passing

section Integers

variable {digits rest : List Char}

/-- Digits are taken in whole as long as their value is within the limit. -/
theorem absorb_eq {significand : Nat} (small : Nat.ofDigitChars 10 digits significand ≤ significandLimit) :
    absorb significand digits = (Nat.ofDigitChars 10 digits significand, 0) := by
  induction digits generalizing significand with
  | nil => simp [absorb]
  | cons digit digits ih =>
    rw [Nat.ofDigitChars_cons, Nat.mul_comm] at small
    -- The significand only grows with further digits.
    have grown : significand * 10 + (digit.toNat - 48) ≤
        Nat.ofDigitChars 10 digits (significand * 10 + (digit.toNat - 48)) := by
      rw [Nat.ofDigitChars_eq_ofDigitChars_zero]
      exact Nat.le_add_right_of_le (Nat.le_mul_of_pos_left _ (Nat.pow_pos (by decide)))
    have within : ¬ significandLimit < significand * 10 + (digit.toNat - 48) :=
      Nat.not_lt.2 (grown.trans small)
    -- So the digit is taken in, and the others follow with what has been read of the number.
    simp only [absorb, if_neg within, Nat.ofDigitChars_cons, Nat.mul_comm 10]
    exact ih small

/-- The digits of a natural number start with zero only where they are the digit zero alone. -/
theorem head_toDigits {value : Nat} (leading : (Nat.toDigits 10 value).head? = some '0') :
    value = 0 := by
  -- The first digit is that of the number without its last digit, down to a single digit.
  induction value using Nat.strongRecOn with
  | ind value ih =>
    rw [Nat.toDigits_eq_if (by decide)] at leading
    split at leading
    · next small =>
      have all : ∀ digit < 10, Nat.digitChar digit = '0' → digit = 0 := by decide
      exact all value small (by simpa using leading)
    · -- With more than one digit, a zero in front would stand in front of all but the last one, too.
      next large =>
      rw [List.head?_append_of_ne_nil _ Nat.toDigits_ne_nil] at leading
      have := ih (value / 10) (by omega) leading
      omega

theorem digits_toDigits (value : Nat) : Digits (Nat.toDigits 10 value) :=
  ⟨Nat.toDigits_ne_nil, fun _ member => Nat.isDigit_of_mem_toDigits (by decide) (by decide) member⟩

/-- Digits without places and exponent are read as the integer that they write. -/
theorem magnitude_toDigits (negative : Bool) {value : Nat} (small : value ≤ significandLimit)
    (ends : Ends rest) :
    magnitude negative (Nat.toDigits 10 value ++ rest) = .ok (integerOf negative value, rest) := by
  -- All digits are taken in, and what follows them has neither places nor an exponent.
  obtain ⟨taken, left⟩ := (digits_toDigits value).apart fun char member => (ends char member).1
  have absorbed : absorb 0 (Nat.toDigits 10 value) = (value, 0) := by
    have same : Nat.ofDigitChars 10 (Nat.toDigits 10 value) 0 = value := Nat.ofDigitChars_ten_toDigits
    rw [absorb_eq (same.symm ▸ small), same]
  simp only [magnitude, taken, left]
  split
  · next none => exact absurd none Nat.toDigits_ne_nil
  · next leading =>
    have zero : value = 0 := head_toDigits (by rw [leading]; rfl)
    rw [zero, Nat.toDigits_zero] at leading
    cases leading
  · simp only [absorbed]
    -- Neither a point nor the letter of an exponent may follow a number.
    split
    · exact absurd (ends _ rfl).2 (by decide)
    · exact absurd (ends _ rfl).2 (by decide)
    · exact absurd (ends _ rfl).2 (by decide)
    · rfl

/-- An integer is written as its digits behind a sign where it is negative. -/
theorem toList_toString (value : Int) : (toString value).toList =
    if 0 ≤ value then Nat.toDigits 10 value.toNat else '-' :: Nat.toDigits 10 (-value).toNat := by
  rw [Int.toString_eq_repr, Int.repr_eq_if]
  split <;> simp [Nat.repr_eq_ofList_toDigits]

/-- The text of an integer starts with a sign or a digit. -/
theorem head_toString (value : Int) :
    ∃ first more, (toString value).toList = first :: more ∧ StartsNumber first := by
  rw [toList_toString]
  split
  · obtain ⟨first, more, same, digit⟩ := (digits_toDigits value.toNat).head
    exact ⟨first, more, same, .of_isDigit digit⟩
  · exact ⟨_, _, rfl, rfl⟩

/-- The number that an integer is read as. -/
def numberOf (value : Int) : Number :=
  if 0 ≤ value then .natural value.toNat else .negative value

/-- An integer that fits sixty-four bits is read as the number that it is. -/
theorem number_toString {value : Int} (least : -(1 <<< 63 : Nat) ≤ value)
    (greatest : value ≤ significandLimit) (ends : Ends rest) :
    number ((toString value).toList ++ rest) = .ok (numberOf value, rest) := by
  -- A number is natural unless it has a sign, and the least negative one still fits.
  have limit : significandLimit = 2 ^ 64 - 1 := by decide
  have half : (1 <<< 63 : Nat) = 2 ^ 63 := by decide
  rw [toList_toString]
  by_cases natural : 0 ≤ value
  · have read := magnitude_toDigits false (show value.toNat ≤ significandLimit by omega) ends
    obtain ⟨first, more, same, digit⟩ := (digits_toDigits value.toNat).head
    have unsigned : first ≠ '-' := by rintro rfl; contradiction
    rw [same, List.cons_append] at read
    rw [if_pos natural, same, List.cons_append, number, read, numberOf, if_pos natural]
    · rfl
    · exact fun text same => unsigned (List.cons.inj same).1
  · have read := magnitude_toDigits true (show (-value).toNat ≤ significandLimit by omega) ends
    -- There is no negative zero here, and the magnitude may be one more than that of a positive number.
    have inside : 0 < (-value).toNat ∧ (-value).toNat ≤ 1 <<< 63 := by omega
    have same : -((-value).toNat : Int) = value := by omega
    rw [if_neg natural, List.cons_append, number, read, numberOf, if_neg natural]
    simp only [integerOf, Bool.not_true, Bool.false_eq_true, if_false, if_pos inside, same]

/-- An integer of sixty-four bits is read back from its digits. -/
theorem IntegerForm.read {value : Int64} {text gap : List Char} (written : IntegerForm value text)
    (gapped : Gap gap) (ends : Ends rest) :
    integer .integer64 (gap ++ (text ++ rest)) = .ok (value.toInt, rest) := by
  -- The digits are fewer than a significand may have, and what they say is within the range.
  have least : -(1 <<< 63 : Nat) ≤ value.toInt := value.le_toInt
  have greatest : value.toInt ≤ (1 <<< 63 - 1 : Nat) := Int.le_sub_one_of_lt value.toInt_lt
  have within : ((1 <<< 63 - 1 : Nat) : Int) ≤ significandLimit := by decide
  have held : IntegerRange.integer64.holds value.toInt = true := by
    rw [IntegerRange.holds, Bool.and_eq_true, decide_eq_true_iff, decide_eq_true_iff]
    exact ⟨least, greatest⟩
  have read := number_toString least (Int.le_trans greatest within) ends
  subst written
  obtain ⟨first, more, same, start⟩ := head_toString value.toInt
  rw [same, List.cons_append] at read ⊢
  rw [integer, (start.opens _).skip gapped]
  have begins : (first == '-' || first.isDigit) = true := start
  simp only [begins, if_true, read, numberOf, bind, Except.bind]
  by_cases natural : 0 ≤ value.toInt
  · simp only [if_pos natural, integer.accept, Int.toNat_of_nonneg natural, held, if_true]
  · simp only [if_neg natural, integer.accept, held, if_true]

end Integers

end InsightRelay.Json
