import InsightRelay.Proofs.Toml.Scalar

/-! Dates and times read to their end from every text that they may be written as. -/

namespace InsightRelay.Toml

variable {count value greatest : Nat} {char : Char} {digits text rest : List Char}

section Parts

/-- A number of a fixed count of digits is read back, whatever follows it. -/
theorem FixedForm.read (form : FixedForm count value digits) :
    fixedDigits count (digits ++ rest) = some (value, rest) := by
  have taken : (digits ++ rest).take count = digits := List.take_left' form.count
  have left : (digits ++ rest).drop count = rest := List.drop_left' form.count
  rw [fixedDigits, taken, left, form.count, form.value, List.all_eq_true.2 form.each]
  simp

theorem FixedForm.two (form : FixedForm 2 value digits) (fits : value ≤ greatest) :
    twoDigits greatest (digits ++ rest) = some (value, rest) := by
  rw [twoDigits, form.read]
  simp [bind, Option.bind, fits]

theorem expect_cons : expect char (char :: text) = some text := by
  rw [expect, if_pos rfl]

/-- A date is passed over, whatever follows it. -/
theorem DateText.skip (date : DateText text) :
    skipDate (text ++ rest) = some rest ∧ startsDate (text ++ rest) = true := by
  -- Part by part: four digits, two and two, with hyphens between them, and neither number is zero.
  cases date with
  | @mk year month day first second third year_ month_ day_ inYear inMonth =>
    simp only [List.append_assoc, List.cons_append]
    constructor
    · have some : ¬ (month = 0 ∨ day = 0) := by omega
      rw [skipDate, year_.read]
      simp only [bind, Option.bind, expect_cons, month_.two inYear.2, day_.two inMonth.2, if_neg some]
    · rw [startsDate, year_.read]
      simp [expect_cons]

/-- What follows a time: neither places nor more digits of them. -/
def AfterTime (text : List Char) : Prop :=
  ∀ char ∈ text.head?, char.isDigit = false ∧ char ≠ '.'

/-- A time is passed over together with its places. -/
theorem TimeText.skip (time : TimeText text) (after : AfterTime rest) :
    skipTime (text ++ rest) = some rest := by
  cases time with
  | @mk hour minute second first next third places hour_ minute_ second_ inDay places_ =>
    simp only [List.append_assoc, List.cons_append]
    rw [skipTime, hour_.two inDay.1]
    simp only [bind, Option.bind, expect_cons, minute_.two inDay.2.1, second_.two inDay.2.2]
    -- Behind the seconds there may be places, and they run up to where the digits end.
    rcases places_ with rfl | ⟨digits, some, each, rfl⟩
    · rw [List.nil_append]
      split
      · next same => exact absurd rfl (after '.' rfl).2
      · rfl
    · -- What stands behind the places is no digit.
      obtain ⟨taken, left⟩ := run_apart each fun char head => (after char head).1
      rw [List.cons_append]
      simp only [taken, left, List.isEmpty_eq_false_iff.2 some, Bool.false_eq_true, if_false]

/-- A time is told from a date and from a number. -/
theorem TimeText.starts (time : TimeText text) :
    startsTime (text ++ rest) = true ∧ startsDate (text ++ rest) = false := by
  cases time with
  | @mk hour minute second first next third places hour_ minute_ second_ inDay places_ =>
    simp only [List.append_assoc, List.cons_append]
    constructor
    · rw [startsTime, hour_.read]
      simp [expect_cons]
    · -- The colon is the third of the four characters that would have to be digits.
      rw [startsDate, fixedDigits, List.take_append, hour_.count]
      simp

/-- An offset is passed over, if there is one. -/
theorem OffsetText.skip (offset : OffsetText text) (ends : Ends rest) :
    skipOffset (text ++ rest) = some rest := by
  -- Without an offset nothing that follows may look like one.
  cases offset with
  | local_ =>
    have other : ∀ char ∈ ['Z', 'z', '+', '-'], ∀ more, rest ≠ char :: more := by
      rintro char listed more rfl
      have each : ∀ char ∈ ' ' :: '\t' :: followers, char ∉ ['Z', 'z', '+', '-'] := by decide
      exact ends.head each char rfl listed
    rw [List.nil_append, skipOffset.eq_def]
    split
    · exact absurd rfl (other _ (by simp) _)
    · exact absurd rfl (other _ (by simp) _)
    · exact absurd rfl (other _ (by simp) _)
    · exact absurd rfl (other _ (by simp) _)
    · rfl
  | universal letter_ => rcases letter_ with rfl | rfl <;> rfl
  | @signed hour minute sign first next sign_ hour_ minute_ inDay =>
    -- Behind either sign the hour and the minute are read in the same way.
    have read : ((twoDigits 23 (first ++ (':' :: (next ++ rest)))).bind fun hour =>
        (expect ':' hour.2).bind fun behind =>
          (twoDigits 59 behind).bind fun minute => some minute.2) = some rest := by
      simp only [hour_.two inDay.1, Option.bind, expect_cons, minute_.two inDay.2]
    simp only [List.cons_append, List.append_assoc]
    rcases sign_ with rfl | rfl <;> exact read

/-- What ends a value ends a time. -/
theorem Ends.time (ends : Ends rest) : AfterTime rest :=
  ends.head (by decide)

/-- An offset is not mistaken for places of a second. -/
theorem OffsetText.after (offset : OffsetText text) (ends : Ends rest) : AfterTime (text ++ rest) := by
  have each : ∀ char ∈ ['Z', 'z', '+', '-'], AfterTime (char :: (text.tail ++ rest)) := by
    simp [AfterTime, Char.isDigit]
  cases offset with
  | local_ => exact ends.time
  | universal letter_ => exact each _ (by simp; tauto)
  | signed sign_ _ _ _ => exact each _ (by simp; tauto)

end Parts

/-- A date with or without a time is told from a time. -/
theorem skipMoment_date (date : DateText text) (rest : List Char) :
    dateOrNumber (text ++ rest) = ((match rest with
      | 'T' :: time => if startsTime time then (skipTime time).bind skipOffset else some rest
      | 't' :: time => if startsTime time then (skipTime time).bind skipOffset else some rest
      | ' ' :: time => if startsTime time then (skipTime time).bind skipOffset else some rest
      | rest => some rest) : Option (List Char)).map fun rest => (.moment, rest) := by
  rw [dateOrNumber, date.skip.2, Bool.true_or, if_pos rfl, skipMoment, if_pos date.skip.2, date.skip.1]
  rfl

/-- What follows a value behind a gap is no time. -/
theorem Follows.noTime (follows : Follows (' ' :: text)) : startsTime text = false := by
  have ends : Ends text := Follows.ends (follows : Follows text)
  rcases text with _ | ⟨char, text⟩
  · rfl
  · rw [startsTime, fixedDigits_cons (ends.time char rfl).1]
    rfl

/-- A date, a time or both are read to their end. -/
theorem MomentText.read (moment : MomentText text) (follows : Follows rest) :
    dateOrNumber (text ++ rest) = some (.moment, rest) := by
  have ends := follows.ends
  cases moment with
  -- Behind a date alone there is no letter and no space that leads to a time.
  | date date =>
    rw [skipMoment_date date]
    split
    · exact absurd (ends 'T' rfl) (by decide)
    · exact absurd (ends 't' rfl) (by decide)
    · rw [if_neg (by simp [follows.noTime])]
      rfl
    · rfl
  -- A time is told from a date by the colon behind its first two digits.
  | time time =>
    rw [dateOrNumber, time.starts.1, Bool.or_true, if_pos rfl, skipMoment, time.starts.2,
      if_neg Bool.false_ne_true, time.skip ends.time]
    rfl
  -- Whatever stands between them, the time behind it is found and passed over with its offset.
  | @both date time offset between date_ between_ time_ offset_ =>
    have timed : (if startsTime (time ++ (offset ++ rest)) then
        (skipTime (time ++ (offset ++ rest))).bind skipOffset
        else some (between :: (time ++ (offset ++ rest)))) = some rest := by
      rw [if_pos time_.starts.1, time_.skip (offset_.after ends), Option.bind_some, offset_.skip ends]
    simp only [List.append_assoc, List.cons_append]
    rw [skipMoment_date date_]
    simp only [List.mem_cons, List.not_mem_nil, or_false] at between_
    rcases between_ with rfl | rfl | rfl <;> exact congrArg (Option.map _) timed

end InsightRelay.Toml
