import InsightRelay.Proofs.Json.Seam.Basic
import Mathlib.Algebra.GroupWithZero.Nat

/-! Strings that go on behind a seam. -/

namespace InsightRelay.Json

section Units

variable {cut : Cut} {rest text digits : List Char} {char : Char}

/-- Characters that neither end a string nor start an escape. -/
def Plain (piece : List Char) : Prop :=
  ∀ char ∈ piece, char ≠ '"' ∧ char ≠ '\\'

/-- Behind a character that is neither quoted nor escaped, a text inside a string goes on inside it. -/
theorem Seam.raw (unquoted : char ≠ '"') (unescaped : char ≠ '\\')
    (seam : Seam cut rest .inside (char :: text)) : Seam cut rest .inside text := by
  have step := seam.step
  rwa [Place.next, if_neg unquoted, if_neg unescaped] at step

theorem Seam.plain (plain : Plain digits) (seam : Seam cut rest .inside (digits ++ text)) :
    Seam cut rest .inside text := by
  induction digits with
  | nil => exact seam
  | cons char digits ih =>
    obtain ⟨⟨unquoted, unescaped⟩, others⟩ := List.forall_mem_cons.1 plain
    exact ih others (seam.raw unquoted unescaped)

/-- A hexadecimal digit is one byte long and neither ends a string nor starts an escape. -/
theorem digitValue?_isSome (digit : (digitValue? char).isSome = true) :
    char.utf8Size = 1 ∧ char ≠ '"' ∧ char ≠ '\\' := by
  refine ⟨?_, ?_, ?_⟩
  · -- The digits of either case come before the end of the alphabet.
    have small : char ≤ 'f' := by
      unfold digitValue? at digit
      split at digit
      · next decimal => exact Char.le_trans decimal.2 (by decide)
      split at digit
      · next lower => exact lower.2
      split at digit
      · next upper => exact Char.le_trans upper.2 (by decide)
      · contradiction
    have bound : char.val ≤ 127 := UInt32.le_trans small (by decide)
    simp [Char.utf8Size, bound]
  all_goals
    rintro rfl
    contradiction

/-- How many bytes a text has. -/
def byteCount (text : List Char) : Nat :=
  (text.map Char.utf8Size).sum

/-- A text with more bytes than characters holds a character that is no digit. -/
theorem exists_strange (long : text.length < byteCount text) :
    ∃ char ∈ text, digitValue? char = none := by
  -- Digits are one byte long each, so a text of digits has as many bytes as characters.
  by_contra digits
  have each : ∀ size ∈ text.map Char.utf8Size, size = 1 := by
    simp only [List.mem_map, forall_exists_index, and_imp, forall_apply_eq_imp_iff₂]
    intro char member
    refine (digitValue?_isSome (Option.isSome_iff_ne_none.2 fun none => ?_)).1
    exact digits ⟨char, member, none⟩
  have same : byteCount text = text.length := by
    rw [byteCount, List.eq_replicate_of_mem each]
    simp
  omega

theorem codeUnit_short (short : text.length < 4) :
    codeUnit text = .error (if byteCount text < 4 then .endsEarly .text else .malformed .badEscape) := by
  -- No text of less than four characters has the shape that the definition asks for.
  rcases text with _ | ⟨a, _ | ⟨b, _ | ⟨c, _ | ⟨d, more⟩⟩⟩⟩
  · rfl
  · rfl
  · rfl
  · rfl
  · simp only [List.length_cons] at short
    omega

theorem exists_four (long : ¬ text.length < 4) : ∃ a b c d more, text = a :: b :: c :: d :: more := by
  rcases text with _ | ⟨a, _ | ⟨b, _ | ⟨c, _ | ⟨d, more⟩⟩⟩⟩ <;> simp at long ⊢

/-- Four characters are a code unit when all of them are digits. -/
theorem codeUnit_four (a b c d : Char) (more : List Char) :
    (∃ unit, codeUnit (a :: b :: c :: d :: more) = .ok unit ∧
      ∀ char ∈ [a, b, c, d], (digitValue? char).isSome = true) ∨
        codeUnit (a :: b :: c :: d :: more) = .error (.malformed .badEscape) := by
  -- The unit is made of the values of the four digits, as far as all of them have one.
  rw [codeUnit]
  split
  · next first second third fourth =>
    exact .inl ⟨_, rfl, by simp [first, second, third, fourth]⟩
  · exact .inr rfl

/-- A text that is short only in characters is no code unit, whatever follows it. -/
theorem codeUnit_strange (short : text.length < 4) (many : ¬ byteCount text < 4) (rest : List Char) :
    codeUnit (text ++ rest) = .error (.malformed .badEscape) := by
  -- Four characters may still be missing behind the seam, or they are there.
  by_cases still : (text ++ rest).length < 4
  · have more : byteCount (text ++ rest) = byteCount text + byteCount rest := by simp [byteCount]
    rw [codeUnit_short still, if_neg (by omega)]
  · -- A character of several bytes is no digit, and it is one of the first four.
    obtain ⟨char, member, strange⟩ := exists_strange (Nat.lt_of_lt_of_le short (Nat.not_lt.1 many))
    obtain ⟨a, b, c, d, more, same⟩ := exists_four still
    have inside : char ∈ [a, b, c, d] := by
      have front : text = (a :: b :: c :: d :: more).take text.length := by rw [← same, List.take_left]
      rw [front] at member
      exact (List.take_sublist_take_left (Nat.le_of_lt short)).subset member
    rw [same]
    rcases codeUnit_four a b c d more with ⟨unit, -, digits⟩ | failed
    · exact absurd (digits char inside) (by simp [strange])
    · exact failed

/-- The code unit before the seam is read whatever follows. -/
theorem codeUnit_continues (cut : Cut) (text rest : List Char) :
    Continues cut (fun short long => long = short ∧ ∃ digits more, text = digits ++ more ∧
      digits.length = 4 ∧ Plain digits) (codeUnit text) (codeUnit (text ++ rest)) := by
  -- With four characters in front of the seam, they decide alone.
  by_cases short : text.length < 4
  · rw [codeUnit_short short]
    by_cases few : byteCount text < 4
    · rw [if_pos few]
      exact .early
    · rw [if_neg few, codeUnit_strange short few]
      exact .failed
  · obtain ⟨a, b, c, d, more, rfl⟩ := exists_four short
    -- What follows the four characters is not looked at.
    have whole : codeUnit (a :: b :: c :: d :: more ++ rest) = codeUnit (a :: b :: c :: d :: more) := rfl
    rw [whole]
    rcases codeUnit_four a b c d more with ⟨unit, read, digits⟩ | failed
    · rw [read]
      exact .read ⟨rfl, [a, b, c, d], more, rfl, rfl, fun char member =>
        (digitValue?_isSome (digits char member)).2⟩
    · rw [failed]
      exact .failed

end Units

section Strings

variable {cut : Cut} {rest text : List Char}

/-- An escape of a given width ends before the seam, and the string goes on behind it. -/
structure Spent (cut : Cut) (rest text : List Char) (width : Nat) : Prop where
  within : width ≤ text.length
  seam : Seam cut rest .inside (text.drop width)

theorem Seam.spent (unit : List Char) {text : List Char} (seam : Seam cut rest .inside text) :
    Spent cut rest (unit ++ text) unit.length :=
  ⟨by simp, by simpa using seam⟩

/-- The second escape of a pair, where the first one is a leading surrogate. -/
def secondUnit (leading : Nat) : List Char → Except Problem (Char × Nat)
  | [] => .error (.endsEarly .text)
  | ['\\'] => .error (.endsEarly .text)
  | '\\' :: 'u' :: text => do
    let trailing ← codeUnit text
    if trailing < 0xDC00 ∨ 0xDFFF < trailing then .error (.malformed .loneSurrogate)
    else .ok (pairedChar leading trailing, 11)
  | _ => .error (.malformed .pairWanted)

theorem escape_u (text : List Char) : escape ('u' :: text) = (do
    let unit ← codeUnit text
    if 0xDC00 ≤ unit ∧ unit ≤ 0xDFFF then .error (.malformed .loneSurrogate)
    else if unit < 0xD800 ∨ 0xDBFF < unit then .ok (Char.ofNat unit, 5)
    else secondUnit unit (text.drop 4)) := rfl

/-- The second escape of a pair is read whatever follows, if it stands before the seam. -/
theorem secondUnit_continues (leading : Nat) {first text : List Char} (four : first.length = 4)
    (seam : Seam cut rest .inside text) :
    Continues cut (fun short long => long = short ∧ Spent cut rest ('u' :: (first ++ text)) short.2)
      (secondUnit leading text) (secondUnit leading (text ++ rest)) := by
  -- The mark, the letter and the digits of the escape may be missing.
  rcases text with _ | ⟨mark, _ | ⟨letter, text⟩⟩
  · exact .early
  · by_cases escaped : mark = '\\'
    · subst escaped
      exact .early
    · have failed (text : List Char) :
          secondUnit leading (mark :: text) = .error (.malformed .pairWanted) := by
        simp [secondUnit, escaped]
      rw [failed, List.cons_append, failed]
      exact .failed
  -- With both characters there, only digits can still be missing.
  by_cases second : mark = '\\' ∧ letter = 'u'
  · obtain ⟨rfl, rfl⟩ := second
    refine (codeUnit_continues cut text rest).bind ?_
    rintro _ trailing ⟨rfl, digits, more, rfl, four', plain⟩
    -- Only the second half of a pair may stand here.
    by_cases high : trailing < 0xDC00 ∨ 0xDFFF < trailing
    · rw [if_pos high]
      exact .failed
    · rw [if_neg high]
      have last : Seam cut rest .inside more := Seam.plain plain (Seam.step (Seam.step seam))
      have spent := last.spent ('u' :: (first ++ '\\' :: 'u' :: digits))
      exact .read ⟨rfl, by simpa [four, four'] using spent⟩
  · have failed (text : List Char) :
        secondUnit leading (mark :: letter :: text) = .error (.malformed .pairWanted) := by
      rw [secondUnit.eq_def]
      split <;> simp_all
    rw [failed, List.cons_append, List.cons_append, failed]
    exact .failed

/-- The escape before the seam is read whatever follows. -/
theorem escape_continues (seam : Seam cut rest .escaped text) :
    Continues cut (fun short long => long = short ∧ Spent cut rest text short.2)
      (escape text) (escape (text ++ rest)) := by
  cases text with
  | nil => exact .early
  | cons char text =>
    have inside : Seam cut rest .inside text := seam.step
    rw [List.cons_append]
    by_cases unit : char = 'u'
    · subst unit
      rw [escape_u, escape_u]
      refine (codeUnit_continues cut text rest).bind ?_
      rintro _ unit ⟨rfl, digits, more, rfl, four, plain⟩
      have behind : Seam cut rest .inside more := inside.plain plain
      rw [List.append_assoc, List.drop_left' four, List.drop_left' four]
      -- Half a pair that comes second is refused, and a unit that is no half stands for itself.
      by_cases low : 0xDC00 ≤ unit ∧ unit ≤ 0xDFFF
      · rw [if_pos low, if_pos low]
        exact .failed
      rw [if_neg low, if_neg low]
      by_cases alone : unit < 0xD800 ∨ 0xDBFF < unit
      · rw [if_pos alone, if_pos alone]
        have spent := behind.spent ('u' :: digits)
        rw [List.length_cons, four] at spent
        exact .read ⟨rfl, spent⟩
      · rw [if_neg alone, if_neg alone]
        -- Half a pair that comes first needs another unit behind it.
        exact secondUnit_continues unit four behind
    · rw [escape, escape]
      · -- Any other escape is a single letter, which stands before the seam.
        cases letterEscape? char with
        | none => exact .failed
        | some escaped => exact .read ⟨rfl, inside.spent [char]⟩
      · exact unit
      · exact unit

/-- The width of the escape before the seam is found whatever follows. -/
theorem escapeWidth_continues (seam : Seam cut rest .escaped text) :
    Continues cut (fun short long => long = short ∧ Spent cut rest text short)
      (escapeWidth text) (escapeWidth (text ++ rest)) := by
  -- An escape is a letter or a code unit, and their widths are known from the letter.
  cases text with
  | nil => exact .early
  | cons char text =>
    have inside : Seam cut rest .inside text := seam.step
    rw [List.cons_append]
    by_cases unit : char = 'u'
    · subst unit
      refine (codeUnit_continues cut text rest).map ?_
      rintro _ unit ⟨rfl, digits, more, rfl, four, plain⟩
      have spent := (inside.plain plain).spent ('u' :: digits)
      rw [List.length_cons, four] at spent
      exact ⟨rfl, spent⟩
    · rw [escapeWidth, escapeWidth]
      · -- A letter that stands for no character has no width.
        by_cases listed : (letterEscape? char).isSome = true
        · rw [if_pos listed]
          exact .read ⟨rfl, inside.spent [char]⟩
        · rw [if_neg listed]
          exact .failed
      · exact unit
      · exact unit

/-- Behind an escape, what is left of both texts is the same up to the rest. -/
theorem Spent.drop {width : Nat} (spent : Spent cut rest text width) :
    (text ++ rest).drop width = text.drop width ++ rest :=
  List.drop_append_of_le_length spent.within

theorem textBody_raw {char : Char} (unquoted : char = '"' → False) (unescaped : char = '\\' → False) :
    textBody (char :: text) = if char.toNat < 0x20 then .error (.malformed .bareControl) else (do
      let (chars, rest) ← textBody text
      .ok (char :: chars, rest)) := by
  rw [textBody] <;> assumption

theorem skipTextBody_raw {char : Char} (unquoted : char = '"' → False)
    (unescaped : char = '\\' → False) :
    skipTextBody (char :: text) =
      if char.toNat < 0x20 then .error (.malformed .bareControl) else skipTextBody text := by
  rw [skipTextBody] <;> assumption

/-- The string before the seam is read whatever follows. -/
theorem textBody_continues (seam : Seam cut rest .inside text) :
    Continues cut (Taken cut rest) (textBody text) (textBody (text ++ rest)) := by
  -- An escape is read at once, and the induction goes on behind it.
  induction text using textBody.induct with
  | case1 =>
    rw [textBody]
    exact .early
  | case2 text =>
    rw [List.cons_append, textBody, textBody]
    exact .read (Seam.taken _ seam.step)
  | case3 text ih =>
    rw [List.cons_append, textBody, textBody]
    refine (escape_continues seam.step).bind ?_
    rintro ⟨char, width⟩ _ ⟨rfl, spent⟩
    -- What an escape spends stands before the seam, so the seam is still ahead.
    have left : (text ++ rest).drop width = text.drop width ++ rest := spent.drop
    simp only [left]
    exact (ih width spent.seam).take fun chars left seam => .read (seam.taken _)
  | case4 char text unquoted unescaped control =>
    rw [List.cons_append, textBody_raw unquoted unescaped, textBody_raw unquoted unescaped, if_pos control,
      if_pos control]
    exact .failed
  | case5 char text unquoted unescaped printable ih =>
    rw [List.cons_append, textBody_raw unquoted unescaped, textBody_raw unquoted unescaped,
      if_neg printable, if_neg printable]
    exact (ih (seam.raw unquoted unescaped)).take fun chars left seam => .read (seam.taken _)

/-- The string before the seam is passed over whatever follows. -/
theorem skipTextBody_continues (seam : Seam cut rest .inside text) :
    Continues cut (Left cut rest) (skipTextBody text) (skipTextBody (text ++ rest)) := by
  -- Character by character: a quote ends the string, and an escape is passed over as one.
  induction text using skipTextBody.induct with
  | case1 =>
    rw [skipTextBody]
    exact .early
  | case2 text =>
    rw [List.cons_append, skipTextBody, skipTextBody]
    exact .read (Seam.left seam.step)
  | case3 text ih =>
    rw [List.cons_append, skipTextBody, skipTextBody]
    refine (escapeWidth_continues seam.step).bind ?_
    -- The escape was spent before the seam.
    rintro width _ ⟨rfl, spent⟩
    rw [spent.drop]
    exact ih _ spent.seam
  | case4 char text unquoted unescaped control =>
    rw [List.cons_append, skipTextBody_raw unquoted unescaped, skipTextBody_raw unquoted unescaped,
      if_pos control, if_pos control]
    exact .failed
  | case5 char text unquoted unescaped printable ih =>
    rw [List.cons_append, skipTextBody_raw unquoted unescaped, skipTextBody_raw unquoted unescaped,
      if_neg printable, if_neg printable]
    exact ih (seam.raw unquoted unescaped)

end Strings

end InsightRelay.Json
