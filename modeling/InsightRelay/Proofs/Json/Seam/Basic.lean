import InsightRelay.Proofs.Json.Form
import InsightRelay.Json.Text
import Mathlib.Data.Option.Basic

/-! Texts that go on: what reading the first part of a text says about reading the whole.

A text is cut in two at a seam. Reading the first part may end early, and otherwise it goes as reading the
whole does, unless the seam runs through a number. The laws are kept for two kinds of seams: those behind a
space, which no continuation undoes, and those in a text that is accepted as a whole. -/

namespace InsightRelay.Json

/-- Where a position of a document is with respect to strings. -/
inductive Place
  | outside
  | inside
  /-- Inside a string, right behind the backslash of an escape. -/
  | escaped
deriving DecidableEq, Repr

/-- The place behind a character. -/
def Place.next (place : Place) (char : Char) : Place :=
  match place with
  | outside => if char = '"' then inside else outside
  | inside => if char = '"' then outside else if char = '\\' then escaped else inside
  | escaped => inside

/-- The place behind a piece of text. -/
def Place.behind (place : Place) (piece : List Char) : Place :=
  piece.foldl Place.next place

/-- A seam runs through a number: a number literal starts before it and ends behind it. -/
def CutsNumber (place : Place) (text rest : List Char) : Prop :=
  ∃ before head tail after, text = before ++ head ∧ rest = tail ++ after ∧
    place.behind before = .outside ∧ head ≠ [] ∧ tail ≠ [] ∧ NumberText (head ++ tail)

/-- What is said of the seam in a text. -/
structure Cut where
  /-- It is said to be behind a space. -/
  spaced : Prop
  /-- It is said to be behind a comma, with the end of a list on its other side. -/
  turning : Prop

/-- A text ends with a comma, and a list ends at the start of the rest, with gaps between them. -/
structure Turning (text rest : List Char) : Prop where
  comma : ∃ before gap, text = before ++ ',' :: gap ∧ skipGap gap = []
  closing : (skipGap rest).head? = some ']'

/-- A text may be followed by a given rest: no number is cut, and what is said of the seam holds where
the seam is behind a space, or behind a comma and before the end of a list. -/
structure Seam (cut : Cut) (rest : List Char) (place : Place) (text : List Char) : Prop where
  uncut : ¬ CutsNumber place text rest
  space : cut.spaced → ∀ before last, text = before ++ [last] → last = ' '
  turning : Turning text rest → cut.turning

/-- What a result for the first part of a text has to do with the result for the whole.

The part may end early. Where the seam is not said to be behind a space, nothing is said about texts that
are refused as a whole. -/
inductive Continues {α β : Type} (cut : Cut) (like : α → β → Prop) :
    Except Problem α → Except Problem β → Prop
  | early {within : Within} {whole : Except Problem β} :
    Continues cut like (.error (.endsEarly within)) whole
  | failed {problem : Problem} : Continues cut like (.error problem) (.error problem)
  /-- What stands too much behind a comma is judged by whether the list ends there. -/
  | turned (turning : cut.turning) : Continues cut like (.error (.malformed .trailingText))
      (.error (.malformed .trailingComma))
  | read {short : α} {long : β} (alike : like short long) : Continues cut like (.ok short) (.ok long)
  | refused {part : Except Problem α} {problem : Problem} (free : ¬ cut.spaced) :
    Continues cut like part (.error problem)

section Seams

variable {cut : Cut} {rest text piece more : List Char} {place : Place} {char : Char}

/-- A seam is one for the text behind a character, too. -/
theorem Seam.step (seam : Seam cut rest place (char :: text)) :
    Seam cut rest (place.next char) text where
  uncut := by
    rintro ⟨before, head, tail, after, rfl, rfl, outside, cut⟩
    exact seam.uncut ⟨char :: before, head, tail, after, rfl, rfl, outside, cut⟩
  space := by
    rintro holds before last rfl
    exact seam.space holds (char :: before) last rfl
  turning := by
    rintro ⟨⟨before, gap, rfl, empty⟩, closing⟩
    exact seam.turning ⟨⟨char :: before, gap, rfl, empty⟩, closing⟩

/-- A seam is one for what a piece of text leaves. -/
theorem Seam.drop (seam : Seam cut rest place (piece ++ text)) :
    Seam cut rest (place.behind piece) text := by
  induction piece generalizing place with
  | nil => exact seam
  | cons char piece ih => exact ih seam.step

/-- Text without quotes does not lead into a string. -/
theorem Place.behind_outside (plain : ∀ char ∈ piece, char ≠ '"') :
    Place.outside.behind piece = .outside := by
  induction piece with
  | nil => rfl
  | cons char piece ih =>
    obtain ⟨first, others⟩ := List.forall_mem_cons.1 plain
    rw [behind, List.foldl_cons, next, if_neg first]
    exact ih others

/-- Behind a character that is no quote, a text outside strings goes on outside them. -/
theorem Seam.outside (seam : Seam cut rest .outside (char :: text)) (plain : char ≠ '"') :
    Seam cut rest .outside text := by
  have behind := seam.step
  rwa [Place.next, if_neg plain] at behind

/-- Behind an opening quote, a text goes on inside a string. -/
theorem Seam.quote (seam : Seam cut rest .outside ('"' :: text)) : Seam cut rest .inside text :=
  seam.step

/-- What is left of both texts is the same up to the rest, and the seam lies outside strings. -/
structure Left (cut : Cut) (rest short long : List Char) : Prop where
  same : long = short ++ rest
  seam : Seam cut rest .outside short

/-- The same was read of both texts, and what is left of them is alike. -/
structure Taken {α : Type} (cut : Cut) (rest : List Char) (short long : α × List Char) : Prop where
  same : long.1 = short.1
  left : Left cut rest short.2 long.2

theorem Seam.left (seam : Seam cut rest .outside text) : Left cut rest text (text ++ rest) :=
  ⟨rfl, seam⟩

theorem Seam.taken {α : Type} (value : α) (seam : Seam cut rest .outside text) :
    Taken cut rest (value, text) (value, text ++ rest) :=
  ⟨rfl, seam.left⟩

/-- A gap before the seam is either all there is, or it ends at the same character in both texts. -/
theorem Seam.gap (seam : Seam cut rest .outside text) : skipGap text = [] ∨
    ∃ first more, skipGap text = first :: more ∧ skipGap (text ++ rest) = first :: (more ++ rest) ∧
      Seam cut rest .outside (first :: more) := by
  induction text with
  | nil => exact .inl rfl
  | cons char text ih =>
    by_cases gap : isGap char = true
    · -- A character of the gap is no quote, so the seam stays outside strings.
      have plain : char ≠ '"' := by rintro rfl; contradiction
      simpa [skipGap, gap] using ih (seam.outside plain)
    · exact .inr ⟨char, text, by simp [skipGap, gap], by simp [skipGap, gap], seam⟩

end Seams

namespace Continues

variable {α β γ δ : Type} {cut : Cut} {like : α → β → Prop} {alike : γ → δ → Prop}
  {part : Except Problem α} {whole : Except Problem β}

/-- What comes next may rely on what was read before the seam. -/
theorem bind {next : α → Except Problem γ} {next' : β → Except Problem δ}
    (first : Continues cut like part whole)
    (then_ : ∀ short long, like short long → Continues cut alike (next short) (next' long)) :
    Continues cut alike (part >>= next) (whole >>= next') := by
  -- If the part ended early or both were refused, nothing comes next; otherwise both were read alike.
  cases first with
  | early => exact .early
  | failed => exact .failed
  | turned turning => exact .turned turning
  | read related => exact then_ _ _ related
  | refused free => exact .refused free

/-- What comes next may rely on the value that was read, and on what is left for it. -/
theorem take {rest : List Char} {part whole : Except Problem (α × List Char)}
    {next : α × List Char → Except Problem γ} {next' : α × List Char → Except Problem δ}
    (first : Continues cut (Taken cut rest) part whole)
    (then_ : ∀ value left, Seam cut rest .outside left →
      Continues cut alike (next (value, left)) (next' (value, left ++ rest))) :
    Continues cut alike (part >>= next) (whole >>= next') := by
  -- Related results hold the same value, and what is left of the whole is what is left of the part
  -- with the rest behind it.
  refine first.bind ?_
  rintro ⟨value, left⟩ ⟨value', left'⟩ ⟨same, ⟨same', seam⟩⟩
  obtain rfl : value' = value := same
  obtain rfl : left' = left ++ rest := same'
  exact then_ _ _ seam

/-- What comes next may rely on what is left for it. -/
theorem leave {rest : List Char} {part whole : Except Problem (List Char)}
    {next : List Char → Except Problem γ} {next' : List Char → Except Problem δ}
    (first : Continues cut (Left cut rest) part whole)
    (then_ : ∀ left, Seam cut rest .outside left →
      Continues cut alike (next left) (next' (left ++ rest))) :
    Continues cut alike (part >>= next) (whole >>= next') := by
  -- What is left of the whole is what is left of the part with the rest behind it.
  refine first.bind ?_
  rintro left _ ⟨rfl, seam⟩
  exact then_ _ seam

/-- What comes next may tell whether something was read. -/
theorem takeOption {rest : List Char} {part whole : Except Problem (Option (α × List Char))}
    {next : Option (α × List Char) → Except Problem γ} {next' : Option (α × List Char) → Except Problem δ}
    (first : Continues cut (Option.Rel (Taken cut rest)) part whole)
    (none_ : Continues cut alike (next none) (next' none))
    (some_ : ∀ value left, Seam cut rest .outside left →
      Continues cut alike (next (some (value, left))) (next' (some (value, left ++ rest)))) :
    Continues cut alike (part >>= next) (whole >>= next') := by
  -- Nothing was read of either text, or the same of both.
  refine first.bind ?_
  rintro _ _ (@⟨⟨value, left⟩, ⟨value', left'⟩, same, same', seam⟩ | _)
  · obtain rfl : value' = value := same
    obtain rfl : left' = left ++ rest := same'
    exact some_ _ _ seam
  · exact none_

/-- What comes next may tell whether something is left for it. -/
theorem leaveOption {rest : List Char} {part whole : Except Problem (Option (List Char))}
    {next : Option (List Char) → Except Problem γ} {next' : Option (List Char) → Except Problem δ}
    (first : Continues cut (Option.Rel (Left cut rest)) part whole)
    (none_ : Continues cut alike (next none) (next' none))
    (some_ : ∀ left, Seam cut rest .outside left →
      Continues cut alike (next (some left)) (next' (some (left ++ rest)))) :
    Continues cut alike (part >>= next) (whole >>= next') := by
  -- Nothing was found in either text, or the same place in both.
  refine first.bind ?_
  rintro _ _ (⟨rfl, seam⟩ | _)
  · exact some_ _ seam
  · exact none_

/-- What is made of two results is alike when the results are. -/
theorem map {make : α → γ} {make' : β → δ} (first : Continues cut like part whole)
    (then_ : ∀ short long, like short long → alike (make short) (make' long)) :
    Continues cut alike (part.map make) (whole.map make') := by
  cases first with
  | early => exact .early
  | failed => exact .failed
  | turned turning => exact .turned turning
  | read related => exact .read (then_ _ _ related)
  | refused free => exact .refused free

/-- Behind a space, a problem other than an early end stays whatever follows, but for what stands too
much behind a comma. -/
theorem stays {problem : Problem} (result : Continues cut like (.error problem) whole)
    (spaced : cut.spaced) (late : problem.kind ≠ .early) : whole = .error problem ∨
      cut.turning ∧ problem = .malformed .trailingText ∧ whole = .error (.malformed .trailingComma) := by
  cases result with
  | early => exact absurd rfl late
  | failed => exact .inl rfl
  | turned turning => exact .inr ⟨turning, rfl, rfl⟩
  | refused free => exact absurd spaced free

/-- Behind a space, what is read of the part is read of the whole. -/
theorem kept {short : α} (result : Continues cut like (.ok short) whole) (spaced : cut.spaced) :
    ∃ long, whole = .ok long ∧ like short long := by
  cases result with
  | read related => exact ⟨_, rfl, related⟩
  | refused free => exact absurd spaced free

/-- Where the whole is read, the part is read as far as it goes or ends early. -/
theorem accepted {long : β} (result : Continues cut like part (.ok long)) :
    (∃ within, part = .error (.endsEarly within)) ∨ ∃ short, part = .ok short ∧ like short long := by
  cases result with
  | early => exact .inl ⟨_, rfl⟩
  | read related => exact .inr ⟨_, rfl, related⟩

end Continues

/-- A word that is read before the seam is read whatever follows. -/
theorem word_continues {cut : Cut} {rest text : List Char} (expected : List Char)
    (plain : '"' ∉ expected) (seam : Seam cut rest .outside text) :
    Continues cut (Left cut rest) (word expected text) (word expected (text ++ rest)) := by
  -- Letter by letter; none of them is a quote, so the seam stays outside strings.
  induction expected generalizing text with
  | nil => exact .read seam.left
  | cons letter expected ih =>
    have first : letter ≠ '"' := (List.ne_of_not_mem_cons plain).symm
    have others := List.not_mem_of_not_mem_cons plain
    cases text with
    -- The seam may come before the word is over.
    | nil => exact .early
    | cons char text =>
      rw [List.cons_append, word, word]
      by_cases same : char = letter
      · rw [if_pos same, if_pos same]
        exact ih others (seam.outside (same ▸ first))
      · rw [if_neg same, if_neg same]
        exact .failed

end InsightRelay.Json
