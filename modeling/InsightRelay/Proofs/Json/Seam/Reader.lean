import InsightRelay.Json.Record
import InsightRelay.Proofs.Json.Seam.Skip

/-! Typed readers of values that go on behind a seam. -/

namespace InsightRelay.Json

variable {α β γ : Type}

/-- A reader is steady when what it reads before a seam does not depend on what follows, and a text that is
nothing but a gap ends early. -/
structure Steady (read : Reader α) : Prop where
  starts : ∀ ⦃text⦄, skipGap text = [] → read text = .error (.endsEarly .value)
  goesOn : ∀ ⦃cut rest text⦄, Seam cut rest .outside text →
    Continues cut (Taken cut rest) (read text) (read (text ++ rest))

/-- A reader that looks at the first character behind a gap is steady when it is from there on. -/
theorem Steady.of_first {read : Reader α}
    (starts : ∀ {source}, skipGap source = [] → read source = .error (.endsEarly .value))
    (goesOn : ∀ {cut rest source more} first, skipGap source = first :: more →
      skipGap (source ++ rest) = first :: (more ++ rest) → Seam cut rest .outside (first :: more) →
        Continues cut (Taken cut rest) (read source) (read (source ++ rest))) : Steady read where
  starts _ none := starts none
  goesOn cut rest source seam := by
    -- Either the gap reaches the seam, or both texts have the same first character behind it.
    rcases seam.gap with none | ⟨first, more, short, long, seam⟩
    · rw [starts none]
      exact .early
    · exact goesOn first short long seam

section Scalars

variable {cut : Cut} {rest text more : List Char} {first : Char} {wanted : Wanted}

/-- A scalar that goes on behind the seam is reported as the wrong one in both texts. -/
theorem ofScalar_continues {like : α → β → Prop} {part whole : Except Problem γ} {same : γ → γ → Prop}
    {found : γ → Found} (scalar : Continues cut same part whole)
    (alike : ∀ short long, same short long → found long = found short) :
    Continues cut like (.error (misfit.ofScalar wanted part found))
      (.error (misfit.ofScalar wanted whole found)) := by
  -- Only a scalar that was read in both texts is looked at, and it counts as the same in both.
  cases scalar with
  | early => exact .early
  | failed => exact .failed
  | turned turning => exact .turned turning
  | read related =>
    rw [misfit.ofScalar, misfit.ofScalar, alike _ _ related]
    exact .failed
  | refused free => exact .refused free

/-- What does not fit is reported alike for both texts. -/
theorem misfit_continues {like : α → β → Prop} (seam : Seam cut rest .outside (first :: more)) :
    Continues cut like (.error (misfit wanted (first :: more)))
      (.error (misfit wanted (first :: (more ++ rest)))) := by
  -- The first character tells what was found; a scalar is then read to tell which one it is.
  by_cases null : first = 'n'
  · subst null
    exact ofScalar_continues (word_continues _ (by decide) (seam.outside (by decide))) fun _ _ _ => rfl
  by_cases true_ : first = 't'
  · subst true_
    exact ofScalar_continues (word_continues _ (by decide) (seam.outside (by decide))) fun _ _ _ => rfl
  by_cases false_ : first = 'f'
  · subst false_
    exact ofScalar_continues (word_continues _ (by decide) (seam.outside (by decide))) fun _ _ _ => rfl
  by_cases quote : first = '"'
  · subst quote
    refine ofScalar_continues (textBody_continues seam.quote) fun short long taken => ?_
    rw [taken.same]
  -- Brackets are told from their first character alone.
  by_cases list : first = '['
  · subst list
    exact .failed
  by_cases object : first = '\x7b'
  · subst object
    exact .failed
  have other : ∀ text, misfit wanted (first :: text) =
      if first == '-' || first.isDigit then
        misfit.ofScalar wanted (number (first :: text)) fun read => read.1.found
      else .malformed .valueWanted := by
    intro text
    rw [misfit] <;> simp [*]
  rw [other, other]
  split_ifs
  · refine ofScalar_continues (takesOff_number.continues (List.cons_ne_nil _ _) seam) fun _ _ taken => ?_
    rw [taken.same]
  · exact .failed

theorem steady_text (wanted : Wanted) : Steady (Json.text wanted) := by
  refine .of_first (fun none => ?starts) fun first short long seam => ?goesOn
  case starts =>
    rw [Json.text, none]
    rfl
  case goesOn =>
    rw [Json.text, Json.text, short, long]
    -- A quote starts a string, and any other character one of what does not fit.
    by_cases quote : first = '"'
    · subst quote
      exact (textBody_continues seam.quote).take fun chars left seam => .read (seam.taken _)
    · simpa [quote] using misfit_continues seam

theorem steady_integer (range : IntegerRange) : Steady (integer range) := by
  refine .of_first (fun none => ?starts) fun {cut rest} _ _ first short long seam => ?goesOn
  case starts =>
    rw [integer, none]
  case goesOn =>
    rw [integer, integer, short, long]
    by_cases start : (first == '-' || first.isDigit) = true
    · simp only [if_pos start]
      refine (takesOff_number.continues (List.cons_ne_nil _ _) seam).take fun value left seam => ?_
      -- The number decides, whatever stands behind it.
      have accept : ∀ value, Continues cut (Taken cut rest) (integer.accept range value left)
          (integer.accept range value (left ++ rest)) := by
        intro value
        rw [integer.accept, integer.accept]
        split_ifs
        · exact .read (seam.taken _)
        · exact .failed
      cases value with
      | natural value => exact accept value
      | negative value => exact accept value
      | fraction negative value => exact .failed
    · simp only [if_neg start]
      exact misfit_continues seam

theorem steady_null : Steady null := by
  refine .of_first (fun none => ?starts) fun first short long seam => ?goesOn
  case starts =>
    rw [null, none]
    rfl
  case goesOn =>
    rw [null, null, short, long]
    -- The letter starts the word, and any other character one of what does not fit.
    by_cases letter : first = 'n'
    · subst letter
      exact (word_continues _ (by decide) (seam.outside (by decide))).leave fun _ seam =>
        .read (seam.taken _)
    · simpa [letter] using misfit_continues seam

/-- A steady reader stays so when something is made of what it reads. -/
theorem Steady.map {read : Reader α} (steady : Steady read) (make : α → β) :
    Steady fun source => (read source).map fun (value, rest) => (make value, rest) where
  starts := by
    -- What is made of a value depends on the value only, which is the same for both texts.
    intro source none
    rw [steady.starts none]
    rfl
  goesOn := by
    intro cut rest source seam
    refine (steady.goesOn seam).map ?_
    rintro ⟨_, short⟩ ⟨value, long⟩ ⟨rfl, left⟩
    exact ⟨rfl, left⟩

/-- Whatever does not start as null does is left to the reader of the value. -/
theorem optional_value {read : Reader α} {head source : List Char} (same : skipGap source = head)
    (letter : head.head? ≠ some 'n') : optional read source = (read head).map fun (value, rest) =>
      (some value, rest) := by
  rw [optional, same]
  split
  · exact absurd rfl letter
  · rfl

theorem Steady.optional {read : Reader α} (steady : Steady read) : Steady (optional read) := by
  refine .of_first (fun none => ?starts) fun first short long seam => ?goesOn
  case starts =>
    have early : read [] = .error (.endsEarly .value) := steady.starts rfl
    rw [optional_value none (by simp), early]
    rfl
  case goesOn =>
    -- The first letter decides between the word for nothing and a value.
    by_cases letter : first = 'n'
    · subst letter
      rw [Json.optional, Json.optional, short, long]
      exact (word_continues _ (by decide) (seam.outside (by decide))).leave fun _ seam =>
        .read (seam.taken _)
    · rw [optional_value short (by simpa using letter), optional_value long (by simpa using letter)]
      refine (steady.goesOn seam).map ?_
      rintro ⟨_, short⟩ ⟨value, long⟩ ⟨rfl, left⟩
      exact ⟨rfl, left⟩

theorem closeObject_continues (seam : Seam cut rest .outside text) :
    Continues cut (Left cut rest) (closeObject text) (closeObject (text ++ rest)) :=
  afterMark_continues (by decide) seam

/-- Where the seam is behind a comma too many, the rest tells whether the list ends there. -/
theorem closeList_continues (seam : Seam cut rest .outside text) :
    Continues cut (Left cut rest) (closeList text) (closeList (text ++ rest)) := by
  rcases seam.gap with none | ⟨first, more, short, long, seam⟩
  · rw [closeList, none]
    exact .early
  rw [closeList, closeList, short, long]
  by_cases close : first = ']'
  · subst close
    exact .read (seam.outside (by decide)).left
  by_cases comma : first = ','
  · subst comma
    rcases (seam.outside (by decide)).gap with none | ⟨next, more, short, long, -⟩
    · -- The gap behind the comma reaches the seam and goes on in the rest.
      have behind : skipGap (more ++ rest) = skipGap rest :=
        List.dropWhile_append_of_pos (List.dropWhile_eq_nil_iff.1 none)
      simp only [none, behind]
      by_cases ends : (skipGap rest).head? = some ']'
      · rw [if_pos ends]
        exact .turned (seam.turning ⟨⟨[], more, rfl, none⟩, ends⟩)
      · rw [if_neg ends]
        exact .failed
    · -- Otherwise what stands behind the comma stands before the seam.
      simp only [short, long, List.head?_cons]
      exact .failed
  · simpa [close, comma] using Continues.failed

theorem steady_variantName : Steady variantName := by
  refine .of_first (fun none => ?starts) fun first short long seam => ?goesOn
  case starts =>
    rw [variantName, none]
  case goesOn =>
    rw [variantName, variantName, short, long]
    -- Anything but a string is refused at once, whatever follows.
    by_cases quote : first = '"'
    · subst quote
      exact (textBody_continues seam.quote).take fun chars left seam => .read (seam.taken _)
    · simpa [quote] using Continues.failed

theorem steady_variant : Steady variant := by
  refine .of_first (fun none => ?starts) fun first short long seam => ?goesOn
  case starts =>
    rw [variant, none]
  case goesOn =>
    rw [variant, variant, short, long]
    by_cases quote : first = '"'
    · subst quote
      exact (textBody_continues seam.quote).take fun chars left seam => .read (seam.taken _)
    -- A bracket starts the long form: the name, a colon, nothing for its content, and the end.
    by_cases bracket : first = '\x7b'
    · subst bracket
      refine (steady_variantName.goesOn (seam.outside (by decide))).take fun name left seam => ?_
      refine (colon_continues seam).leave fun left seam => ?_
      refine (steady_null.goesOn seam).take fun _ left seam => ?_
      exact (afterMark_continues (by decide) seam).leave fun left seam => .read (seam.taken name)
    · simpa [quote, bracket] using Continues.failed

end Scalars

section Rows

variable {cut : Cut} {rest source : List Char} {read : Reader α}

/-- Where the next element starts is found alike in both texts. -/
theorem nextElement_continues (first : Bool) (seam : Seam cut rest .outside source) :
    Continues cut (Option.Rel (Left cut rest)) (nextElement first source)
      (nextElement first (source ++ rest)) := by
  -- The gap before the seam may reach up to it, and then the text ends early.
  rcases seam.gap with none | ⟨char, more, short, long, seam⟩
  · rw [nextElement, none]
    exact .early
  rw [nextElement, nextElement, short, long]
  by_cases close : char = ']'
  · subst close
    exact .read .none
  by_cases comma : char = ','
  · subst comma
    cases first with
    | true => exact .read (.some seam.left)
    | false =>
      -- Behind a comma, the next element starts where the gap ends.
      rcases (seam.outside (by decide)).gap with none | ⟨next, more, short, long, seam⟩
      · simp only [none]
        exact .early
      simp only [short, long]
      by_cases close : next = ']'
      · subst close
        exact .failed
      · simpa [close] using Continues.read (Option.Rel.some seam.left)
  · cases first with
    | true => simpa [close, comma] using Continues.read (Option.Rel.some seam.left)
    | false => simpa [close, comma] using Continues.failed

/-- A walk that goes on only if text was taken off does so in both texts or in neither. -/
theorem Continues.ifShorter {like : β → γ → Prop} (left source rest : List Char)
    {next : left.length < source.length → Except Problem β}
    {next' : (left ++ rest).length < (source ++ rest).length → Except Problem γ}
    (goesOn : ∀ shorter shorter', Continues cut like (next shorter) (next' shorter')) :
    Continues cut like
      (if shorter : left.length < source.length then next shorter
        else .error (.malformed .valueWanted))
      (if shorter : (left ++ rest).length < (source ++ rest).length then next' shorter
        else .error (.malformed .valueWanted)) := by
  -- The rest stands behind both sides, so they compare as before.
  have same : (left ++ rest).length < (source ++ rest).length ↔ left.length < source.length := by
    rw [List.length_append, List.length_append, Nat.add_lt_add_iff_right]
  by_cases shorter : left.length < source.length
  · rw [dif_pos shorter, dif_pos (same.2 shorter)]
    exact goesOn shorter _
  · rw [dif_neg shorter, dif_neg (mt same.1 shorter)]
    exact .failed

/-- The elements before the seam are read whatever follows. -/
theorem elements_continues (steady : Steady read) (first : Bool)
    (seam : Seam cut rest .outside source) :
    Continues cut (Taken cut rest) (elements read first source)
      (elements read first (source ++ rest)) := by
  -- Element by element: the next one is found, read and put in front of those behind it.
  induction first, source using elements.induct with
  | case1 first source ih =>
    rw [elements, elements]
    refine (nextElement_continues first seam).leaveOption (.read (seam.taken [])) fun start seam => ?_
    refine (steady.goesOn seam).take fun value left seam => ?_
    refine .ifShorter left source rest fun shorter _ => ?_
    exact (ih left shorter seam).take fun values left seam => .read (seam.taken _)

theorem Steady.list (steady : Steady read) : Steady (list read) := by
  refine .of_first (fun none => ?starts) fun first short long seam => ?goesOn
  case starts =>
    rw [Json.list, none]
    rfl
  case goesOn =>
    rw [Json.list, Json.list, short, long]
    -- Behind the bracket come the elements and the bracket that closes them.
    by_cases bracket : first = '['
    · subst bracket
      refine (elements_continues steady true (seam.outside (by decide))).take fun values left seam => ?_
      exact (closeList_continues seam).leave fun left seam => .read (seam.taken values)
    · simpa [bracket] using misfit_continues seam

theorem nextName_continues (first : Bool) (seam : Seam cut rest .outside source) :
    Continues cut (Option.Rel (Taken cut rest)) (nextName first source)
      (nextName first (source ++ rest)) := by
  -- Wherever a quote stands where a name is due, the name is read alike in both texts.
  have name : ∀ {text}, Seam cut rest .outside ('"' :: text) →
      Continues cut (Option.Rel (Taken cut rest)) (nextName.name text)
        (nextName.name (text ++ rest)) := fun seam =>
    (textBody_continues seam.quote).take fun chars left seam => .read (.some (seam.taken _))
  rcases seam.gap with none | ⟨char, more, short, long, seam⟩
  · rw [nextName, none]
    exact .early
  rw [nextName, nextName, short, long]
  by_cases close : char = '\x7d'
  · subst close
    exact .read .none
  by_cases quote : char = '"'
  · subst quote
    cases first with
    | true => exact name seam
    | false => exact .failed
  by_cases comma : char = ','
  · subst comma
    cases first with
    | true => exact .failed
    | false =>
      -- Behind a comma the quote of a name is the only thing that may come.
      rcases (seam.outside (by decide)).gap with none | ⟨next, more, short, long, seam⟩
      · simp only [none]
        exact .early
      simp only [short, long]
      by_cases quote : next = '"'
      · subst quote
        exact name seam
      by_cases close : next = '\x7d'
      · subst close
        exact .failed
      · simpa [quote, close] using Continues.failed
  · simpa [close, quote, comma] using Continues.failed

/-- The members before the seam are read whatever follows. -/
theorem members_continues (steady : Steady read) (first : Bool)
    (seam : Seam cut rest .outside source) :
    Continues cut (Taken cut rest) (members read first source)
      (members read first (source ++ rest)) := by
  -- Member by member: name, colon and value, and then the members behind them.
  induction first, source using members.induct with
  | case1 first source ih =>
    rw [members, members]
    refine (nextName_continues first seam).takeOption (.read (seam.taken [])) fun name left seam => ?_
    refine (colon_continues seam).leave fun left seam => ?_
    refine (steady.goesOn seam).take fun value left seam => ?_
    refine .ifShorter left source rest fun shorter _ => ?_
    exact (ih left shorter seam).take fun entries left seam => .read (seam.taken _)

theorem Steady.dictionary (steady : Steady read) : Steady (dictionary read) := by
  refine .of_first (fun none => ?starts) fun first short long seam => ?goesOn
  case starts =>
    rw [Json.dictionary, none]
    rfl
  case goesOn =>
    rw [Json.dictionary, Json.dictionary, short, long]
    -- Behind the bracket come the members and the bracket that closes them.
    by_cases bracket : first = '\x7b'
    · subst bracket
      refine (members_continues steady true (seam.outside (by decide))).take fun entries left seam => ?_
      exact (closeObject_continues seam).leave fun left seam => .read (seam.taken entries)
    · simpa [bracket] using misfit_continues seam

end Rows

section Records

variable {cut : Cut} {rest source : List Char}

theorem steady_needed {read : Reader β} {name : String} {set : β → α → α} (steady : Steady read) :
    Steady (Field.needed name read set).read :=
  steady.map set

theorem steady_defaulted {read : Reader β} {name : String} {set : β → α → α} (steady : Steady read) :
    Steady (Field.defaulted name read set).read :=
  steady.map set

namespace Layout

variable {layout : Layout α}

/-- The members of a record before the seam are read whatever follows. -/
theorem fromMembers_continues (steady : ∀ field ∈ layout.fields, Steady field.read) (first : Bool)
    (record : α) (given : List String) (seam : Seam cut rest .outside source) :
    Continues cut (Taken cut rest) (layout.fromMembers first record given source)
      (layout.fromMembers first record given (source ++ rest)) := by
  induction first, record, given, source using fromMembers.induct with
  | case1 first record given source known unknown =>
    rw [fromMembers, fromMembers]
    refine (nextName_continues first seam).takeOption ?_ fun name left seam => ?_
    · -- Only at the end of the object is a field found to be missing.
      cases layout.missing? given with
      | none => exact .read (seam.taken record)
      | some name => exact .failed
    · -- The name decides what is read behind the colon, and it is the same in both texts.
      cases found : layout.fields.find? fun field => field.name == name with
      | some field =>
        simp only [found]
        by_cases again : given.contains name = true
        · simp only [if_pos again]
          exact .failed
        simp only [if_neg again]
        refine (colon_continues seam).leave fun left seam => ?_
        have this := steady field (List.mem_of_find?_eq_some found)
        refine (this.goesOn seam).take fun change left seam => ?_
        exact .ifShorter left source rest fun shorter _ => known name change left shorter seam
      | none =>
        simp only [found]
        refine (colon_continues seam).leave fun left seam => ?_
        -- A value under a strange name is passed over and changes nothing.
        refine (skipValue_continues seam).leave fun left seam => ?_
        exact .ifShorter left source rest fun shorter _ => unknown left shorter seam

/-- The elements of a record before the seam are read whatever follows. -/
theorem fromElements_continues {fields : List (Field α)} (steady : ∀ field ∈ fields, Steady field.read)
    (first : Bool) (record : α) (index : Nat) (seam : Seam cut rest .outside source) :
    Continues cut (Taken cut rest) (layout.fromElements first record index fields source)
      (layout.fromElements first record index fields (source ++ rest)) := by
  -- Element by element, along the fields that are still to be filled.
  induction fields generalizing first record index source with
  | nil =>
    rw [fromElements, fromElements]
    exact .read (seam.taken record)
  | cons field fields ih =>
    obtain ⟨this, others⟩ := List.forall_mem_cons.1 steady
    rw [fromElements, fromElements]
    refine (nextElement_continues first seam).leaveOption ?_ fun start inside => ?_
    · -- The list is over: the field gets its default, or is missed in both texts.
      by_cases required : field.required = true
      · simp only [if_pos required]
        exact .failed
      · simp only [if_neg required]
        exact ih others first record (index + 1) seam
    · exact (this.goesOn inside).take fun change left seam =>
        ih others false (change record) (index + 1) seam

theorem steady_read (steady : ∀ field ∈ layout.fields, Steady field.read) : Steady layout.read := by
  refine .of_first (fun none => ?starts) fun first short long seam => ?goesOn
  case starts =>
    rw [read, none]
    rfl
  case goesOn =>
    rw [read, read, short, long]
    -- A record is written as a list or as an object, and its first character tells which.
    by_cases list : first = '['
    · subst list
      refine (fromElements_continues steady true layout.blank 0 (seam.outside (by decide))).take
        fun record left seam => ?_
      exact (closeList_continues seam).leave fun left seam => .read (seam.taken record)
    by_cases object : first = '\x7b'
    · subst object
      refine (fromMembers_continues steady true layout.blank [] (seam.outside (by decide))).take
        fun record left seam => ?_
      exact (closeObject_continues seam).leave fun left seam => .read (seam.taken record)
    · simpa [list, object] using misfit_continues seam

end Layout

end Records

end InsightRelay.Json
