/-! Dictionaries: texts mapped to values, held in ascending order of the texts.

Two dictionaries are equal exactly when they give the same value for every text. -/

namespace InsightRelay

/-- A finite map from texts, its entries in strictly ascending order. -/
structure Dictionary (α : Type) where
  entries : List (String × α)
  ascending : entries.Pairwise fun left right => left.1 < right.1

namespace Dictionary

variable {α : Type}

/-- The dictionary without entries. -/
def empty : Dictionary α := ⟨[], List.Pairwise.nil⟩

instance : Inhabited (Dictionary α) := ⟨empty⟩

instance : EmptyCollection (Dictionary α) := ⟨empty⟩

instance [DecidableEq α] : DecidableEq (Dictionary α) := fun left right =>
  match decEq left.entries right.entries with
  | isTrue same => isTrue (by cases left; cases right; cases same; rfl)
  | isFalse differ => isFalse fun same => differ (same ▸ rfl)

/-- The value for a text in a list of entries. -/
def lookup (key : String) : (entries : List (String × α)) → Option α
  | [] => none
  | (name, value) :: rest => if name = key then some value else lookup key rest

/-- An entry is put in its place in a list of entries, replacing one for the same text. -/
def place (key : String) (value : α) : (entries : List (String × α)) → List (String × α)
  | [] => [(key, value)]
  | (name, old) :: rest =>
    if key < name then (key, value) :: (name, old) :: rest
    else if name = key then (key, value) :: rest
    else (name, old) :: place key value rest

/-- Placing an entry adds no text but its own. -/
theorem mem_place {key : String} {value : α} {entries : List (String × α)} {entry : String × α}
    (member : entry ∈ place key value entries) : entry = (key, value) ∨ entry ∈ entries := by
  -- Each branch keeps the old entries or drops one of them.
  induction entries with
  | nil => simpa [place] using member
  | cons head rest ih =>
    obtain ⟨name, old⟩ := head
    simp only [place] at member
    split at member
    · simpa using member
    · -- The key is that of the head, whose entry is replaced, or it belongs further on.
      split at member
      · rcases List.mem_cons.1 member with same | inside
        · exact .inl same
        · exact .inr (List.mem_cons_of_mem _ inside)
      · rcases List.mem_cons.1 member with same | inside
        · exact .inr (same ▸ List.mem_cons_self)
        · exact (ih inside).imp_right (List.mem_cons_of_mem _)

/-- Placing an entry keeps the order. -/
theorem place_ascending {key : String} {value : α} {entries : List (String × α)}
    (ascending : entries.Pairwise fun left right => left.1 < right.1) :
    (place key value entries).Pairwise fun left right => left.1 < right.1 := by
  -- The entry goes before the first greater text, so everything after it is greater.
  induction entries with
  | nil => simp [place]
  | cons head rest ih =>
    obtain ⟨name, old⟩ := head
    rw [List.pairwise_cons] at ascending
    obtain ⟨below, ordered⟩ := ascending
    simp only [place]
    split
    · next less =>
      refine List.pairwise_cons.2 ⟨fun entry member => ?_, List.pairwise_cons.2 ⟨below, ordered⟩⟩
      rcases List.mem_cons.1 member with rfl | inside
      · exact less
      · exact String.lt_trans less (below entry inside)
    · next notLess =>
      split
      · -- An entry of the same key is replaced where it stands.
        next same =>
        subst same
        exact List.pairwise_cons.2 ⟨below, ordered⟩
      · next differ =>
        refine List.pairwise_cons.2 ⟨fun entry member => ?_, ih ordered⟩
        rcases mem_place member with rfl | inside
        · -- The new key is neither less than that of the head nor equal to it.
          refine Decidable.byContradiction fun notGreater => differ ?_
          exact String.le_antisymm (String.not_lt.1 notLess) (String.not_lt.1 notGreater)
        · exact below entry inside

/-- The value for a text. -/
def get? (dictionary : Dictionary α) (key : String) : Option α :=
  lookup key dictionary.entries

/-- Whether a text has a value. -/
def contains (dictionary : Dictionary α) (key : String) : Bool :=
  (dictionary.get? key).isSome

/-- The number of texts that have values. -/
def size (dictionary : Dictionary α) : Nat :=
  dictionary.entries.length

/-- The dictionary with a value for a text, whatever it had for that text before. -/
def insert (dictionary : Dictionary α) (key : String) (value : α) : Dictionary α :=
  ⟨place key value dictionary.entries, place_ascending dictionary.ascending⟩

/-- The dictionary of a list of entries, the later ones replacing the earlier ones. -/
def ofList (entries : List (String × α)) : Dictionary α :=
  entries.foldl (fun dictionary entry => dictionary.insert entry.1 entry.2) empty

end Dictionary

end InsightRelay
