import InsightRelay.Dictionary
import Mathlib.Data.List.Perm.Basic

/-! Dictionaries: what placing an entry does to all others, and the dictionary of a list of entries. -/

namespace InsightRelay.Dictionary

variable {α : Type}

/-- A dictionary is its entries. -/
theorem eq_of_entries {left right : Dictionary α} (same : left.entries = right.entries) :
    left = right := by
  cases left
  cases right
  cases same
  rfl

/-- Placing an entry changes the value for its own text and no other. -/
theorem lookup_place (key other : String) (value : α) (entries : List (String × α)) :
    lookup other (place key value entries) =
      if other = key then some value else lookup other entries := by
  -- The walk passes smaller texts, each of which differs from the one that is placed.
  induction entries with
  | nil => simp [place, lookup, eq_comm]
  | cons head rest ih =>
    obtain ⟨name, old⟩ := head
    simp only [place]
    split
    · simp [lookup, eq_comm]
    · split
      · next same =>
        subst same
        by_cases own : other = name <;> simp [lookup, own, Ne.symm]
      · -- The entry goes further on, so the head decides for its own text and the rest for all others.
        next differ =>
        simp only [lookup, ih]
        by_cases own : other = key
        · simp [own, differ]
        · simp [own]

/-- A value that is put in is the one for its own text, and no other value changes. -/
theorem get?_insert (dictionary : Dictionary α) (key other : String) (value : α) :
    (dictionary.insert key value).get? other =
      if other = key then some value else dictionary.get? other :=
  lookup_place key other value dictionary.entries

theorem lookup_eq_none {key : String} {entries : List (String × α)}
    (absent : key ∉ entries.map Prod.fst) : lookup key entries = none := by
  induction entries with
  | nil => rfl
  | cons head rest ih =>
    rw [List.map_cons, List.mem_cons, not_or] at absent
    rw [lookup, if_neg (Ne.symm absent.1), ih absent.2]

/-- No text has two entries. -/
theorem nodup_keys (dictionary : Dictionary α) : (dictionary.entries.map Prod.fst).Nodup := by
  -- Of two entries the earlier one has the smaller text.
  refine List.pairwise_map.2 (dictionary.ascending.imp ?_)
  intro left right less same
  exact String.lt_irrefl _ (same ▸ less)

/-- In a list where no text has two entries, each of them is found. -/
theorem mem_iff_lookup {key : String} {value : α} {entries : List (String × α)}
    (distinct : (entries.map Prod.fst).Nodup) :
    (key, value) ∈ entries ↔ lookup key entries = some value := by
  induction entries with
  | nil => simp [lookup]
  | cons head rest ih =>
    obtain ⟨name, held⟩ := head
    rw [List.map_cons, List.nodup_cons] at distinct
    rw [List.mem_cons, ih distinct.2, lookup]
    by_cases own : name = key
    · -- The first entry has the text, so that none of the others has it.
      subst own
      have absent : lookup name rest = none := lookup_eq_none distinct.1
      simp [absent, eq_comm]
    · -- Another text is not that of the head, so both sides are about the rest.
      simp [own, Ne.symm own]

/-- The entries are the values that texts have. -/
theorem mem_entries_iff {dictionary : Dictionary α} {key : String} {value : α} :
    (key, value) ∈ dictionary.entries ↔ dictionary.get? key = some value :=
  mem_iff_lookup dictionary.nodup_keys

/-- An entry for a new text comes in addition to all others. -/
theorem place_perm {key : String} {value : α} {entries : List (String × α)}
    (absent : lookup key entries = none) :
    (place key value entries).Perm ((key, value) :: entries) := by
  -- The induction walks to the place where the key belongs; no entry on the way has it.
  induction entries with
  | nil => exact .refl _
  | cons head rest ih =>
    obtain ⟨name, old⟩ := head
    have differ : name ≠ key := fun same => by simp [lookup, same] at absent
    simp only [lookup, if_neg differ] at absent
    simp only [place, if_neg differ]
    split
    · exact .refl _
    · exact ((ih absent).cons _).trans (.swap ..)

/-- Entries for different texts that a dictionary does not have are all added to it. -/
theorem foldl_insert_perm (dictionary : Dictionary α) {entries : List (String × α)}
    (distinct : ((entries ++ dictionary.entries).map Prod.fst).Nodup) :
    (entries.foldl (fun dictionary entry => dictionary.insert entry.1 entry.2) dictionary).entries.Perm
      (entries ++ dictionary.entries) := by
  -- The first entry is placed among the old ones, where the names of the others are still missing.
  induction entries generalizing dictionary with
  | nil => exact .refl _
  | cons entry entries ih =>
    have absent : lookup entry.1 dictionary.entries = none := by
      rw [List.cons_append, List.map_cons, List.map_append, List.nodup_cons] at distinct
      exact lookup_eq_none fun member => distinct.1 (List.mem_append_right _ member)
    have placed : (entries ++ (dictionary.insert entry.1 entry.2).entries).Perm
        (entry :: (entries ++ dictionary.entries)) :=
      ((place_perm absent).append_left entries).trans List.perm_middle
    exact (ih _ ((placed.map Prod.fst).nodup_iff.2 distinct)).trans placed

/-- A dictionary is made of its entries in any order. -/
theorem ofList_of_perm {dictionary : Dictionary α} {entries : List (String × α)}
    (order : entries.Perm dictionary.entries) : ofList entries = dictionary := by
  -- Both lists of entries are ascending and permutations of each other.
  have distinct : (entries.map Prod.fst).Nodup :=
    (order.map Prod.fst).nodup_iff.2 dictionary.nodup_keys
  have same : (ofList entries).entries.Perm dictionary.entries := by
    have fresh : ((entries ++ (empty : Dictionary α).entries).map Prod.fst).Nodup := by
      simpa [empty] using distinct
    have added := foldl_insert_perm empty fresh
    rw [empty, List.append_nil] at added
    exact added.trans order
  exact eq_of_entries (same.eq_of_pairwise (fun _ _ _ _ less more => absurd less (String.lt_asymm more))
    (ofList entries).ascending dictionary.ascending)

end InsightRelay.Dictionary
