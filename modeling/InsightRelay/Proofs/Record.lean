import Mathlib.Data.List.Nodup

/-! Records filled field by field, in any order, while some fields may be missing.

The record that is being filled is described by the names given so far: it has their fields of the value and
all other fields of the blank record. -/

namespace InsightRelay

variable {α : Type}

/-- A field of a record: its name, the values that it may be left out of, and how it is copied. -/
structure Part (α : Type) where
  name : String
  idle : α → Prop
  /-- The second record with this field of the first one. -/
  copy : α → α → α

/-- Fields make up a record: they do not disturb each other, and those left out are those of the blank
record. -/
structure Part.MakeUp (blank : α) (parts : List (Part α)) : Prop where
  idle : ∀ part ∈ parts, ∀ ⦃value⦄, part.idle value → part.copy value = part.copy blank
  covers : ∀ part ∈ parts, ∀ value other record,
    part.copy value (part.copy other record) = part.copy value record
  distinct : parts.Pairwise fun left right => left.name ≠ right.name
  apart : parts.Pairwise fun left right => ∀ value other record,
    left.copy value (right.copy other record) = right.copy other (left.copy value record)
  whole : ∀ value, parts.foldl (fun record part => part.copy value record) blank = value

/-- The record with the given fields of a value and all others blank. -/
def Part.filled (blank : α) (parts : List (Part α)) (value : α) (given : List String) : α :=
  parts.foldl (fun record part => part.copy (if part.name ∈ given then value else blank) record) blank

/-- A field is copied before fields that it does not disturb as well as behind them. -/
theorem Part.copy_foldl {part : Part α} {others : List (Part α)} {value : α}
    (apart : ∀ other ∈ others, ∀ source record,
      part.copy value (other.copy source record) = other.copy source (part.copy value record))
    (source : Part α → α) (record : α) :
    part.copy value (others.foldl (fun record other => other.copy (source other) record) record) =
      others.foldl (fun record other => other.copy (source other) record) (part.copy value record) := by
  -- The field is moved past the others one after the other.
  induction others generalizing record with
  | nil => rfl
  | cons other others ih =>
    have ⟨first, rest⟩ := List.forall_mem_cons.1 apart
    rw [List.foldl_cons, List.foldl_cons, ih rest, first]

/-- A name that belongs to none of the fields fills nothing. -/
theorem Part.filled_strange {blank value : α} {parts : List (Part α)} {name : String}
    (strange : ∀ part ∈ parts, part.name ≠ name) (given : List String) :
    filled blank parts value (name :: given) = filled blank parts value given := by
  refine List.foldl_ext _ _ _ fun record part member => ?_
  simp [strange part member]

namespace Part.MakeUp

variable {blank value : α} {parts : List (Part α)} (made : MakeUp blank parts) {given : List String}

include made

theorem filled_nil : filled blank parts value [] = blank := by
  simpa [filled] using made.whole blank

/-- A record is complete when every field that is not given is idle. -/
theorem filled_complete (complete : ∀ part ∈ parts, part.idle value ∨ part.name ∈ given) :
    filled blank parts value given = value := by
  -- An idle field of the value is that of the blank record, so all fields are those of the value.
  refine Eq.trans (List.foldl_ext _ _ _ fun record part member => ?_) (made.whole value)
  rcases complete part member with idle | inside
  · split
    · rfl
    · rw [made.idle part member idle]
  · rw [if_pos inside]

/-- Copying a field of the value adds it to the given ones. -/
theorem copy_filled {part : Part α} (member : part ∈ parts) (given : List String) :
    part.copy value (filled blank parts value given) = filled blank parts value (part.name :: given) := by
  -- The copy is moved through the fields behind the part to its own place, where it covers what was there.
  obtain ⟨before, after, rfl⟩ := List.append_of_mem member
  have distinct := made.distinct
  have apart := made.apart
  simp only [List.pairwise_append, List.pairwise_cons] at distinct apart
  -- The other fields are given after the copy where they were before.
  have same : ∀ others : List (Part α), (∀ other ∈ others, other.name ≠ part.name) → ∀ record,
      others.foldl (fun record other => other.copy
        (if other.name ∈ part.name :: given then value else blank) record) record =
      others.foldl (fun record other => other.copy
        (if other.name ∈ given then value else blank) record) record := by
    intro others differ record
    refine List.foldl_ext _ _ _ fun record other inside => ?_
    simp [differ other inside]
  simp only [filled, List.foldl_append, List.foldl_cons]
  rw [Part.copy_foldl fun other inside => apart.2.1.1 other inside value, made.covers part member,
    same before fun other inside => distinct.2.2 other inside part List.mem_cons_self,
    same after fun other inside => (distinct.2.1.1 other inside).symm, if_pos List.mem_cons_self]

end Part.MakeUp

end InsightRelay
