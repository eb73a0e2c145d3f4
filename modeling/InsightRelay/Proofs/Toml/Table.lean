import InsightRelay.Proofs.Toml.Form
import InsightRelay.Toml.Document

/-! Keys given to tables: keys that are apart from each other can all be given, in any order, and a key
changes nothing but what its first part stands for. -/

namespace InsightRelay.Toml

namespace Entries

variable {key name : String} {path other : List String} {item : Item} {value : Value} {entries : Entries}

section Lookup

theorem get?_append_self (fresh : entries.get? key = none) :
    get? key (entries ++ [(key, item)]) = some item := by
  simp only [get?, Option.map_eq_none_iff] at fresh
  simp [get?, List.find?_append, fresh]

theorem get?_append_of_ne (differs : name ≠ key) :
    get? name (entries ++ [(key, item)]) = get? name entries := by
  simp [get?, List.find?_append, differs.symm]

theorem get?_replace_self (held : entries.get? key ≠ none) :
    get? key (entries.replace key item) = some item := by
  -- The first entry under the key is replaced, if it is not met later.
  induction entries with
  | nil => exact absurd rfl held
  | cons entry entries ih =>
    by_cases same : entry.1 = key
    · simp [get?, replace, same]
    · have rest : get? key entries ≠ none := by simpa [get?, same] using held
      simpa [get?, replace, same] using ih rest

theorem get?_replace_of_ne (differs : name ≠ key) :
    get? name (entries.replace key item) = get? name entries := by
  -- An entry under another key keeps its place and its item.
  induction entries with
  | nil => rfl
  | cons entry entries ih =>
    obtain ⟨first, held⟩ := entry
    by_cases same : first = key
    · simpa [get?, replace, same, differs.symm] using ih
    · by_cases found : first = name
      · simp [get?, replace, found, differs]
      · simpa [get?, replace, same, found] using ih

theorem names_replace : (entries.replace key item).map Prod.fst = entries.map Prod.fst := by
  rw [replace, List.map_map]
  refine List.map_congr_left fun entry _ => ?_
  by_cases same : entry.1 = key <;> simp [same]

end Lookup

/-- A path can be given a value: it ends at a key that is free, on a way made of keys with points. -/
def Free : (path : List String) → Entries → Prop
  | [], _ => False
  | key :: path, entries => entries.get? key = none ∨
    ∃ inner, entries.get? key = some (.table .dotted inner) ∧ Free path inner

/-- In an empty table every path is free. -/
theorem free_nil (some : path ≠ []) : Free path [] := by
  obtain ⟨key, path, rfl⟩ := List.exists_cons_of_ne_nil some
  exact .inl rfl

/-- Whether a path is free depends on what its first part stands for. -/
theorem Free.of_get? {after : Entries} (same : after.get? key = entries.get? key)
    (free : Free (key :: path) entries) : Free (key :: path) after := by
  rwa [Free, same]

/-- A path through a key that stands for a table is free if the rest of it is free in the table. -/
theorem Free.behind {inner : Entries} (held : entries.get? key = some (.table .dotted inner))
    (free : Free (key :: path) entries) : Free path inner := by
  rcases free with fresh | ⟨found, held', free⟩
  · rw [held] at fresh
    cases fresh
  · rw [held] at held'
    cases held'
    exact free

/-- Where only what a key stands for has changed, what is apart from a path through the key stays free if
it does so behind the key. -/
theorem Free.aside {inner after : Entries} (here : after.get? key = some (.table .dotted inner))
    (others : ∀ first ≠ key, after.get? first = entries.get? first)
    (behind : ∀ other ≠ [], Apart path other → Free (key :: other) entries → Free other inner)
    (apart : Apart (key :: path) other) (free : Free other entries) : Free other after := by
  -- A path that starts with the same part goes on behind it; any other one is looked up as before.
  rcases other with _ | ⟨first, other⟩
  · exact free.elim
  by_cases same : first = key
  · subst same
    have some : other ≠ [] := by
      rintro rfl
      exact apart.2 ⟨path, rfl⟩
    have apart' : Apart path other := by simpa [Apart] using apart
    exact .inr ⟨inner, here, behind other some apart' free⟩
  · exact free.of_get? (others first same)

/-- A value given to the last part of a path, where the table is open for it. -/
def put (open_ : Bool) (name : String) (value : Value) (kind : TableKind) (entries : Entries) :
    Option Entries :=
  if (open_ = true ∨ kind = .dotted) ∧ (entries.get? name).isNone then
    some (entries ++ [(name, .value value)])
  else none

/-- A free path can be given a value, and what is apart from it stays free. -/
theorem within_free {open_ : Bool} {kind : TableKind} (free : Free (path ++ [name]) entries) (value : Value)
    (allowed : path = [] → open_ = true ∨ kind = .dotted) :
    ∃ after, within .dotted (put open_ name value) path kind entries = some after ∧
      ∀ other, Apart (path ++ [name]) other → Free other entries → Free other after := by
  -- The way is followed part by part, and new tables on it are made for keys with points.
  induction path generalizing kind entries with
  | nil =>
    have fresh : entries.get? name = none := by
      rcases free with fresh | ⟨inner, -, never⟩
      · exact fresh
      · exact never.elim
    refine ⟨entries ++ [(name, .value value)], ?_, ?_⟩
    · rw [within, put, if_pos ⟨allowed rfl, by simp [fresh]⟩]
    rintro (_ | ⟨key, other⟩) apart free
    · exact free.elim
    have differs : key ≠ name := by
      rintro rfl
      exact apart.1 ⟨other, rfl⟩
    exact free.of_get? (get?_append_of_ne differs)
  | cons key path ih =>
    rcases free with fresh | ⟨inner, held, free⟩
    · -- The table on the way is new, so nothing in it is in the way.
      obtain ⟨inner, given, later⟩ := ih (free_nil (by simp)) fun _ => .inr rfl
      refine ⟨entries ++ [(key, .table .dotted inner)], ?_, fun other => ?_⟩
      · rw [within, fresh]
        simp only [given, bind, Option.bind]
      · exact .aside (get?_append_self fresh) (fun _ => get?_append_of_ne)
          fun other some apart _ => later other apart (free_nil some)
    · -- It is there already, and what lies apart keeps its place in it.
      obtain ⟨after, given, later⟩ := ih free fun _ => .inr rfl
      refine ⟨entries.replace key (.table .dotted after), ?_, fun other => ?_⟩
      · rw [within, held]
        simp only [given, bind, Option.bind]
        rfl
      · exact .aside (get?_replace_self (by simp [held])) (fun _ => get?_replace_of_ne)
          fun other _ apart free => later other apart (free.behind held)

/-- A free path is given a value, and what is apart from it stays free. -/
theorem assign_free (some : path ≠ []) (free : Free path entries) (value : Value) :
    ∃ after, entries.assign path.dropLast (path.getLast some) value = Option.some after ∧
      ∀ other, Apart path other → Free other entries → Free other after := by
  have whole := List.dropLast_append_getLast some
  have allowed : path.dropLast = [] → path.dropLast.isEmpty = true ∨ TableKind.headed = .dotted :=
    fun empty => .inl (by simp [empty])
  obtain ⟨after, given, later⟩ := within_free (whole.symm ▸ free) value allowed
  exact ⟨after, given, whole ▸ later⟩

/-- Nothing but what the first part of a path stands for is changed on the way. -/
theorem within_cons {created kind : TableKind} {change : TableKind → Entries → Option Entries}
    {after : Entries} (given : within created change (key :: path) kind entries = some after) :
    ∃ item, after = entries ++ [(key, item)] ∨ after = entries.replace key item := by
  -- The first part is new, or stands for a table, or for a list of tables whose last one is entered.
  rw [within] at given
  split at given
  · obtain ⟨inner, -, same⟩ := Option.bind_eq_some_iff.1 given
    exact ⟨_, .inl (Option.some.inj same).symm⟩
  · -- A value that is no table cannot be entered.
    cases given
  · split_ifs at given
    obtain ⟨inner, -, same⟩ := Option.bind_eq_some_iff.1 given
    exact ⟨_, .inr (Option.some.inj same).symm⟩
  · obtain ⟨last, -, given⟩ := Option.bind_eq_some_iff.1 given
    obtain ⟨inner, -, same⟩ := Option.bind_eq_some_iff.1 given
    exact ⟨_, .inr (Option.some.inj same).symm⟩

/-- A key without points is added behind all others. -/
theorem assign_single {after : Entries} (given : entries.assign [] name value = some after) :
    after = entries ++ [(name, .value value)] := by
  rw [assign, within, Option.ite_none_right_eq_some] at given
  exact (Option.some.inj given.2).symm

/-- A key changes nothing but what its first part stands for. -/
theorem assign_shape {after : Entries} (some : path ≠ [])
    (given : entries.assign path.dropLast (path.getLast some) value = Option.some after) :
    ∃ item, after = entries ++ [(path.head some, item)] ∨
      after = entries.replace (path.head some) item := by
  rcases path with _ | ⟨key, _ | ⟨next, path⟩⟩
  · contradiction
  · exact ⟨_, .inl (assign_single given)⟩
  · exact within_cons given

end Entries

end InsightRelay.Toml
