import InsightRelay.Proofs.Registry
import Mathlib.Data.Finset.Card

/-! Logs of a registry: whatever is registered in whatever order, what can be seen of the registry
afterwards is what was written last under each key. -/

namespace InsightRelay.Registry

variable {Client : Type}

/-- One session is registered. -/
inductive Write (Client : Type)
  /-- For all keys. -/
  | shared (session : Session Client)
  /-- For one key. -/
  | keyed (key : String) (session : Session Client)

/-- The key that a session is registered under. -/
def Write.key : Write Client → String
  | shared _ => globalKey
  | keyed key _ => key

/-- The session that is registered. -/
def Write.session : Write Client → Session Client
  | shared session => session
  | keyed _ session => session

/-- A session is registered, and what it takes the place of is reported. -/
def write (registry : Registry Client) : Write Client → Registry Client × List Event
  | .shared session => registry.addGlobal session
  | .keyed key session => registry.add key session

/-- The registry after a log of writes, with all that was reported on the way. -/
def replay (log : List (Write Client)) : Registry Client × List Event :=
  log.foldl (fun (registry, events) entry =>
    let (registry, more) := registry.write entry
    (registry, events ++ more)) (empty, [])

/-- The session that was written last under a key. -/
def lastUnder (log : List (Write Client)) (key : String) : Option (Session Client) :=
  (log.reverse.find? fun entry => entry.key == key).map Write.session

/-- What is to be reported of a log: each write under a key that was written before, with the session
that was written last there until then. -/
def replacements (log : List (Write Client)) : List Event :=
  log.zipIdx.filterMap fun (entry, place) =>
    (lastUnder (log.take place) entry.key).map fun previous => .sessionReplaced entry.key previous.id

/-- A write under any key, be it the one for all keys, adds its session there. -/
theorem write_eq (registry : Registry Client) (entry : Write Client) :
    registry.write entry = registry.add entry.key entry.session := by
  -- Only the key tells a session for all keys from any other one.
  cases entry with
  | shared session => rfl
  | keyed key session => rfl

/-- A further write is the last one under its own key. -/
theorem lastUnder_snoc (log : List (Write Client)) (entry : Write Client) (key : String) :
    lastUnder (log ++ [entry]) key =
      if entry.key = key then some entry.session else lastUnder log key := by
  by_cases own : entry.key = key <;> simp [lastUnder, own]

/-- A session was written under the keys that occur in the log. -/
theorem lastUnder_isSome (log : List (Write Client)) (key : String) :
    (lastUnder log key).isSome = true ↔ key ∈ log.map Write.key := by
  simp [lastUnder, List.find?_isSome]

/-- What is to be reported of a longer log comes after what was reported before. -/
theorem replacements_snoc (log : List (Write Client)) (entry : Write Client) :
    replacements (log ++ [entry]) = replacements log ++
      ((lastUnder log entry.key).map fun previous =>
        Event.sessionReplaced entry.key previous.id).toList := by
  simp only [replacements, List.zipIdx_append, List.filterMap_append]
  congr 1
  · -- Until then the further write has not been looked at.
    apply List.filterMap_congr
    rintro ⟨earlier, place⟩ member
    have inside : place < log.length := by
      simpa using List.snd_lt_of_mem_zipIdx member
    rw [List.take_append_of_le_length (Nat.le_of_lt inside)]
  · cases found : lastUnder log entry.key <;> simp [found]

/-- One more write changes the registry of the log before. -/
theorem replay_snoc (log : List (Write Client)) (entry : Write Client) :
    replay (log ++ [entry]) = (((replay log).1.write entry).1,
      (replay log).2 ++ ((replay log).1.write entry).2) := by
  simp [replay]

/-- Under each key stands what was written last there. -/
theorem get?_replay (log : List (Write Client)) (key : String) :
    (replay log).1.sessions.get? key = lastUnder log key := by
  -- The induction takes the last write off, which decides for its own key only.
  induction log using List.reverseRecOn generalizing key with
  | nil => rfl
  | append_singleton log entry ih =>
    rw [replay_snoc, write_eq, lastUnder_snoc]
    show ((replay log).1.sessions.insert entry.key entry.session).get? key = _
    rw [Dictionary.get?_insert, ih]
    simp only [eq_comm]

/-- What is reported on the way is what is to be reported of the log. -/
theorem events_replay (log : List (Write Client)) : (replay log).2 = replacements log := by
  induction log using List.reverseRecOn with
  | nil => rfl
  | append_singleton log entry ih =>
    rw [replay_snoc, replacements_snoc, ih, write_eq]
    -- The registry reports the session that it finds in the place, which was the last one there.
    simp only [add, get?_replay]
    cases lastUnder log entry.key with
    | none => rfl
    | some previous => rfl

/-- What can be seen of a registry after a log of writes. -/
structure Reflects (registry : Registry Client) (events : List Event) (log : List (Write Client)) :
    Prop where
  /-- The last session for all keys is found, or else the last one for the key itself, and with it
  the client that it was registered with. -/
  lookup : ∀ key, registry.lookup key =
    (lastUnder log globalKey <|> lastUnder log key).elim (.error (.sessionNotFound key)) .ok
  contains : ∀ key, registry.contains key = true ↔ ∃ session, registry.lookup key = .ok session
  count : registry.count = (log.map Write.key).toFinset.card
  /-- Each key that was written is visited once. -/
  visited : (registry.entries.map Prod.fst).Perm (log.map Write.key).dedup
  /-- What is visited under a key is the last session there, with its client. -/
  last : ∀ entry ∈ registry.entries, lastUnder log entry.1 = some entry.2
  reported : events = replacements log

/-- However sessions are registered, for single keys or for all, the registry is what its log says. -/
theorem registry_reflects_log (log : List (Write Client)) :
    Reflects (replay log).1 (replay log).2 log := by
  -- A look-up tries the session for all keys first, and the log has the last one of either.
  have found (key : String) : (replay log).1.session? key =
      (lastUnder log globalKey <|> lastUnder log key) := by
    rw [session?, get?_replay, get?_replay]
  have visited : ((replay log).1.entries.map Prod.fst).Perm (log.map Write.key).dedup := by
    -- Neither list has a key twice, and both have those with a session.
    refine (List.perm_ext_iff_of_nodup (Dictionary.nodup_keys _) (List.nodup_dedup _)).2 ?_
    intro key
    rw [List.mem_dedup, ← lastUnder_isSome, ← get?_replay, Option.isSome_iff_exists]
    simp only [List.mem_map, Prod.exists, exists_and_right, exists_eq_right,
      Dictionary.mem_entries_iff]
  refine ⟨fun key => ?lookup, fun key => ?contains, ?count, visited, ?last, events_replay log⟩
  case lookup =>
    rw [Registry.lookup, found]
    cases (lastUnder log globalKey <|> lastUnder log key) with
    | none => rfl
    | some session => rfl
  case contains =>
    rw [contains_eq, Registry.lookup]
    cases (replay log).1.session? key with
    | none => simp
    | some session => simp
  case count =>
    have same := visited.length_eq
    rwa [List.length_map] at same
  case last =>
    rintro ⟨key, session⟩ member
    rw [← get?_replay]
    exact Dictionary.mem_entries_iff.1 member

/-- A session for all keys is found from the moment when it is registered, and the one that was
replaced is reported. -/
example :
    let log : List (Write Nat) := [.keyed "a" ⟨"s", 1⟩, .shared ⟨"all", 2⟩, .keyed "a" ⟨"t", 3⟩]
    (replay log).1.lookup "a" = .ok ⟨"all", 2⟩ ∧ (replay log).2 = [.sessionReplaced "a" "s"] := by
  decide

end InsightRelay.Registry
