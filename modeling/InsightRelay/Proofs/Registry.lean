import InsightRelay.Proofs.Dictionary
import InsightRelay.Session

/-! Registries: what can be found in them, and what becomes of all other sessions when one is registered. -/

namespace InsightRelay

namespace Registry

variable {Client : Type}

/-- A registry has a session for the keys that one is found for. -/
theorem contains_eq (registry : Registry Client) (key : String) :
    registry.contains key = (registry.session? key).isSome := by
  simp only [contains, session?, Dictionary.contains]
  cases registry.sessions.get? globalKey <;> rfl

/-- A key that finds no session has no entry of its own. -/
theorem get?_of_absent {registry : Registry Client} {key : String}
    (absent : registry.contains key = false) : registry.sessions.get? key = none := by
  rw [contains, Bool.or_eq_false_iff] at absent
  exact Option.isSome_eq_false_iff.1 absent.2 |> Option.isNone_iff_eq_none.1

/-- Where all sessions share one client, a session is known by its name. -/
theorem map_id_eq_some_iff {found : Option (Session Unit)} {id : String} :
    found.map Session.id = some id ↔ found = some ⟨id, ()⟩ := by
  cases found with
  | none => simp
  | some session => cases session; simp

/-- A session for a key without one comes in addition to all others. -/
theorem entries_add {registry : Registry Client} {key : String} (session : Session Client)
    (absent : registry.contains key = false) :
    (registry.add key session).1.entries.Perm ((key, session) :: registry.entries) :=
  Dictionary.place_perm (get?_of_absent absent)

end Registry

end InsightRelay
