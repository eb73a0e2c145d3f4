import InsightRelay.Proofs.Dictionary
import InsightRelay.Manifest.Basic

/-! Dependency graphs: each package takes its dependencies from one key, and two packages share a key
where the name of one runs over the separator into the version of the other, and nowhere else. -/

namespace InsightRelay

/-- The name of one package runs over the separator, so that a cut at another place gives the other
package. -/
def PackageId.RunsInto (left right : PackageId) : Prop :=
  ∃ middle, right.name = left.name ++ "@" ++ middle ∧ left.version = middle ++ "@" ++ right.version

/-- Neither package runs into the other. -/
def PackageId.Apart (left right : PackageId) : Prop :=
  ¬ left.RunsInto right ∧ ¬ right.RunsInto left

/-- What tells the package of an entry. -/
def ManifestPackage.id (package : ManifestPackage) : PackageId :=
  ⟨package.name, package.version⟩

namespace Manifest

/-- The key that the dependencies of a package are looked up under. -/
def keyOf (package : PackageId) : String :=
  graphKey package.name package.version

/-- A text that is cut at two separators is cut at the same one twice, or the first part of one cut runs
over the separator of the other. -/
private theorem cut_of_longer {name version other release gap : List Char}
    (longer : other = name ++ gap) (rest : '@' :: version = gap ++ '@' :: release) :
    (name = other ∧ version = release) ∨
      ∃ middle, other = name ++ '@' :: middle ∧ version = middle ++ '@' :: release := by
  cases gap with
  | nil =>
    left
    exact ⟨by simp [longer], by simpa using rest⟩
  | cons char gap =>
    -- What the other part has more begins with the separator.
    right
    obtain ⟨rfl, behind⟩ : '@' = char ∧ version = gap ++ '@' :: release := by simpa using rest
    exact ⟨gap, longer, behind⟩

/-- Two packages have one key if they are the same, or if one of them runs into the other. -/
theorem keyOf_eq_iff (left right : PackageId) :
    keyOf left = keyOf right ↔ left = right ∨ left.RunsInto right ∨ right.RunsInto left := by
  obtain ⟨name, version⟩ := left
  obtain ⟨other, release⟩ := right
  have mark : "@".toList = ['@'] := rfl
  simp only [keyOf, graphKey, PackageId.RunsInto, PackageId.mk.injEq, ← String.toList_inj,
    String.toList_append, mark, List.append_assoc, List.singleton_append]
  constructor
  · -- The two cuts of the one text are at the same place, or one of them comes first.
    intro same
    rcases List.append_eq_append_iff.1 same with ⟨gap, longer, rest⟩ | ⟨gap, longer, rest⟩
    · rcases cut_of_longer longer rest with equal | ⟨middle, longer, rest⟩
      · exact .inl equal
      · exact .inr (.inl ⟨String.ofList middle, by simpa using longer, by simpa using rest⟩)
    · rcases cut_of_longer longer rest with ⟨equal, like⟩ | ⟨middle, longer, rest⟩
      · exact .inl ⟨equal.symm, like.symm⟩
      · exact .inr (.inr ⟨String.ofList middle, by simpa using longer, by simpa using rest⟩)
  · -- The other way round, the longer name has what the other one's version has in front.
    rintro (⟨same, equal⟩ | ⟨middle, longer, rest⟩ | ⟨middle, longer, rest⟩)
    · rw [same, equal]
    · simp [longer, rest]
    · simp [longer, rest]

/-- Packages that differ and are apart have different keys. -/
theorem keyOf_ne_of_apart {left right : PackageId} (differ : left ≠ right)
    (apart : left.Apart right) : keyOf left ≠ keyOf right := by
  intro same
  rcases (keyOf_eq_iff left right).1 same with equal | before | behind
  · exact differ equal
  · exact apart.1 before
  · exact apart.2 behind

/-- The manifest with another dependency graph. -/
def withGraph (manifest : Manifest) (graph : Dictionary (List PackageId)) : Manifest :=
  { manifest with dependencyGraph := some graph }

variable {manifest : Manifest} {graph : Dictionary (List PackageId)}

/-- An entry stands at the place of its record. -/
theorem getElem?_records (manifest : Manifest) (position : Nat) :
    manifest.records[position]? =
      manifest.packages[position]?.map fun package => manifest.record package position := by
  simp [records, List.getElem?_zipIdx, Function.comp_def]

/-- A record has the dependencies that the graph names under the key of its package. -/
theorem dependencies_of_record (has : manifest.dependencyGraph = some graph) {position : Nat}
    {package : ManifestPackage} {record : PackageRecord}
    (made : manifest.record package position = .ok record) :
    record.dependencies = some ((graph.get? (keyOf package.id)).getD []) := by
  -- An entry without a name gives no record, and every other one looks up its key.
  unfold Manifest.record at made
  split at made
  · simp at made
  · obtain rfl := Except.ok.inj made
    simp [dependenciesOf, has, keyOf, ManifestPackage.id]

/-- The graph concerns a record only under the key of its package. -/
theorem record_withGraph (has : manifest.dependencyGraph = some graph)
    {changed : Dictionary (List PackageId)} {package : ManifestPackage}
    (same : changed.get? (keyOf package.id) = graph.get? (keyOf package.id)) (position : Nat) :
    (manifest.withGraph changed).record package position = manifest.record package position := by
  -- A record takes nothing from the graph but the entry under that key.
  have unmoved : (manifest.withGraph changed).dependenciesOf package =
      manifest.dependenciesOf package := by
    simp only [dependenciesOf, withGraph, has, Option.map_some]
    exact congrArg (fun found => some (found.getD [])) same
  simp only [Manifest.record, unmoved]
  rfl

/-- What two entries of a manifest take from its dependency graph. -/
structure TakesOwn (manifest : Manifest) (graph : Dictionary (List PackageId))
    (left right : ManifestPackage) : Prop where
  /-- The two keys differ, unless one package runs into the other. -/
  keys : keyOf left.id ≠ keyOf right.id ↔ left.id.Apart right.id
  /-- Each record has what the graph names under the key of its package, or nothing. -/
  taken : ∀ (position : Nat) package record, manifest.packages[position]? = some package →
    manifest.records[position]? = some (.ok record) →
      record.dependencies = some ((graph.get? (keyOf package.id)).getD [])
  /-- Whatever becomes of the key of one, the record of the other stays, when they are apart. -/
  unmoved : left.id.Apart right.id → ∀ changed : Dictionary (List PackageId),
    (∀ key, key ≠ keyOf left.id → changed.get? key = graph.get? key) → ∀ position : Nat,
      manifest.packages[position]? = some right →
        (manifest.withGraph changed).records[position]? = manifest.records[position]?

/-- Two entries of a manifest that differ take their dependencies from different keys of its graph, so
that changes for one of them do not touch the other, unless one package runs into the other. -/
theorem dependencies_taken_apart (has : manifest.dependencyGraph = some graph)
    {left right : ManifestPackage} (differ : left.id ≠ right.id) :
    TakesOwn manifest graph left right := by
  refine ⟨?keys, ?taken, ?unmoved⟩
  case keys =>
    refine ⟨fun unlike => ⟨fun before => ?_, fun behind => ?_⟩, keyOf_ne_of_apart differ⟩
    · -- Keys that differ rule out that one package runs into the other.
      exact unlike ((keyOf_eq_iff _ _).2 (.inr (.inl before)))
    · exact unlike ((keyOf_eq_iff _ _).2 (.inr (.inr behind)))
  case taken =>
    intro position package record stands made
    rw [getElem?_records, stands, Option.map_some, Option.some.injEq] at made
    exact dependencies_of_record has made
  case unmoved =>
    intro apart changed others position stands
    have elsewhere : keyOf right.id ≠ keyOf left.id := (keyOf_ne_of_apart differ apart).symm
    -- The other key has what it had before, so the entry gives the same record.
    have same := record_withGraph has (others _ elsewhere) position
    have packages : (manifest.withGraph changed).packages = manifest.packages := rfl
    rw [getElem?_records, getElem?_records, packages, stands, Option.map_some, Option.map_some, same]

/-- Packages to look up: the second is an alias for the first, and the third is named as if the version
of the second began earlier. -/
def aliases : List ManifestPackage :=
  [⟨"@core/right", "1.0.0", none⟩, ⟨"left", "npm:@core/right@1.0.0", none⟩,
    ⟨"left@npm:@core/right", "1.0.0", none⟩]

/-- A graph in which the alias depends on the package that it stands for. -/
def aliasGraph : Dictionary (List PackageId) :=
  Dictionary.empty.insert "left@npm:@core/right@1.0.0" [⟨"@core/right", "1.0.0"⟩]

/-- A manifest with an alias. -/
def aliasManifest : Manifest where
  ecosystem := .npm
  path := "web/package.json"
  displayPath := none
  packages := aliases
  dependencyGraph := some aliasGraph

/-- An alias and the package that it stands for are apart, however alike they are, and nothing changes
for the package when the graph forgets the alias. -/
theorem dependencies_taken_apart_by_alias :
    aliasManifest.dependencyGraph = some aliasGraph ∧
      aliases[1].id.Apart aliases[0].id ∧ TakesOwn aliasManifest aliasGraph aliases[1] aliases[0] ∧
      (aliasManifest.withGraph Dictionary.empty).records[0]? = aliasManifest.records[0]? := by
  have takes : TakesOwn aliasManifest aliasGraph aliases[1] aliases[0] :=
    dependencies_taken_apart rfl (by decide)
  have apart := takes.keys.1 (by decide)
  refine ⟨rfl, apart, takes, takes.unmoved apart Dictionary.empty ?_ 0 rfl⟩
  intro key differ
  -- The graph has one key, which is that of the alias.
  have alone : keyOf aliases[1].id = "left@npm:@core/right@1.0.0" := by decide
  rw [alone] at differ
  simp [aliasGraph, Dictionary.get?_insert, differ]

/-- Two packages that differ have one key: both have the dependencies that the graph names for one of
them, and both lose them when it forgets that one. -/
theorem dependencies_shared_by_alias :
    aliasManifest.dependencyGraph = some aliasGraph ∧ aliasManifest.packages = aliases ∧
      aliases[1].id ≠ aliases[2].id ∧ keyOf aliases[1].id = keyOf aliases[2].id ∧
      (∃ record, aliasManifest.records[1]? = some (.ok record) ∧
        record.dependencies = some [⟨"@core/right", "1.0.0"⟩]) ∧
      (∃ record, aliasManifest.records[2]? = some (.ok record) ∧
        record.dependencies = some [⟨"@core/right", "1.0.0"⟩]) ∧
      ∃ record, (aliasManifest.withGraph Dictionary.empty).records[2]? = some (.ok record) ∧
        record.dependencies = some [] :=
  ⟨rfl, rfl, by decide, by decide, ⟨_, rfl, rfl⟩, ⟨_, rfl, rfl⟩, ⟨_, rfl, rfl⟩⟩

end Manifest

end InsightRelay
