import InsightRelay.Relay.Step
import Mathlib.Data.List.Forall2

/-! What the service is told of a record: two records come to the same request exactly when they agree
in everything that may leave, and in nothing else do they have to agree. -/

namespace InsightRelay

open Message

/-- Two notes on vulnerabilities that the service cannot tell apart. -/
structure VulnerabilityNote.Alike (note other : VulnerabilityNote) : Prop where
  id : note.id.getD "" = other.id.getD ""
  summary : note.summary.getD "" = other.summary.getD ""

/-- The places where projects are hosted, as far as the service tells them apart. -/
inductive Host
  | gitHub
  | gitLab
  | elsewhere
deriving DecidableEq, Repr

/-- Where a project is hosted. -/
def ProjectNote.host (note : ProjectNote) : Host :=
  if note.kind = some "GITHUB" then .gitHub
  else if note.kind = some "GITLAB" then .gitLab
  else .elsewhere

/-- Two notes on projects that the service cannot tell apart. -/
structure ProjectNote.Alike (note other : ProjectNote) : Prop where
  host : note.host = other.host
  name : note.name.getD "" = other.name.getD ""
  link : note.link.getD "" = other.link.getD ""
  stars : note.stars.getD 0 = other.stars.getD 0
  forks : note.forks.getD 0 = other.forks.getD 0
  issues : note.issues.getD 0 = other.issues.getD 0

namespace PackageRecord

/-- The vulnerabilities that are noted for a package, none when nothing is said about them. -/
def vulnerabilities (record : PackageRecord) : List VulnerabilityNote :=
  (record.insights.bind Insights.vulnerabilities).getD []

/-- The projects that are noted for a package, none when nothing is said about them. -/
def projects (record : PackageRecord) : List ProjectNote :=
  (record.insights.bind Insights.projects).getD []

/-- The licences that are noted for a package, none when nothing is said about them. -/
def licenses (record : PackageRecord) : List String :=
  (record.insights.bind Insights.licenses).getD []

/-- Two records that the service cannot tell apart. -/
structure Alike (record other : PackageRecord) : Prop where
  ecosystem : record.origin.ecosystem = other.origin.ecosystem
  path : record.origin.path = other.origin.path
  shownPath : record.origin.shownPath = other.origin.shownPath
  name : record.name = other.name
  version : record.version = other.version
  dependencies : record.dependencies.getD [] = other.dependencies.getD []
  vulnerabilities : List.Forall₂ VulnerabilityNote.Alike record.vulnerabilities other.vulnerabilities
  projects : List.Forall₂ ProjectNote.Alike record.projects other.projects
  licenses : record.licenses = other.licenses

end PackageRecord

/-- Different ecosystems have different numbers. -/
theorem Ecosystem.code_injective : Function.Injective Ecosystem.code := by
  intro ecosystem other same
  cases ecosystem <;> cases other <;> first | rfl | exact absurd same (by decide)

/-- Lists come to the same when their entries do so place by place. -/
theorem map_eq_map_iff_forall₂ {α β : Type} {view : α → β} {Alike : α → α → Prop}
    (alike : ∀ entry other, view entry = view other ↔ Alike entry other) (entries others : List α) :
    entries.map view = others.map view ↔ List.Forall₂ Alike entries others := by
  have related : (fun entry other => view entry = view other) = Alike :=
    funext fun entry => funext fun other => propext (alike entry other)
  rw [← List.forall₂_eq_eq_eq, List.forall₂_map_left_iff, List.forall₂_map_right_iff, related]

/-- A vulnerability is told by its number and its summary, as the scheme follows from the number. -/
theorem VulnerabilityNote.insight_eq_iff (note other : VulnerabilityNote) :
    note.insight = other.insight ↔ note.Alike other := by
  -- The scheme follows from the number, so the equation of the two numbers carries it along.
  constructor
  · intro same
    simp only [insight, Vulnerability.mk.injEq, Option.some.injEq,
      VulnerabilityIdentifier.mk.injEq] at same
    exact ⟨same.1.2, same.2⟩
  · rintro ⟨id, summary⟩
    simp only [insight, id, summary]

/-- The place where a project is hosted has a number of its own. -/
theorem ProjectNote.projectSource_eq_iff (note other : ProjectNote) :
    projectSource (note.kind.getD "") = projectSource (other.kind.getD "") ↔
      note.host = other.host := by
  -- A kind that is not given counts as an empty text, which names no place.
  have named (note : ProjectNote) : projectSource (note.kind.getD "") =
      match note.host with | .gitHub => 1 | .gitLab => 2 | .elsewhere => 0 := by
    unfold projectSource host
    cases note.kind with
    | none => rfl
    | some kind => by_cases hub : kind = "GITHUB" <;> by_cases lab : kind = "GITLAB" <;> simp_all
  rw [named, named]
  cases note.host <;> cases other.host <;> decide

/-- A project is told by its host, its name, its link and its counts. -/
theorem ProjectNote.insight_eq_iff (note other : ProjectNote) :
    note.insight = other.insight ↔ note.Alike other := by
  -- Field by field; only the host is told by its text, and different hosts have different texts.
  constructor
  · intro same
    simp only [insight, ProjectInsight.mk.injEq, Option.some.injEq, Project.mk.injEq,
      IssueStat.mk.injEq, projectSource_eq_iff] at same
    obtain ⟨⟨host, name, link⟩, stars, forks, issues⟩ := same
    exact ⟨host, name, link, stars, forks, issues⟩
  · rintro ⟨host, name, link, stars, forks, issues⟩
    simp only [insight, (projectSource_eq_iff note other).2 host, name, link, stars, forks, issues]

/-- Packages of one ecosystem are told by their names and versions. -/
theorem packageVersion_injective (ecosystem : Int32) : Function.Injective fun package : PackageId =>
    packageVersion ecosystem package.name package.version := by
  rintro ⟨name, version⟩ ⟨other, revision⟩ same
  simpa [packageVersion] using same

/-- Licences are told by their texts. -/
theorem licenseInsight_injective : Function.Injective licenseInsight :=
  fun _ _ same => congrArg LicenseMeta.name same

namespace PackageRecord

variable {record other : PackageRecord}

/-- What the service is told of a package, put together from the notes on it. -/
theorem insight_eq (record : PackageRecord) : record.insight =
    { dependencies := (record.dependencies.getD []).map fun package =>
        packageVersion record.origin.ecosystem.code package.name package.version
      vulnerabilities := record.vulnerabilities.map VulnerabilityNote.insight
      projectInsights := record.projects.map ProjectNote.insight
      licenses := some ⟨record.licenses.map licenseInsight⟩ } := by
  -- Without insights all three lists are empty, and so are those of insights that say nothing.
  unfold insight vulnerabilities projects licenses
  cases record.insights <;> rfl

/-- Records of one ecosystem come to the same insight when the notes on them do so one by one. -/
theorem insight_eq_iff (ecosystem : record.origin.ecosystem = other.origin.ecosystem) :
    record.insight = other.insight ↔
      record.dependencies.getD [] = other.dependencies.getD [] ∧
      List.Forall₂ VulnerabilityNote.Alike record.vulnerabilities other.vulnerabilities ∧
      List.Forall₂ ProjectNote.Alike record.projects other.projects ∧
      record.licenses = other.licenses := by
  -- Dependencies and licenses are written by injective functions, the notes up to what they tell.
  rw [insight_eq, insight_eq, ecosystem, PackageVersionInsight.mk.injEq, Option.some.injEq,
    LicenseMetaList.mk.injEq,
    ((packageVersion_injective other.origin.ecosystem.code).list_map).eq_iff,
    map_eq_map_iff_forall₂ VulnerabilityNote.insight_eq_iff,
    map_eq_map_iff_forall₂ ProjectNote.insight_eq_iff,
    licenseInsight_injective.list_map.eq_iff]

/-- Requests are the same when they are for one session and for records that are told alike. -/
theorem request_eq_iff (record other : PackageRecord) (session elsewhere : String) :
    record.request session = other.request elsewhere ↔ session = elsewhere ∧ record.Alike other := by
  -- Every part of a request is read off its fields, apart from the insight, which has its own lemma.
  simp only [request, packageVersion, PublishPackageInsightRequest.mk.injEq, Option.some.injEq,
    ToolSession.mk.injEq, PackageManifest.mk.injEq, PackageVersion.mk.injEq, Package.mk.injEq,
    Ecosystem.code_injective.eq_iff]
  constructor
  · rintro ⟨rfl, ⟨ecosystem, path, shownPath⟩, ⟨⟨-, name⟩, version⟩, insight⟩
    obtain ⟨dependencies, vulnerabilities, projects, licenses⟩ := (insight_eq_iff ecosystem).1 insight
    exact ⟨rfl, ecosystem, path, shownPath, name, version, dependencies, vulnerabilities, projects,
      licenses⟩
  · rintro ⟨rfl, alike⟩
    have insight := (insight_eq_iff alike.ecosystem).2
      ⟨alike.dependencies, alike.vulnerabilities, alike.projects, alike.licenses⟩
    exact ⟨rfl, ⟨alike.ecosystem, alike.path, alike.shownPath⟩,
      ⟨⟨alike.ecosystem, alike.name⟩, alike.version⟩, insight⟩

/-- A record is reported as reduced when its dependencies are not known. -/
theorem degradation?_eq (record : PackageRecord) : record.degradation? =
    if record.dependencies = none then
      some (.insightReduced record.coordinates
        (RelayError.dependenciesUnavailable record.origin.path).message)
    else none := by
  unfold degradation? knownDependencies
  cases record.dependencies <;> rfl

end PackageRecord

/-- What a worker reports when it turns to a record that it has taken. -/
theorem Relay.events_dispatch (relay : Relay) (task : TaskId) (record : PackageRecord) :
    (relay.dispatch task record).1.events = relay.events ++
      match relay.registry.session? record.origin.path, record.degradation? with
      | none, _ => [.packageNotSynced (.sessionNotFound record.origin.path)]
      | some _, some problem => [.publishedWithoutDependencies problem]
      | some _, none => [] := by
  unfold dispatch Registry.lookup
  cases relay.registry.session? record.origin.path with
  | none => rfl
  | some session => cases record.degradation? <;> simp [report, withStage]

/-- The requests for two records are the same exactly when they are for one session and the records
agree in all that the service may know.

Whoever turns to a record reports that it is published without its dependencies exactly when it has a
session and its dependencies are not known. -/
theorem request_reveals_what_is_alike (record other : PackageRecord) (session elsewhere : String) :
    (record.request session = other.request elsewhere ↔
      session = elsewhere ∧ record.Alike other) ∧
    (record.degradation? = if record.dependencies = none then
      some (.insightReduced record.coordinates
        (RelayError.dependenciesUnavailable record.origin.path).message)
      else none) ∧
    ∀ (relay : Relay) (task : TaskId), (relay.dispatch task record).1.events = relay.events ++
      match relay.registry.session? record.origin.path, record.degradation? with
      | none, _ => [.packageNotSynced (.sessionNotFound record.origin.path)]
      | some _, some problem => [.publishedWithoutDependencies problem]
      | some _, none => [] :=
  ⟨record.request_eq_iff other session elsewhere, record.degradation?_eq,
    fun relay task => relay.events_dispatch task record⟩

/-- How severe a vulnerability is does not leave, and nothing said is as good as an empty text. -/
example : let record (note : VulnerabilityNote) : PackageRecord :=
      ⟨⟨.npm, "package.json", none⟩, "left-pad", "1.3.0", none, some ⟨some [note], none, none⟩⟩
    (record ⟨some "CVE-2020-1", none, some "HIGH"⟩).request "session" =
      (record ⟨some "CVE-2020-1", some "", none⟩).request "session" := by
  decide

end InsightRelay
