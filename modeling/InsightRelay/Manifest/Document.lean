import InsightRelay.Json.Record
import InsightRelay.Json.Value
import InsightRelay.Manifest.Basic

/-! Manifest documents: the JSON form of manifests, read and written. -/

namespace InsightRelay

open Json

/-- The ecosystem of a manifest document. -/
def Ecosystem.reader : Reader Ecosystem := fun source =>
  (variant source).map fun (name, rest) => (Ecosystem.ofDocumentName name, rest)

/-- A string that may be null. -/
def textField : Reader (Option String) :=
  optional (text .text)

/-- An integer that may be null. -/
def integerField : Reader (Option Int64) :=
  optional fun source =>
    (integer .integer64 source).map fun (value, rest) => (Int64.ofInt value, rest)

/-- Package names with versions, as they stand in dependency lists. -/
def PackageId.layout : Layout PackageId where
  name := "PackageRef"
  blank := ⟨"", ""⟩
  fields := [
    .needed "name" (text .text) fun value package => { package with name := value },
    .needed "version" (text .text) fun value package => { package with version := value }]

/-- Vulnerabilities as scanners describe them. -/
def VulnerabilityNote.layout : Layout VulnerabilityNote where
  name := "VulnerabilityInfo"
  blank := ⟨none, none, none⟩
  fields := [
    .defaulted "id" textField fun value note => { note with id := value },
    .defaulted "summary" textField fun value note => { note with summary := value },
    .defaulted "severity" textField fun value note => { note with severity := value }]

/-- Projects as scanners describe them. -/
def ProjectNote.layout : Layout ProjectNote where
  name := "ProjectInfo"
  blank := ⟨none, none, none, none, none, none⟩
  fields := [
    .defaulted "type" textField fun value note => { note with kind := value },
    .defaulted "name" textField fun value note => { note with name := value },
    .defaulted "link" textField fun value note => { note with link := value },
    .defaulted "stars" integerField fun value note => { note with stars := value },
    .defaulted "forks" integerField fun value note => { note with forks := value },
    .defaulted "issues" integerField fun value note => { note with issues := value }]

/-- What is known about a package. -/
def Insights.layout : Layout Insights where
  name := "PackageInsights"
  blank := Insights.none
  fields := [
    .defaulted "vulnerabilities" (optional (list VulnerabilityNote.layout.read)) fun value insights =>
      { insights with vulnerabilities := value },
    .defaulted "projects" (optional (list ProjectNote.layout.read)) fun value insights =>
      { insights with projects := value },
    .defaulted "licenses" (optional (list (text .text))) fun value insights =>
      { insights with licenses := value }]

/-- The entries of a manifest. -/
def ManifestPackage.layout : Layout ManifestPackage where
  name := "ManifestPackage"
  blank := ⟨"", "", none⟩
  fields := [
    .needed "name" (text .text) fun value package => { package with name := value },
    .needed "version" (text .text) fun value package => { package with version := value },
    .defaulted "insights" (optional Insights.layout.read) fun value package =>
      { package with insights := value }]

/-- Dependency lists by graph key, where the last list for a key counts. -/
def graphReader : Reader (Dictionary (List PackageId)) := fun source =>
  (dictionary (list PackageId.layout.read) source).map fun (entries, rest) =>
    (Dictionary.ofList entries, rest)

/-- Manifests. -/
def Manifest.layout : Layout Manifest where
  name := "Manifest"
  blank := ⟨.unknown, "", none, [], none⟩
  fields := [
    .needed "ecosystem" Ecosystem.reader fun value manifest => { manifest with ecosystem := value },
    .needed "path" (text .text) fun value manifest => { manifest with path := value },
    .defaulted "display_path" textField fun value manifest =>
      { manifest with displayPath := value },
    -- A list of packages may be left out but is never null, unlike the graph.
    .defaulted "packages" (list ManifestPackage.layout.read) fun value manifest =>
      { manifest with packages := value },
    .defaulted "dependency_graph" (optional graphReader) fun value manifest =>
      { manifest with dependencyGraph := value }]

/-- The manifest that a JSON document holds. -/
def Manifest.ofJson (document : String) : Except Json.Problem Manifest :=
  whole Manifest.layout.read document.toList

/-- The JSON form of a package name with a version. -/
def PackageId.toJson (package : PackageId) : Value :=
  .object [("name", .text package.name), ("version", .text package.version)]

/-- The JSON form of a vulnerability. -/
def VulnerabilityNote.toJson (note : VulnerabilityNote) : Value :=
  .object [("id", .ofText? note.id), ("summary", .ofText? note.summary),
    ("severity", .ofText? note.severity)]

/-- The JSON form of a project. -/
def ProjectNote.toJson (note : ProjectNote) : Value :=
  .object [("type", .ofText? note.kind), ("name", .ofText? note.name), ("link", .ofText? note.link),
    ("stars", .ofInt? (note.stars.map Int64.toInt)),
    ("forks", .ofInt? (note.forks.map Int64.toInt)),
    ("issues", .ofInt? (note.issues.map Int64.toInt))]

/-- The JSON form of insights. -/
def Insights.toJson (insights : Insights) : Value :=
  .object [("vulnerabilities", .ofList? VulnerabilityNote.toJson insights.vulnerabilities),
    ("projects", .ofList? ProjectNote.toJson insights.projects),
    ("licenses", .ofList? .text insights.licenses)]

/-- The JSON form of insights that may be missing. -/
def insightsJson : Option Insights → Value
  | some insights => insights.toJson
  | none => .null

/-- The JSON form of an entry of a manifest. -/
def ManifestPackage.toJson (package : ManifestPackage) : Value :=
  .object [("name", .text package.name), ("version", .text package.version),
    ("insights", insightsJson package.insights)]

/-- The JSON form of a dependency graph that may be missing. -/
def graphJson : Option (Dictionary (List PackageId)) → Value
  | some graph => .object (graph.entries.map fun (key, packages) =>
      (key, .list (packages.map PackageId.toJson)))
  | none => .null

/-- The JSON form of a manifest. -/
def Manifest.toJson (manifest : Manifest) : Value :=
  .object [("ecosystem", .text manifest.ecosystem.documentName), ("path", .text manifest.path),
    ("display_path", .ofText? manifest.displayPath),
    ("packages", .list (manifest.packages.map ManifestPackage.toJson)),
    ("dependency_graph", graphJson manifest.dependencyGraph)]

end InsightRelay
