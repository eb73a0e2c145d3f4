import InsightRelay.Manifest.Basic
import InsightRelay.Message.Basic

/-! The request that publishes what is known about a package. -/

namespace InsightRelay

open Message

/-- The number that the service knows an ecosystem by. -/
def Ecosystem.code : Ecosystem → Int32
  | unknown => 0
  | maven => 1
  | npm => 2
  | pyPi => 3
  | go => 4
  | rubyGems => 5
  | cratesIo => 6
  | packagist => 7
  | nuGet => 8
  | gitHubActions => 9

/-- The scheme that numbered a vulnerability, told by how its number starts. -/
def vulnerabilityScheme (id : String) : Int32 :=
  if "CVE-".toList.isPrefixOf id.toList then 1
  else if "OSV-".toList.isPrefixOf id.toList then 2
  else 0

/-- The place where a project is hosted, told by its kind. -/
def projectSource (kind : String) : Int32 :=
  if kind = "GITHUB" then 1 else if kind = "GITLAB" then 2 else 0

/-- A package at a version, as the service sees it. -/
def packageVersion (ecosystem : Int32) (name version : String) : PackageVersion :=
  ⟨some ⟨ecosystem, name⟩, version⟩

/-- A vulnerability as the service sees it; its severity is not passed on. -/
def VulnerabilityNote.insight (note : VulnerabilityNote) : Vulnerability :=
  let id := note.id.getD ""
  ⟨some ⟨vulnerabilityScheme id, id⟩, note.summary.getD ""⟩

/-- A project as the service sees it, with zero for every count that is not known. -/
def ProjectNote.insight (note : ProjectNote) : ProjectInsight where
  project := some ⟨projectSource (note.kind.getD ""), note.name.getD "", note.link.getD ""⟩
  stars := some (note.stars.getD 0)
  forks := some (note.forks.getD 0)
  issues := some ⟨note.issues.getD 0⟩

/-- A licence as the service sees it, named by its own text. -/
def licenseInsight (license : String) : LicenseMeta :=
  ⟨license, license⟩

/-- What is known about a package, as the service sees it. -/
def PackageRecord.insight (record : PackageRecord) : PackageVersionInsight :=
  let insights := record.insights.getD Insights.none
  let ecosystem := record.origin.ecosystem.code
  -- Unknown dependencies are sent as none, which `degradation?` is there to report.
  { dependencies := (record.dependencies.getD []).map fun package =>
      packageVersion ecosystem package.name package.version
    vulnerabilities := (insights.vulnerabilities.getD []).map VulnerabilityNote.insight
    projectInsights := (insights.projects.getD []).map ProjectNote.insight
    licenses := some ⟨(insights.licenses.getD []).map licenseInsight⟩ }

/-- The request that publishes a package within a session. -/
def PackageRecord.request (record : PackageRecord) (session : String) :
    PublishPackageInsightRequest :=
  let ecosystem := record.origin.ecosystem.code
  { toolSession := some ⟨session⟩
    manifest := some ⟨ecosystem, some record.origin.path, record.origin.shownPath⟩
    packageVersion := some (InsightRelay.packageVersion ecosystem record.name record.version)
    packageVersionInsight := some record.insight }

/-- The error that a request leaves out the dependencies of a package, if it does. -/
def PackageRecord.degradation? (record : PackageRecord) : Option RelayError :=
  match record.knownDependencies with
  | .ok _ => none
  | .error problem => some (.insightReduced record.coordinates problem.message)

end InsightRelay
