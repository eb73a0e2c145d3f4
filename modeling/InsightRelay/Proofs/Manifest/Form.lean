import InsightRelay.Proofs.Json.Form
import InsightRelay.Manifest.Basic

/-! Forms of manifests: the JSON documents that a manifest may be written as. -/

namespace InsightRelay

open Json

/-- The names that an ecosystem goes by in documents, where every strange name stands for the unknown
one. -/
def Ecosystem.Named : (ecosystem : Ecosystem) → (name : String) → Prop
  | unknown, name => name ∉ known.map Ecosystem.name
  | ecosystem, name => name = ecosystem.name

/-- What an ecosystem may be written as. -/
def EcosystemForm : Form Ecosystem := fun ecosystem text =>
  ∃ name, ecosystem.Named name ∧ VariantForm name text

/-- What a package name with a version may be written as. -/
def PackageIdForm : Form PackageId := RecordForm [
  .needed "name" TextForm PackageId.name,
  .needed "version" TextForm PackageId.version]

/-- What a vulnerability may be written as. -/
def VulnerabilityForm : Form VulnerabilityNote := RecordForm [
  .defaulted "id" none (OptionalForm TextForm) VulnerabilityNote.id,
  .defaulted "summary" none (OptionalForm TextForm) VulnerabilityNote.summary,
  .defaulted "severity" none (OptionalForm TextForm) VulnerabilityNote.severity]

/-- What a project may be written as. -/
def ProjectForm : Form ProjectNote := RecordForm [
  .defaulted "type" none (OptionalForm TextForm) ProjectNote.kind,
  .defaulted "name" none (OptionalForm TextForm) ProjectNote.name,
  .defaulted "link" none (OptionalForm TextForm) ProjectNote.link,
  .defaulted "stars" none (OptionalForm IntegerForm) ProjectNote.stars,
  .defaulted "forks" none (OptionalForm IntegerForm) ProjectNote.forks,
  .defaulted "issues" none (OptionalForm IntegerForm) ProjectNote.issues]

/-- What insights may be written as. -/
def InsightsForm : Form Insights := RecordForm [
  .defaulted "vulnerabilities" none (OptionalForm (ListForm VulnerabilityForm)) Insights.vulnerabilities,
  .defaulted "projects" none (OptionalForm (ListForm ProjectForm)) Insights.projects,
  .defaulted "licenses" none (OptionalForm (ListForm TextForm)) Insights.licenses]

/-- What an entry of a manifest may be written as. -/
def ManifestPackageForm : Form ManifestPackage := RecordForm [
  .needed "name" TextForm ManifestPackage.name,
  .needed "version" TextForm ManifestPackage.version,
  .defaulted "insights" none (OptionalForm InsightsForm) ManifestPackage.insights]

/-- What a dependency graph may be written as: its entries may come in any order. -/
def GraphForm : Form (Dictionary (List PackageId)) := fun graph text =>
  ∃ entries, entries.Perm graph.entries ∧ EntriesForm (ListForm PackageIdForm) entries text

/-- What a manifest may be written as. -/
def ManifestForm : Form Manifest := RecordForm [
  .needed "ecosystem" EcosystemForm Manifest.ecosystem,
  .needed "path" TextForm Manifest.path,
  .defaulted "display_path" none (OptionalForm TextForm) Manifest.displayPath,
  .defaulted "packages" [] (ListForm ManifestPackageForm) Manifest.packages,
  .defaulted "dependency_graph" none (OptionalForm GraphForm) Manifest.dependencyGraph]

/-- A document renders a manifest when it holds one of its forms and nothing else but gaps. -/
def Manifest.Renders (manifest : Manifest) (document : String) : Prop :=
  ∃ padded : Padded, ManifestForm manifest padded.text ∧ document.toList = padded.whole

end InsightRelay
