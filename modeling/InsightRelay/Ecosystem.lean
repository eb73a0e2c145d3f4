/-! Package ecosystems and the names they go by. -/

namespace InsightRelay

/-- A family of packages that share a registry and a naming scheme. -/
inductive Ecosystem
  | npm
  | pyPi
  | maven
  | go
  | rubyGems
  | cratesIo
  | packagist
  | nuGet
  | gitHubActions
  | unknown
deriving DecidableEq, Repr

namespace Ecosystem

/-- The ecosystems that have a name of their own. -/
def known : List Ecosystem :=
  [npm, pyPi, maven, go, rubyGems, cratesIo, packagist, nuGet, gitHubActions]

/-- The name shown in package coordinates. -/
def name : Ecosystem → String
  | npm => "npm"
  | pyPi => "PyPI"
  | maven => "Maven"
  | go => "Go"
  | rubyGems => "RubyGems"
  | cratesIo => "crates.io"
  | packagist => "Packagist"
  | nuGet => "NuGet"
  | gitHubActions => "GitHubActions"
  | unknown => "unknown"

/-- The name written in manifest documents. -/
def documentName : Ecosystem → String
  | unknown => "Unknown"
  | ecosystem => ecosystem.name

/-- The ecosystem of a name in a manifest document, every strange name standing for the unknown one. -/
def ofDocumentName (documentName : String) : Ecosystem :=
  (known.find? fun ecosystem => ecosystem.name == documentName).getD unknown

/-- Every ecosystem is read back from the name it is written with. -/
theorem ofDocumentName_documentName (ecosystem : Ecosystem) :
    ofDocumentName ecosystem.documentName = ecosystem := by
  cases ecosystem <;> decide

end Ecosystem

end InsightRelay
