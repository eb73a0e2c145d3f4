import InsightRelay.Ecosystem

/-! Packages as scanners report them, with what is known about each of them. -/

namespace InsightRelay

/-- A package at a version. -/
structure PackageId where
  name : String
  version : String
deriving DecidableEq, Repr

/-- What a scanner says about one vulnerability. -/
structure VulnerabilityNote where
  id : Option String
  summary : Option String
  severity : Option String
deriving DecidableEq, Repr

/-- What a scanner says about one project behind a package. -/
structure ProjectNote where
  kind : Option String
  name : Option String
  link : Option String
  stars : Option Int64
  forks : Option Int64
  issues : Option Int64
deriving DecidableEq, Repr

/-- What a scanner says about a package. -/
structure Insights where
  vulnerabilities : Option (List VulnerabilityNote)
  projects : Option (List ProjectNote)
  licenses : Option (List String)
deriving DecidableEq, Repr

/-- Insights that say nothing. -/
def Insights.none : Insights := ⟨.none, .none, .none⟩

/-- The manifest that a package was found in. -/
structure ManifestOrigin where
  ecosystem : Ecosystem
  path : String
  displayPath : Option String
deriving DecidableEq, Repr

/-- The path shown to people: the one given for that, or else the manifest's own. -/
def ManifestOrigin.shownPath (origin : ManifestOrigin) : String :=
  origin.displayPath.getD origin.path

/-- A package on its way to the service. -/
structure PackageRecord where
  origin : ManifestOrigin
  name : String
  version : String
  /-- The packages it depends on, or nothing when that is not known. -/
  dependencies : Option (List PackageId)
  insights : Option Insights
deriving DecidableEq, Repr

/-- The ecosystem, the name and the version of a package in one text. -/
def PackageRecord.coordinates (record : PackageRecord) : String :=
  record.origin.ecosystem.name ++ "/" ++ record.name ++ "/" ++ record.version

end InsightRelay
