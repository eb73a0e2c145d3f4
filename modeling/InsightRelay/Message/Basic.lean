/-! The messages that are exchanged with the service. -/

namespace InsightRelay.Message

/-- The session that a tool reports in. -/
structure ToolSession where
  toolSessionId : String
deriving DecidableEq, Repr

/-- The revision that a tool looked at. -/
structure GitRef where
  reference : Option String
  refName : Option String
  refType : Option String
  sha : Option String
deriving DecidableEq, Repr

/-- Asks for a session. -/
structure CreateToolSessionRequest where
  toolName : String
  toolVersion : String
  projectName : String
  projectVersion : Option String
  projectSource : Option Int32
  trigger : Option Int32
  gitRef : Option GitRef
deriving DecidableEq, Repr

/-- Answers with the session that was opened. -/
structure CreateToolSessionResponse where
  toolSession : Option ToolSession
deriving DecidableEq, Repr

/-- The manifest that a package was found in. -/
structure PackageManifest where
  ecosystem : Int32
  space : Option String
  name : String
deriving DecidableEq, Repr

/-- A package of an ecosystem. -/
structure Package where
  ecosystem : Int32
  name : String
deriving DecidableEq, Repr

/-- A package at a version. -/
structure PackageVersion where
  package : Option Package
  version : String
deriving DecidableEq, Repr

/-- The number of a vulnerability in a scheme. -/
structure VulnerabilityIdentifier where
  scheme : Int32
  value : String
deriving DecidableEq, Repr

/-- A vulnerability of a package. -/
structure Vulnerability where
  id : Option VulnerabilityIdentifier
  summary : String
deriving DecidableEq, Repr

/-- A project behind a package. -/
structure Project where
  source : Int32
  name : String
  url : String
deriving DecidableEq, Repr

/-- How many issues a project has. -/
structure IssueStat where
  total : Int64
deriving DecidableEq, Repr

/-- What is known about a project. -/
structure ProjectInsight where
  project : Option Project
  stars : Option Int64
  forks : Option Int64
  issues : Option IssueStat
deriving DecidableEq, Repr

/-- A licence of a package. -/
structure LicenseMeta where
  licenseId : String
  name : String
deriving DecidableEq, Repr

/-- The licences of a package. -/
structure LicenseMetaList where
  licenses : List LicenseMeta
deriving DecidableEq, Repr

/-- What is known about a package at a version. -/
structure PackageVersionInsight where
  dependencies : List PackageVersion
  vulnerabilities : List Vulnerability
  projectInsights : List ProjectInsight
  licenses : Option LicenseMetaList
deriving DecidableEq, Repr

/-- Publishes what is known about a package within a session. -/
structure PublishPackageInsightRequest where
  toolSession : Option ToolSession
  manifest : Option PackageManifest
  packageVersion : Option PackageVersion
  packageVersionInsight : Option PackageVersionInsight
deriving DecidableEq, Repr

/-- Answers that the insight was taken. -/
structure PublishPackageInsightResponse where
deriving DecidableEq, Repr

/-- Ends a session. -/
structure CompleteToolSessionRequest where
  toolSession : Option ToolSession
  status : Int32
deriving DecidableEq, Repr

/-- Answers that the session has ended. -/
structure CompleteToolSessionResponse where
deriving DecidableEq, Repr

end InsightRelay.Message
