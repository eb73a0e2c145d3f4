/-! The closed lists of names that the service knows by number. -/

namespace InsightRelay.Wire

/-- A list of names, each with its number. -/
structure CodeList where
  names : List (Int × String)

namespace CodeList

/-- The name of a number. -/
def name? (codes : CodeList) (number : Int) : Option String :=
  (codes.names.find? fun entry => entry.1 == number).map Prod.snd

/-- The number of a name. -/
def number? (codes : CodeList) (name : String) : Option Int :=
  (codes.names.find? fun entry => entry.2 == name).map Prod.fst

/-- Package ecosystems. -/
def ecosystem : CodeList where
  names := [(0, "ECOSYSTEM_UNSPECIFIED"), (1, "ECOSYSTEM_MAVEN"), (2, "ECOSYSTEM_NPM"),
    (3, "ECOSYSTEM_PYPI"), (4, "ECOSYSTEM_GO"), (5, "ECOSYSTEM_RUBYGEMS"), (6, "ECOSYSTEM_CARGO"),
    (7, "ECOSYSTEM_PACKAGIST"), (8, "ECOSYSTEM_NUGET"), (9, "ECOSYSTEM_GITHUB_ACTIONS")]

/-- Places where projects are hosted. -/
def projectSourceType : CodeList where
  names := [(0, "PROJECT_SOURCE_TYPE_UNSPECIFIED"), (1, "PROJECT_SOURCE_TYPE_GITHUB"),
    (2, "PROJECT_SOURCE_TYPE_GITLAB")]

/-- Schemes that number vulnerabilities. -/
def vulnerabilityIdentifierType : CodeList where
  names := [(0, "VULNERABILITY_IDENTIFIER_TYPE_UNSPECIFIED"),
    (1, "VULNERABILITY_IDENTIFIER_TYPE_CVE"), (2, "VULNERABILITY_IDENTIFIER_TYPE_OSV")]

/-- What starts a tool. -/
def toolTrigger : CodeList where
  names := [(0, "TOOL_TRIGGER_UNSPECIFIED"), (1, "TOOL_TRIGGER_MANUAL"), (2, "TOOL_TRIGGER_CI")]

/-- How a session ends. -/
def completionStatus : CodeList where
  names := [(0, "COMPLETION_STATUS_UNSPECIFIED"), (1, "COMPLETION_STATUS_SUCCESS"),
    (2, "COMPLETION_STATUS_FAILURE")]

/-- The code list with a name. -/
def ofName? : String → Option CodeList
  | "Ecosystem" => some ecosystem
  | "ProjectSourceType" => some projectSourceType
  | "VulnerabilityIdentifierType" => some vulnerabilityIdentifierType
  | "ToolTrigger" => some toolTrigger
  | "CompletionStatus" => some completionStatus
  | _ => none

end CodeList

end InsightRelay.Wire
