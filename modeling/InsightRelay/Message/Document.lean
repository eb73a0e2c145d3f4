import InsightRelay.Json.Value
import InsightRelay.Message.Basic

/-! The JSON form of every message, for those who look at what is sent.

A message that is not there is written as null, and a number that names something stays a number. -/

namespace InsightRelay.Message

open Json (Value)

/-- The JSON form of a number that names something. -/
def ofCode (code : Int32) : Value :=
  .integer code.toInt

/-- The JSON form of a number that names something and may be missing. -/
def ofCode? (code : Option Int32) : Value :=
  .ofInt? (code.map Int32.toInt)

/-- The JSON form of a count. -/
def ofCount (count : Int64) : Value :=
  .integer count.toInt

/-- The JSON form of a count that may be missing. -/
def ofCount? (count : Option Int64) : Value :=
  .ofInt? (count.map Int64.toInt)

/-- The JSON form of a message that may be missing. -/
def ofMessage? {M : Type} (write : M → Value) : Option M → Value
  | some message => write message
  | none => .null

/-- The JSON form of a list of messages. -/
def ofMessages {M : Type} (write : M → Value) (messages : List M) : Value :=
  .list (messages.map write)

/-- The JSON form of `ToolSession`. -/
def ToolSession.toJson (message : ToolSession) : Value :=
  .object [("tool_session_id", .text message.toolSessionId)]

/-- The JSON form of `GitRef`. -/
def GitRef.toJson (message : GitRef) : Value :=
  .object [("ref", .ofText? message.reference), ("ref_name", .ofText? message.refName),
    ("ref_type", .ofText? message.refType), ("sha", .ofText? message.sha)]

/-- The JSON form of `CreateToolSessionRequest`. -/
def CreateToolSessionRequest.toJson (message : CreateToolSessionRequest) : Value :=
  .object [("tool_name", .text message.toolName), ("tool_version", .text message.toolVersion),
    ("project_name", .text message.projectName),
    ("project_version", .ofText? message.projectVersion),
    ("project_source", ofCode? message.projectSource),
    ("trigger", ofCode? message.trigger), ("git_ref", ofMessage? GitRef.toJson message.gitRef)]

/-- The JSON form of `CreateToolSessionResponse`. -/
def CreateToolSessionResponse.toJson (message : CreateToolSessionResponse) : Value :=
  .object [("tool_session", ofMessage? ToolSession.toJson message.toolSession)]

/-- The JSON form of `PackageManifest`. -/
def PackageManifest.toJson (message : PackageManifest) : Value :=
  .object [("ecosystem", ofCode message.ecosystem), ("namespace", .ofText? message.space),
    ("name", .text message.name)]

/-- The JSON form of `Package`. -/
def Package.toJson (message : Package) : Value :=
  .object [("ecosystem", ofCode message.ecosystem), ("name", .text message.name)]

/-- The JSON form of `PackageVersion`. -/
def PackageVersion.toJson (message : PackageVersion) : Value :=
  .object [("package", ofMessage? Package.toJson message.package),
    ("version", .text message.version)]

/-- The JSON form of `VulnerabilityIdentifier`. -/
def VulnerabilityIdentifier.toJson (message : VulnerabilityIdentifier) : Value :=
  .object [("type", ofCode message.scheme), ("value", .text message.value)]

/-- The JSON form of `Vulnerability`. -/
def Vulnerability.toJson (message : Vulnerability) : Value :=
  .object [("id", ofMessage? VulnerabilityIdentifier.toJson message.id),
    ("summary", .text message.summary)]

/-- The JSON form of `Project`. -/
def Project.toJson (message : Project) : Value :=
  .object [("type", ofCode message.source), ("name", .text message.name), ("url", .text message.url)]

/-- The JSON form of `IssueStat`. -/
def IssueStat.toJson (message : IssueStat) : Value :=
  .object [("total", ofCount message.total)]

/-- The JSON form of `ProjectInsight`. -/
def ProjectInsight.toJson (message : ProjectInsight) : Value :=
  .object [("project", ofMessage? Project.toJson message.project), ("stars", ofCount? message.stars),
    ("forks", ofCount? message.forks), ("issues", ofMessage? IssueStat.toJson message.issues)]

/-- The JSON form of `LicenseMeta`. -/
def LicenseMeta.toJson (message : LicenseMeta) : Value :=
  .object [("license_id", .text message.licenseId), ("name", .text message.name)]

/-- The JSON form of `LicenseMetaList`. -/
def LicenseMetaList.toJson (message : LicenseMetaList) : Value :=
  ofMessages LicenseMeta.toJson message.licenses

/-- The JSON form of `PackageVersionInsight`. -/
def PackageVersionInsight.toJson (message : PackageVersionInsight) : Value :=
  .object [("dependencies", ofMessages PackageVersion.toJson message.dependencies),
    ("vulnerabilities", ofMessages Vulnerability.toJson message.vulnerabilities),
    ("project_insights", ofMessages ProjectInsight.toJson message.projectInsights),
    ("licenses", ofMessage? LicenseMetaList.toJson message.licenses)]

/-- The JSON form of `PublishPackageInsightRequest`. -/
def PublishPackageInsightRequest.toJson (message : PublishPackageInsightRequest) : Value :=
  .object [("tool_session", ofMessage? ToolSession.toJson message.toolSession),
    ("manifest", ofMessage? PackageManifest.toJson message.manifest),
    ("package_version", ofMessage? PackageVersion.toJson message.packageVersion),
    ("package_version_insight",
      ofMessage? PackageVersionInsight.toJson message.packageVersionInsight)]

/-- The JSON form of `PublishPackageInsightResponse`. -/
def PublishPackageInsightResponse.toJson (_ : PublishPackageInsightResponse) : Value :=
  .object []

/-- The JSON form of `CompleteToolSessionRequest`. -/
def CompleteToolSessionRequest.toJson (message : CompleteToolSessionRequest) : Value :=
  .object [("tool_session", ofMessage? ToolSession.toJson message.toolSession),
    ("status", ofCode message.status)]

/-- The JSON form of `CompleteToolSessionResponse`. -/
def CompleteToolSessionResponse.toJson (_ : CompleteToolSessionResponse) : Value :=
  .object []

end InsightRelay.Message
