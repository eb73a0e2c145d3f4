import InsightRelay.Message.Basic
import InsightRelay.Wire.Codec

/-! The wire form of every message: its fields, their numbers and their kinds. -/

namespace InsightRelay.Message

open Wire (Codec FieldCodec integer32 integer64 text)

/-- The wire form of `ToolSession`. -/
def ToolSession.codec : Codec ToolSession where
  blank := ⟨""⟩
  fields := [
    .plain 1 text
      ⟨ToolSession.toolSessionId, fun value message => { message with toolSessionId := value }⟩]

/-- The wire form of `GitRef`. -/
def GitRef.codec : Codec GitRef where
  blank := ⟨none, none, none, none⟩
  fields := [
    .optional 1 text ⟨GitRef.reference, fun value message => { message with reference := value }⟩,
    .optional 2 text ⟨GitRef.refName, fun value message => { message with refName := value }⟩,
    .optional 3 text ⟨GitRef.refType, fun value message => { message with refType := value }⟩,
    .optional 4 text ⟨GitRef.sha, fun value message => { message with sha := value }⟩]

/-- The wire form of `CreateToolSessionRequest`. -/
def CreateToolSessionRequest.codec : Codec CreateToolSessionRequest where
  blank := ⟨"", "", "", none, none, none, none⟩
  fields := [
    .plain 1 text
      ⟨CreateToolSessionRequest.toolName, fun value message => { message with toolName := value }⟩,
    .plain 2 text
      ⟨CreateToolSessionRequest.toolVersion,
        fun value message => { message with toolVersion := value }⟩,
    .plain 3 text
      ⟨CreateToolSessionRequest.projectName,
        fun value message => { message with projectName := value }⟩,
    .optional 4 text
      ⟨CreateToolSessionRequest.projectVersion,
        fun value message => { message with projectVersion := value }⟩,
    .optional 5 integer32
      ⟨CreateToolSessionRequest.projectSource,
        fun value message => { message with projectSource := value }⟩,
    .optional 6 integer32
      ⟨CreateToolSessionRequest.trigger, fun value message => { message with trigger := value }⟩,
    .message 7 GitRef.codec
      ⟨CreateToolSessionRequest.gitRef, fun value message => { message with gitRef := value }⟩]

/-- The wire form of `CreateToolSessionResponse`. -/
def CreateToolSessionResponse.codec : Codec CreateToolSessionResponse where
  blank := ⟨none⟩
  fields := [
    .message 1 ToolSession.codec
      ⟨CreateToolSessionResponse.toolSession,
        fun value message => { message with toolSession := value }⟩]

/-- The wire form of `PackageManifest`. -/
def PackageManifest.codec : Codec PackageManifest where
  blank := ⟨0, none, ""⟩
  fields := [
    .plain 1 integer32
      ⟨PackageManifest.ecosystem, fun value message => { message with ecosystem := value }⟩,
    .optional 2 text ⟨PackageManifest.space, fun value message => { message with space := value }⟩,
    .plain 3 text ⟨PackageManifest.name, fun value message => { message with name := value }⟩]

/-- The wire form of `Package`. -/
def Package.codec : Codec Package where
  blank := ⟨0, ""⟩
  fields := [
    .plain 1 integer32
      ⟨Package.ecosystem, fun value message => { message with ecosystem := value }⟩,
    .plain 2 text ⟨Package.name, fun value message => { message with name := value }⟩]

/-- The wire form of `PackageVersion`. -/
def PackageVersion.codec : Codec PackageVersion where
  blank := ⟨none, ""⟩
  fields := [
    .message 1 Package.codec
      ⟨PackageVersion.package, fun value message => { message with package := value }⟩,
    .plain 2 text ⟨PackageVersion.version, fun value message => { message with version := value }⟩]

/-- The wire form of `VulnerabilityIdentifier`. -/
def VulnerabilityIdentifier.codec : Codec VulnerabilityIdentifier where
  blank := ⟨0, ""⟩
  fields := [
    .plain 1 integer32
      ⟨VulnerabilityIdentifier.scheme, fun value message => { message with scheme := value }⟩,
    .plain 2 text
      ⟨VulnerabilityIdentifier.value, fun value message => { message with value := value }⟩]

/-- The wire form of `Vulnerability`. -/
def Vulnerability.codec : Codec Vulnerability where
  blank := ⟨none, ""⟩
  fields := [
    .message 1 VulnerabilityIdentifier.codec
      ⟨Vulnerability.id, fun value message => { message with id := value }⟩,
    .plain 2 text ⟨Vulnerability.summary, fun value message => { message with summary := value }⟩]

/-- The wire form of `Project`. -/
def Project.codec : Codec Project where
  blank := ⟨0, "", ""⟩
  fields := [
    .plain 1 integer32 ⟨Project.source, fun value message => { message with source := value }⟩,
    .plain 2 text ⟨Project.name, fun value message => { message with name := value }⟩,
    .plain 3 text ⟨Project.url, fun value message => { message with url := value }⟩]

/-- The wire form of `IssueStat`. -/
def IssueStat.codec : Codec IssueStat where
  blank := ⟨0⟩
  fields := [
    .plain 1 integer64 ⟨IssueStat.total, fun value message => { message with total := value }⟩]

/-- The wire form of `ProjectInsight`. -/
def ProjectInsight.codec : Codec ProjectInsight where
  blank := ⟨none, none, none, none⟩
  fields := [
    .message 1 Project.codec
      ⟨ProjectInsight.project, fun value message => { message with project := value }⟩,
    .optional 2 integer64
      ⟨ProjectInsight.stars, fun value message => { message with stars := value }⟩,
    .optional 3 integer64
      ⟨ProjectInsight.forks, fun value message => { message with forks := value }⟩,
    .message 4 IssueStat.codec
      ⟨ProjectInsight.issues, fun value message => { message with issues := value }⟩]

/-- The wire form of `LicenseMeta`. -/
def LicenseMeta.codec : Codec LicenseMeta where
  blank := ⟨"", ""⟩
  fields := [
    .plain 1 text ⟨LicenseMeta.licenseId, fun value message => { message with licenseId := value }⟩,
    .plain 2 text ⟨LicenseMeta.name, fun value message => { message with name := value }⟩]

/-- The wire form of `LicenseMetaList`. -/
def LicenseMetaList.codec : Codec LicenseMetaList where
  blank := ⟨[]⟩
  fields := [
    .repeated 1 LicenseMeta.codec
      ⟨LicenseMetaList.licenses, fun value message => { message with licenses := value }⟩]

/-- The wire form of `PackageVersionInsight`. -/
def PackageVersionInsight.codec : Codec PackageVersionInsight where
  blank := ⟨[], [], [], none⟩
  fields := [
    .repeated 1 PackageVersion.codec
      ⟨PackageVersionInsight.dependencies,
        fun value message => { message with dependencies := value }⟩,
    .repeated 2 Vulnerability.codec
      ⟨PackageVersionInsight.vulnerabilities,
        fun value message => { message with vulnerabilities := value }⟩,
    .repeated 3 ProjectInsight.codec
      ⟨PackageVersionInsight.projectInsights,
        fun value message => { message with projectInsights := value }⟩,
    .message 4 LicenseMetaList.codec
      ⟨PackageVersionInsight.licenses, fun value message => { message with licenses := value }⟩]

/-- The wire form of `PublishPackageInsightRequest`. -/
def PublishPackageInsightRequest.codec : Codec PublishPackageInsightRequest where
  blank := ⟨none, none, none, none⟩
  fields := [
    .message 1 ToolSession.codec
      ⟨PublishPackageInsightRequest.toolSession,
        fun value message => { message with toolSession := value }⟩,
    .message 2 PackageManifest.codec
      ⟨PublishPackageInsightRequest.manifest,
        fun value message => { message with manifest := value }⟩,
    .message 3 PackageVersion.codec
      ⟨PublishPackageInsightRequest.packageVersion,
        fun value message => { message with packageVersion := value }⟩,
    .message 4 PackageVersionInsight.codec
      ⟨PublishPackageInsightRequest.packageVersionInsight,
        fun value message => { message with packageVersionInsight := value }⟩]

/-- The wire form of `PublishPackageInsightResponse`. -/
def PublishPackageInsightResponse.codec : Codec PublishPackageInsightResponse where
  blank := ⟨⟩
  fields := []

/-- The wire form of `CompleteToolSessionRequest`. -/
def CompleteToolSessionRequest.codec : Codec CompleteToolSessionRequest where
  blank := ⟨none, 0⟩
  fields := [
    .message 1 ToolSession.codec
      ⟨CompleteToolSessionRequest.toolSession,
        fun value message => { message with toolSession := value }⟩,
    .plain 2 integer32
      ⟨CompleteToolSessionRequest.status, fun value message => { message with status := value }⟩]

/-- The wire form of `CompleteToolSessionResponse`. -/
def CompleteToolSessionResponse.codec : Codec CompleteToolSessionResponse where
  blank := ⟨⟩
  fields := []

end InsightRelay.Message
