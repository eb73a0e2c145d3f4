import InsightRelay.Message.Codec
import InsightRelay.Message.Document

/-! Every message type by its name, with its wire form and its JSON form. -/

namespace InsightRelay.Message

/-- A message type. -/
structure Schema where
  Content : Type
  codec : Wire.Codec Content
  toJson : Content → Json.Value

/-- What can be told of a message: its JSON form, its wire form, and the length of that. -/
structure Inspection where
  content : Json.Value
  wire : Wire.Bytes
  size : Nat

/-- A message is read from its wire form and told in every other way. -/
def Schema.inspect? (schema : Schema) (content : Wire.Bytes) : Option Inspection :=
  (schema.codec.read content).map fun message =>
    ⟨schema.toJson message, schema.codec.write message, schema.codec.size message⟩

/-- The message type with a name. -/
def Schema.ofName? : String → Option Schema
  | "ToolSession" => some ⟨ToolSession, ToolSession.codec, ToolSession.toJson⟩
  | "GitRef" => some ⟨GitRef, GitRef.codec, GitRef.toJson⟩
  | "CreateToolSessionRequest" =>
    some ⟨CreateToolSessionRequest, CreateToolSessionRequest.codec,
      CreateToolSessionRequest.toJson⟩
  | "CreateToolSessionResponse" =>
    some ⟨CreateToolSessionResponse, CreateToolSessionResponse.codec,
      CreateToolSessionResponse.toJson⟩
  | "PackageManifest" => some ⟨PackageManifest, PackageManifest.codec, PackageManifest.toJson⟩
  | "Package" => some ⟨Package, Package.codec, Package.toJson⟩
  | "PackageVersion" => some ⟨PackageVersion, PackageVersion.codec, PackageVersion.toJson⟩
  | "VulnerabilityIdentifier" =>
    some ⟨VulnerabilityIdentifier, VulnerabilityIdentifier.codec,
      VulnerabilityIdentifier.toJson⟩
  | "Vulnerability" => some ⟨Vulnerability, Vulnerability.codec, Vulnerability.toJson⟩
  | "Project" => some ⟨Project, Project.codec, Project.toJson⟩
  | "IssueStat" => some ⟨IssueStat, IssueStat.codec, IssueStat.toJson⟩
  | "ProjectInsight" => some ⟨ProjectInsight, ProjectInsight.codec, ProjectInsight.toJson⟩
  | "LicenseMeta" => some ⟨LicenseMeta, LicenseMeta.codec, LicenseMeta.toJson⟩
  | "LicenseMetaList" => some ⟨LicenseMetaList, LicenseMetaList.codec, LicenseMetaList.toJson⟩
  | "PackageVersionInsight" =>
    some ⟨PackageVersionInsight, PackageVersionInsight.codec, PackageVersionInsight.toJson⟩
  | "PublishPackageInsightRequest" =>
    some ⟨PublishPackageInsightRequest, PublishPackageInsightRequest.codec,
      PublishPackageInsightRequest.toJson⟩
  | "PublishPackageInsightResponse" =>
    some ⟨PublishPackageInsightResponse, PublishPackageInsightResponse.codec,
      PublishPackageInsightResponse.toJson⟩
  | "CompleteToolSessionRequest" =>
    some ⟨CompleteToolSessionRequest, CompleteToolSessionRequest.codec,
      CompleteToolSessionRequest.toJson⟩
  | "CompleteToolSessionResponse" =>
    some ⟨CompleteToolSessionResponse, CompleteToolSessionResponse.codec,
      CompleteToolSessionResponse.toJson⟩
  | _ => none

end InsightRelay.Message
