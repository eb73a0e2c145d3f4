import InsightRelay.Proofs.Message.RoundTrip
import InsightRelay.Proofs.Wire.Merge

/-! Messages of every type are merged as they are read: scalars that are given count, messages inside
messages are merged in turn, and lists are appended.

Fields of different numbers can be exchanged, and fields that are not known can be put anywhere. -/

namespace InsightRelay.Message

open Wire (Codec Separate FieldForm FieldsForm latest integer32_faithful integer64_faithful
  text_faithful)
open Wire.FieldCodec (acts_plain acts_optional acts_message acts_repeated merges_plain
  merges_optional merges_message carries_repeated_onto)

section Merges

/-- The merge of two messages of the type `ToolSession`. -/
def ToolSession.merge (earlier later : ToolSession) : ToolSession where
  toolSessionId := latest "" earlier.toolSessionId later.toolSessionId

/-- The merge of two messages of the type `GitRef`. -/
def GitRef.merge (earlier later : GitRef) : GitRef where
  reference := later.reference.or earlier.reference
  refName := later.refName.or earlier.refName
  refType := later.refType.or earlier.refType
  sha := later.sha.or earlier.sha

/-- The merge of two messages of the type `CreateToolSessionRequest`. -/
def CreateToolSessionRequest.merge (earlier later : CreateToolSessionRequest) :
    CreateToolSessionRequest where
  toolName := latest "" earlier.toolName later.toolName
  toolVersion := latest "" earlier.toolVersion later.toolVersion
  projectName := latest "" earlier.projectName later.projectName
  projectVersion := later.projectVersion.or earlier.projectVersion
  projectSource := later.projectSource.or earlier.projectSource
  trigger := later.trigger.or earlier.trigger
  gitRef := Option.merge GitRef.merge earlier.gitRef later.gitRef

/-- The merge of two messages of the type `CreateToolSessionResponse`. -/
def CreateToolSessionResponse.merge (earlier later : CreateToolSessionResponse) :
    CreateToolSessionResponse where
  toolSession := Option.merge ToolSession.merge earlier.toolSession later.toolSession

/-- The merge of two messages of the type `PackageManifest`. -/
def PackageManifest.merge (earlier later : PackageManifest) : PackageManifest where
  ecosystem := latest 0 earlier.ecosystem later.ecosystem
  space := later.space.or earlier.space
  name := latest "" earlier.name later.name

/-- The merge of two messages of the type `Package`. -/
def Package.merge (earlier later : Package) : Package where
  ecosystem := latest 0 earlier.ecosystem later.ecosystem
  name := latest "" earlier.name later.name

/-- The merge of two messages of the type `PackageVersion`. -/
def PackageVersion.merge (earlier later : PackageVersion) : PackageVersion where
  package := Option.merge Package.merge earlier.package later.package
  version := latest "" earlier.version later.version

/-- The merge of two messages of the type `VulnerabilityIdentifier`. -/
def VulnerabilityIdentifier.merge (earlier later : VulnerabilityIdentifier) :
    VulnerabilityIdentifier where
  scheme := latest 0 earlier.scheme later.scheme
  value := latest "" earlier.value later.value

/-- The merge of two messages of the type `Vulnerability`. -/
def Vulnerability.merge (earlier later : Vulnerability) : Vulnerability where
  id := Option.merge VulnerabilityIdentifier.merge earlier.id later.id
  summary := latest "" earlier.summary later.summary

/-- The merge of two messages of the type `Project`. -/
def Project.merge (earlier later : Project) : Project where
  source := latest 0 earlier.source later.source
  name := latest "" earlier.name later.name
  url := latest "" earlier.url later.url

/-- The merge of two messages of the type `IssueStat`. -/
def IssueStat.merge (earlier later : IssueStat) : IssueStat where
  total := latest 0 earlier.total later.total

/-- The merge of two messages of the type `ProjectInsight`. -/
def ProjectInsight.merge (earlier later : ProjectInsight) : ProjectInsight where
  project := Option.merge Project.merge earlier.project later.project
  stars := later.stars.or earlier.stars
  forks := later.forks.or earlier.forks
  issues := Option.merge IssueStat.merge earlier.issues later.issues

/-- The merge of two messages of the type `LicenseMeta`. -/
def LicenseMeta.merge (earlier later : LicenseMeta) : LicenseMeta where
  licenseId := latest "" earlier.licenseId later.licenseId
  name := latest "" earlier.name later.name

/-- The merge of two messages of the type `LicenseMetaList`. -/
def LicenseMetaList.merge (earlier later : LicenseMetaList) : LicenseMetaList where
  licenses := earlier.licenses ++ later.licenses

/-- The merge of two messages of the type `PackageVersionInsight`. -/
def PackageVersionInsight.merge (earlier later : PackageVersionInsight) :
    PackageVersionInsight where
  dependencies := earlier.dependencies ++ later.dependencies
  vulnerabilities := earlier.vulnerabilities ++ later.vulnerabilities
  projectInsights := earlier.projectInsights ++ later.projectInsights
  licenses := Option.merge LicenseMetaList.merge earlier.licenses later.licenses

/-- The merge of two messages of the type `PublishPackageInsightRequest`. -/
def PublishPackageInsightRequest.merge (earlier later : PublishPackageInsightRequest) :
    PublishPackageInsightRequest where
  toolSession := Option.merge ToolSession.merge earlier.toolSession later.toolSession
  manifest := Option.merge PackageManifest.merge earlier.manifest later.manifest
  packageVersion := Option.merge PackageVersion.merge earlier.packageVersion later.packageVersion
  packageVersionInsight :=
    Option.merge PackageVersionInsight.merge earlier.packageVersionInsight
      later.packageVersionInsight

/-- The merge of two messages of the type `PublishPackageInsightResponse`. -/
def PublishPackageInsightResponse.merge (_ _ : PublishPackageInsightResponse) :
    PublishPackageInsightResponse where

/-- The merge of two messages of the type `CompleteToolSessionRequest`. -/
def CompleteToolSessionRequest.merge (earlier later : CompleteToolSessionRequest) :
    CompleteToolSessionRequest where
  toolSession := Option.merge ToolSession.merge earlier.toolSession later.toolSession
  status := latest 0 earlier.status later.status

/-- The merge of two messages of the type `CompleteToolSessionResponse`. -/
def CompleteToolSessionResponse.merge (_ _ : CompleteToolSessionResponse) :
    CompleteToolSessionResponse where

/-- A message type with the merge of its messages. -/
structure Merger extends Schema where
  merge : Content → Content → Content

/-- The message type with a name, and the merge of its messages. -/
def Merger.ofName? : String → Option Merger
  | "ToolSession" => some ⟨⟨ToolSession, ToolSession.codec, ToolSession.toJson⟩, ToolSession.merge⟩
  | "GitRef" => some ⟨⟨GitRef, GitRef.codec, GitRef.toJson⟩, GitRef.merge⟩
  | "CreateToolSessionRequest" =>
    some ⟨⟨CreateToolSessionRequest, CreateToolSessionRequest.codec,
      CreateToolSessionRequest.toJson⟩, CreateToolSessionRequest.merge⟩
  | "CreateToolSessionResponse" =>
    some ⟨⟨CreateToolSessionResponse, CreateToolSessionResponse.codec,
      CreateToolSessionResponse.toJson⟩, CreateToolSessionResponse.merge⟩
  | "PackageManifest" =>
    some ⟨⟨PackageManifest, PackageManifest.codec, PackageManifest.toJson⟩, PackageManifest.merge⟩
  | "Package" => some ⟨⟨Package, Package.codec, Package.toJson⟩, Package.merge⟩
  | "PackageVersion" =>
    some ⟨⟨PackageVersion, PackageVersion.codec, PackageVersion.toJson⟩, PackageVersion.merge⟩
  | "VulnerabilityIdentifier" =>
    some ⟨⟨VulnerabilityIdentifier, VulnerabilityIdentifier.codec,
      VulnerabilityIdentifier.toJson⟩, VulnerabilityIdentifier.merge⟩
  | "Vulnerability" =>
    some ⟨⟨Vulnerability, Vulnerability.codec, Vulnerability.toJson⟩, Vulnerability.merge⟩
  | "Project" => some ⟨⟨Project, Project.codec, Project.toJson⟩, Project.merge⟩
  | "IssueStat" => some ⟨⟨IssueStat, IssueStat.codec, IssueStat.toJson⟩, IssueStat.merge⟩
  | "ProjectInsight" =>
    some ⟨⟨ProjectInsight, ProjectInsight.codec, ProjectInsight.toJson⟩, ProjectInsight.merge⟩
  | "LicenseMeta" => some ⟨⟨LicenseMeta, LicenseMeta.codec, LicenseMeta.toJson⟩, LicenseMeta.merge⟩
  | "LicenseMetaList" =>
    some ⟨⟨LicenseMetaList, LicenseMetaList.codec, LicenseMetaList.toJson⟩, LicenseMetaList.merge⟩
  | "PackageVersionInsight" =>
    some ⟨⟨PackageVersionInsight, PackageVersionInsight.codec,
      PackageVersionInsight.toJson⟩, PackageVersionInsight.merge⟩
  | "PublishPackageInsightRequest" =>
    some ⟨⟨PublishPackageInsightRequest, PublishPackageInsightRequest.codec,
      PublishPackageInsightRequest.toJson⟩, PublishPackageInsightRequest.merge⟩
  | "PublishPackageInsightResponse" =>
    some ⟨⟨PublishPackageInsightResponse, PublishPackageInsightResponse.codec,
      PublishPackageInsightResponse.toJson⟩, PublishPackageInsightResponse.merge⟩
  | "CompleteToolSessionRequest" =>
    some ⟨⟨CompleteToolSessionRequest, CompleteToolSessionRequest.codec,
      CompleteToolSessionRequest.toJson⟩, CompleteToolSessionRequest.merge⟩
  | "CompleteToolSessionResponse" =>
    some ⟨⟨CompleteToolSessionResponse, CompleteToolSessionResponse.codec,
      CompleteToolSessionResponse.toJson⟩, CompleteToolSessionResponse.merge⟩
  | _ => none

end Merges

section Laws

/-- Messages of the type `ToolSession` are merged field by field. -/
theorem ToolSession.codec_merges : ToolSession.codec.Merges ToolSession.merge :=
  .of_builds (by decide) fun _ _ =>
    .next (merges_plain text_faithful rfl) .done

/-- Messages of the type `GitRef` are merged field by field. -/
theorem GitRef.codec_merges : GitRef.codec.Merges GitRef.merge :=
  .of_builds (by decide) fun _ _ =>
    .next (merges_optional text_faithful rfl) <|
    .next (merges_optional text_faithful rfl) <|
    .next (merges_optional text_faithful rfl) <|
    .next (merges_optional text_faithful rfl) .done

/-- Messages of the type `CreateToolSessionRequest` are merged field by field. -/
theorem CreateToolSessionRequest.codec_merges :
    CreateToolSessionRequest.codec.Merges CreateToolSessionRequest.merge :=
  .of_builds (by decide) fun _ _ =>
    .next (merges_plain text_faithful rfl) <|
    .next (merges_plain text_faithful rfl) <|
    .next (merges_plain text_faithful rfl) <|
    .next (merges_optional text_faithful rfl) <|
    .next (merges_optional integer32_faithful rfl) <|
    .next (merges_optional integer32_faithful rfl) <|
    .next (merges_message GitRef.codec_faithful GitRef.codec_merges rfl) .done

/-- Messages of the type `CreateToolSessionResponse` are merged field by field. -/
theorem CreateToolSessionResponse.codec_merges :
    CreateToolSessionResponse.codec.Merges CreateToolSessionResponse.merge :=
  .of_builds (by decide) fun _ _ =>
    .next (merges_message ToolSession.codec_faithful ToolSession.codec_merges rfl) .done

/-- Messages of the type `PackageManifest` are merged field by field. -/
theorem PackageManifest.codec_merges : PackageManifest.codec.Merges PackageManifest.merge :=
  .of_builds (by decide) fun _ _ =>
    .next (merges_plain integer32_faithful rfl) <|
    .next (merges_optional text_faithful rfl) <|
    .next (merges_plain text_faithful rfl) .done

/-- Messages of the type `Package` are merged field by field. -/
theorem Package.codec_merges : Package.codec.Merges Package.merge :=
  .of_builds (by decide) fun _ _ =>
    .next (merges_plain integer32_faithful rfl) <|
    .next (merges_plain text_faithful rfl) .done

/-- Messages of the type `PackageVersion` are merged field by field. -/
theorem PackageVersion.codec_merges : PackageVersion.codec.Merges PackageVersion.merge :=
  .of_builds (by decide) fun _ _ =>
    .next (merges_message Package.codec_faithful Package.codec_merges rfl) <|
    .next (merges_plain text_faithful rfl) .done

/-- Messages of the type `VulnerabilityIdentifier` are merged field by field. -/
theorem VulnerabilityIdentifier.codec_merges :
    VulnerabilityIdentifier.codec.Merges VulnerabilityIdentifier.merge :=
  .of_builds (by decide) fun _ _ =>
    .next (merges_plain integer32_faithful rfl) <|
    .next (merges_plain text_faithful rfl) .done

/-- Messages of the type `Vulnerability` are merged field by field. -/
theorem Vulnerability.codec_merges : Vulnerability.codec.Merges Vulnerability.merge :=
  .of_builds (by decide) fun _ _ =>
    .next (merges_message VulnerabilityIdentifier.codec_faithful
      VulnerabilityIdentifier.codec_merges rfl) <|
    .next (merges_plain text_faithful rfl) .done

/-- Messages of the type `Project` are merged field by field. -/
theorem Project.codec_merges : Project.codec.Merges Project.merge :=
  .of_builds (by decide) fun _ _ =>
    .next (merges_plain integer32_faithful rfl) <|
    .next (merges_plain text_faithful rfl) <|
    .next (merges_plain text_faithful rfl) .done

/-- Messages of the type `IssueStat` are merged field by field. -/
theorem IssueStat.codec_merges : IssueStat.codec.Merges IssueStat.merge :=
  .of_builds (by decide) fun _ _ =>
    .next (merges_plain integer64_faithful rfl) .done

/-- Messages of the type `ProjectInsight` are merged field by field. -/
theorem ProjectInsight.codec_merges : ProjectInsight.codec.Merges ProjectInsight.merge :=
  .of_builds (by decide) fun _ _ =>
    .next (merges_message Project.codec_faithful Project.codec_merges rfl) <|
    .next (merges_optional integer64_faithful rfl) <|
    .next (merges_optional integer64_faithful rfl) <|
    .next (merges_message IssueStat.codec_faithful IssueStat.codec_merges rfl) .done

/-- Messages of the type `LicenseMeta` are merged field by field. -/
theorem LicenseMeta.codec_merges : LicenseMeta.codec.Merges LicenseMeta.merge :=
  .of_builds (by decide) fun _ _ =>
    .next (merges_plain text_faithful rfl) <|
    .next (merges_plain text_faithful rfl) .done

/-- Messages of the type `LicenseMetaList` are merged field by field. -/
theorem LicenseMetaList.codec_merges : LicenseMetaList.codec.Merges LicenseMetaList.merge :=
  .of_builds (by decide) fun _ _ =>
    .next (carries_repeated_onto LicenseMeta.codec_faithful rfl (fun _ => rfl) fun _ _ => rfl) .done

/-- Messages of the type `PackageVersionInsight` are merged field by field. -/
theorem PackageVersionInsight.codec_merges :
    PackageVersionInsight.codec.Merges PackageVersionInsight.merge :=
  .of_builds (by decide) fun _ _ =>
    .next (carries_repeated_onto PackageVersion.codec_faithful rfl (fun _ => rfl) fun _ _ => rfl) <|
    .next (carries_repeated_onto Vulnerability.codec_faithful rfl (fun _ => rfl) fun _ _ => rfl) <|
    .next (carries_repeated_onto ProjectInsight.codec_faithful rfl (fun _ => rfl) fun _ _ => rfl) <|
    .next (merges_message LicenseMetaList.codec_faithful LicenseMetaList.codec_merges rfl) .done

/-- Messages of the type `PublishPackageInsightRequest` are merged field by field. -/
theorem PublishPackageInsightRequest.codec_merges :
    PublishPackageInsightRequest.codec.Merges PublishPackageInsightRequest.merge :=
  .of_builds (by decide) fun _ _ =>
    .next (merges_message ToolSession.codec_faithful ToolSession.codec_merges rfl) <|
    .next (merges_message PackageManifest.codec_faithful PackageManifest.codec_merges rfl) <|
    .next (merges_message PackageVersion.codec_faithful PackageVersion.codec_merges rfl) <|
    .next (merges_message PackageVersionInsight.codec_faithful
      PackageVersionInsight.codec_merges rfl) .done

/-- Messages of the type `PublishPackageInsightResponse` are merged field by field. -/
theorem PublishPackageInsightResponse.codec_merges :
    PublishPackageInsightResponse.codec.Merges PublishPackageInsightResponse.merge :=
  .of_builds (by decide) fun _ _ => .done

/-- Messages of the type `CompleteToolSessionRequest` are merged field by field. -/
theorem CompleteToolSessionRequest.codec_merges :
    CompleteToolSessionRequest.codec.Merges CompleteToolSessionRequest.merge :=
  .of_builds (by decide) fun _ _ =>
    .next (merges_message ToolSession.codec_faithful ToolSession.codec_merges rfl) <|
    .next (merges_plain integer32_faithful rfl) .done

/-- Messages of the type `CompleteToolSessionResponse` are merged field by field. -/
theorem CompleteToolSessionResponse.codec_merges :
    CompleteToolSessionResponse.codec.Merges CompleteToolSessionResponse.merge :=
  .of_builds (by decide) fun _ _ => .done

/-- The fields of the type `ToolSession` have parts of their own. -/
theorem ToolSession.codec_separate : ∃ slots, Separate ToolSession.codec.fields slots :=
  ⟨_, .next acts_plain (by simp [Wire.Part.Apart]) .done⟩

/-- The fields of the type `GitRef` have parts of their own. -/
theorem GitRef.codec_separate : ∃ slots, Separate GitRef.codec.fields slots :=
  ⟨_, .next acts_optional (by simp [Wire.Part.Apart]) <|
    .next acts_optional (by simp [Wire.Part.Apart]) <|
    .next acts_optional (by simp [Wire.Part.Apart]) <|
    .next acts_optional (by simp [Wire.Part.Apart]) .done⟩

/-- The fields of the type `CreateToolSessionRequest` have parts of their own. -/
theorem CreateToolSessionRequest.codec_separate :
    ∃ slots, Separate CreateToolSessionRequest.codec.fields slots :=
  ⟨_, .next acts_plain (by simp [Wire.Part.Apart]) <|
    .next acts_plain (by simp [Wire.Part.Apart]) <|
    .next acts_plain (by simp [Wire.Part.Apart]) <|
    .next acts_optional (by simp [Wire.Part.Apart]) <|
    .next acts_optional (by simp [Wire.Part.Apart]) <|
    .next acts_optional (by simp [Wire.Part.Apart]) <|
    .next acts_message (by simp [Wire.Part.Apart]) .done⟩

/-- The fields of the type `CreateToolSessionResponse` have parts of their own. -/
theorem CreateToolSessionResponse.codec_separate :
    ∃ slots, Separate CreateToolSessionResponse.codec.fields slots :=
  ⟨_, .next acts_message (by simp [Wire.Part.Apart]) .done⟩

/-- The fields of the type `PackageManifest` have parts of their own. -/
theorem PackageManifest.codec_separate : ∃ slots, Separate PackageManifest.codec.fields slots :=
  ⟨_, .next acts_plain (by simp [Wire.Part.Apart]) <|
    .next acts_optional (by simp [Wire.Part.Apart]) <|
    .next acts_plain (by simp [Wire.Part.Apart]) .done⟩

/-- The fields of the type `Package` have parts of their own. -/
theorem Package.codec_separate : ∃ slots, Separate Package.codec.fields slots :=
  ⟨_, .next acts_plain (by simp [Wire.Part.Apart]) <|
    .next acts_plain (by simp [Wire.Part.Apart]) .done⟩

/-- The fields of the type `PackageVersion` have parts of their own. -/
theorem PackageVersion.codec_separate : ∃ slots, Separate PackageVersion.codec.fields slots :=
  ⟨_, .next acts_message (by simp [Wire.Part.Apart]) <|
    .next acts_plain (by simp [Wire.Part.Apart]) .done⟩

/-- The fields of the type `VulnerabilityIdentifier` have parts of their own. -/
theorem VulnerabilityIdentifier.codec_separate :
    ∃ slots, Separate VulnerabilityIdentifier.codec.fields slots :=
  ⟨_, .next acts_plain (by simp [Wire.Part.Apart]) <|
    .next acts_plain (by simp [Wire.Part.Apart]) .done⟩

/-- The fields of the type `Vulnerability` have parts of their own. -/
theorem Vulnerability.codec_separate : ∃ slots, Separate Vulnerability.codec.fields slots :=
  ⟨_, .next acts_message (by simp [Wire.Part.Apart]) <|
    .next acts_plain (by simp [Wire.Part.Apart]) .done⟩

/-- The fields of the type `Project` have parts of their own. -/
theorem Project.codec_separate : ∃ slots, Separate Project.codec.fields slots :=
  ⟨_, .next acts_plain (by simp [Wire.Part.Apart]) <|
    .next acts_plain (by simp [Wire.Part.Apart]) <|
    .next acts_plain (by simp [Wire.Part.Apart]) .done⟩

/-- The fields of the type `IssueStat` have parts of their own. -/
theorem IssueStat.codec_separate : ∃ slots, Separate IssueStat.codec.fields slots :=
  ⟨_, .next acts_plain (by simp [Wire.Part.Apart]) .done⟩

/-- The fields of the type `ProjectInsight` have parts of their own. -/
theorem ProjectInsight.codec_separate : ∃ slots, Separate ProjectInsight.codec.fields slots :=
  ⟨_, .next acts_message (by simp [Wire.Part.Apart]) <|
    .next acts_optional (by simp [Wire.Part.Apart]) <|
    .next acts_optional (by simp [Wire.Part.Apart]) <|
    .next acts_message (by simp [Wire.Part.Apart]) .done⟩

/-- The fields of the type `LicenseMeta` have parts of their own. -/
theorem LicenseMeta.codec_separate : ∃ slots, Separate LicenseMeta.codec.fields slots :=
  ⟨_, .next acts_plain (by simp [Wire.Part.Apart]) <|
    .next acts_plain (by simp [Wire.Part.Apart]) .done⟩

/-- The fields of the type `LicenseMetaList` have parts of their own. -/
theorem LicenseMetaList.codec_separate : ∃ slots, Separate LicenseMetaList.codec.fields slots :=
  ⟨_, .next acts_repeated (by simp [Wire.Part.Apart]) .done⟩

/-- The fields of the type `PackageVersionInsight` have parts of their own. -/
theorem PackageVersionInsight.codec_separate :
    ∃ slots, Separate PackageVersionInsight.codec.fields slots :=
  ⟨_, .next acts_repeated (by simp [Wire.Part.Apart]) <|
    .next acts_repeated (by simp [Wire.Part.Apart]) <|
    .next acts_repeated (by simp [Wire.Part.Apart]) <|
    .next acts_message (by simp [Wire.Part.Apart]) .done⟩

/-- The fields of the type `PublishPackageInsightRequest` have parts of their own. -/
theorem PublishPackageInsightRequest.codec_separate :
    ∃ slots, Separate PublishPackageInsightRequest.codec.fields slots :=
  ⟨_, .next acts_message (by simp [Wire.Part.Apart]) <|
    .next acts_message (by simp [Wire.Part.Apart]) <|
    .next acts_message (by simp [Wire.Part.Apart]) <|
    .next acts_message (by simp [Wire.Part.Apart]) .done⟩

/-- The fields of the type `PublishPackageInsightResponse` have parts of their own. -/
theorem PublishPackageInsightResponse.codec_separate :
    ∃ slots, Separate PublishPackageInsightResponse.codec.fields slots :=
  ⟨_, .done⟩

/-- The fields of the type `CompleteToolSessionRequest` have parts of their own. -/
theorem CompleteToolSessionRequest.codec_separate :
    ∃ slots, Separate CompleteToolSessionRequest.codec.fields slots :=
  ⟨_, .next acts_message (by simp [Wire.Part.Apart]) <|
    .next acts_plain (by simp [Wire.Part.Apart]) .done⟩

/-- The fields of the type `CompleteToolSessionResponse` have parts of their own. -/
theorem CompleteToolSessionResponse.codec_separate :
    ∃ slots, Separate CompleteToolSessionResponse.codec.fields slots :=
  ⟨_, .done⟩

end Laws

/-- A merger of a message type merges messages field by field, and the fields have parts of their
own. -/
structure Merger.MergesApart (merger : Merger) (schema : Schema) : Prop where
  same : merger.toSchema = schema
  merges : merger.codec.Merges merger.merge
  separate : ∃ slots, Separate merger.codec.fields slots

/-- A message type that is known under its name is merged by a merger under that name. -/
private theorem mergesApart_of_known {schema found : Schema} (known : some found = some schema)
    {merger : Merger} (apart : merger.MergesApart found) :
    ∃ other, some merger = some other ∧ other.MergesApart schema :=
  ⟨merger, rfl, Option.some.inj known ▸ apart⟩

/-- Messages of every type have a merge, and their fields have parts of their own. -/
theorem Schema.codec_merges {name : String} {schema : Schema}
    (known : Schema.ofName? name = some schema) :
    ∃ merger, Merger.ofName? name = some merger ∧ merger.MergesApart schema := by
  -- One case for each message type that has a name; every other name is unknown.
  unfold Schema.ofName? at known
  split at known
  · exact mergesApart_of_known known ⟨rfl, ToolSession.codec_merges, ToolSession.codec_separate⟩
  · exact mergesApart_of_known known ⟨rfl, GitRef.codec_merges, GitRef.codec_separate⟩
  · exact mergesApart_of_known known
      ⟨rfl, CreateToolSessionRequest.codec_merges, CreateToolSessionRequest.codec_separate⟩
  · exact mergesApart_of_known known
      ⟨rfl, CreateToolSessionResponse.codec_merges, CreateToolSessionResponse.codec_separate⟩
  · exact mergesApart_of_known known
      ⟨rfl, PackageManifest.codec_merges, PackageManifest.codec_separate⟩
  · exact mergesApart_of_known known ⟨rfl, Package.codec_merges, Package.codec_separate⟩
  · exact mergesApart_of_known known
      ⟨rfl, PackageVersion.codec_merges, PackageVersion.codec_separate⟩
  · exact mergesApart_of_known known
      ⟨rfl, VulnerabilityIdentifier.codec_merges, VulnerabilityIdentifier.codec_separate⟩
  · exact mergesApart_of_known known ⟨rfl, Vulnerability.codec_merges, Vulnerability.codec_separate⟩
  · exact mergesApart_of_known known ⟨rfl, Project.codec_merges, Project.codec_separate⟩
  · exact mergesApart_of_known known ⟨rfl, IssueStat.codec_merges, IssueStat.codec_separate⟩
  · exact mergesApart_of_known known
      ⟨rfl, ProjectInsight.codec_merges, ProjectInsight.codec_separate⟩
  · exact mergesApart_of_known known ⟨rfl, LicenseMeta.codec_merges, LicenseMeta.codec_separate⟩
  · exact mergesApart_of_known known
      ⟨rfl, LicenseMetaList.codec_merges, LicenseMetaList.codec_separate⟩
  · exact mergesApart_of_known known
      ⟨rfl, PackageVersionInsight.codec_merges, PackageVersionInsight.codec_separate⟩
  · exact mergesApart_of_known known
      ⟨rfl, PublishPackageInsightRequest.codec_merges, PublishPackageInsightRequest.codec_separate⟩
  · exact mergesApart_of_known known
      ⟨rfl, PublishPackageInsightResponse.codec_merges, PublishPackageInsightResponse.codec_separate⟩
  · exact mergesApart_of_known known
      ⟨rfl, CompleteToolSessionRequest.codec_merges, CompleteToolSessionRequest.codec_separate⟩
  · exact mergesApart_of_known known
      ⟨rfl, CompleteToolSessionResponse.codec_merges, CompleteToolSessionResponse.codec_separate⟩
  · simp at known

/-- What becomes of bytes that are put together from messages and fields. -/
structure ReadInParts {M : Type} (codec : Codec M) (merge : M → M → M) : Prop where
  /-- What is written of two messages is read as their merge. -/
  merged : ∀ earlier later, codec.size earlier < 2 ^ 64 → codec.size later < 2 ^ 64 →
    codec.read (codec.write earlier ++ codec.write later) = some (merge earlier later)
  /-- Two fields of different numbers that stand side by side can be exchanged. -/
  exchanged : ∀ {before nested past one inner bytes other inner' bytes'},
    FieldsForm before nested past → FieldForm one inner bytes → FieldForm other inner' bytes' →
    one.number ≠ other.number → ∀ more,
      codec.read (past ++ (bytes ++ (bytes' ++ more))) =
        codec.read (past ++ (bytes' ++ (bytes ++ more)))
  /-- A field with an unknown number can be put between other fields. -/
  inserted : ∀ {before nested past unknown inner bytes}, FieldsForm before nested past →
    FieldForm unknown inner bytes → unknown.number ∉ codec.fields.map (·.number) →
    inner < Codec.greatestDepth → ∀ more,
      codec.read (past ++ (bytes ++ more)) = codec.read (past ++ more)
  /-- Nothing but a sequence of fields is read. -/
  formed : ∀ {bytes message}, codec.read bytes = some message →
    ∃ fields nested, FieldsForm fields nested bytes ∧ nested < Codec.greatestDepth

/-- Messages of every type are merged when they are put together, and it does not matter in which order
fields of different numbers occur or which unknown fields come between them. -/
theorem messages_merge {name : String} {schema : Schema}
    (known : Schema.ofName? name = some schema) :
    ∃ merger, Merger.ofName? name = some merger ∧ merger.toSchema = schema ∧
      ReadInParts merger.codec merger.merge := by
  obtain ⟨merger, found, rfl, merges, slots, separate⟩ := Schema.codec_merges known
  refine ⟨merger, found, rfl, fun earlier later small small' => ?merged,
    fun preceding form form' differ more =>
      separate.exchange preceding form form' differ _ _ more,
    fun preceding form strange fits more => ?inserted, fun read => ?formed⟩
  case merged =>
    -- The earlier message is read back, and the later one is merged into it.
    have first := (Schema.codec_faithful known).merge_write small Codec.greatestDepth
    obtain ⟨fields, read, -⟩ := Option.bind_eq_some_iff.1 first
    rw [Codec.read, Codec.mergeBytes_append _ read, first, Option.bind_some]
    exact merges earlier small' _
  case inserted =>
    refine Codec.insert_unknown preceding form ?_ (by omega) _ more
    -- A number that no field has is not found among the fields.
    refine List.find?_eq_none.2 fun field member same => strange ?_
    rw [← beq_iff_eq.1 same]
    exact List.mem_map_of_mem member
  case formed =>
    obtain ⟨fields, read, -⟩ := Option.bind_eq_some_iff.1 read
    obtain ⟨nested, form, fits⟩ := Wire.fieldsForm_of_read read
    exact ⟨fields, nested, form, Nat.lt_of_le_of_lt fits (by decide)⟩

/-- A group with the number 9, which holds a number and an empty group. -/
def strangeGroup : Wire.Bytes :=
  [0x4b, 0x08, 0x81, 0x00, 0x13, 0x14, 0x4c]

/-- The group is well formed, although the number in it takes one byte more than it needs. -/
theorem strangeGroup_form : FieldForm ⟨9, .group⟩ 1 strangeGroup := by
  -- The group is built from the inside: every key and number by itself, and then one in the other.
  have low : Wire.VarintForm (UInt8.toNat 0x00) [0x00] := .last (by decide)
  have long : Wire.VarintForm (UInt8.toNat 0x81 - 128 + 128 * UInt8.toNat 0x00) [0x81, 0x00] :=
    .more (by decide) low
  have number : Wire.NumberForm 1 [0x81, 0x00] := ⟨long, by decide, by decide⟩
  have first : Wire.KeyForm ⟨1, 0⟩ [0x08] := .single (by decide) (by decide) (by decide) (by decide)
  have opened : Wire.KeyForm ⟨2, 3⟩ [0x13] := .single (by decide) (by decide) (by decide) (by decide)
  have closed : Wire.KeyForm ⟨2, 4⟩ [0x14] := .single (by decide) (by decide) (by decide) (by decide)
  have end_ : Wire.KeyForm ⟨9, 4⟩ [0x4c] := .single (by decide) (by decide) (by decide) (by decide)
  have start : Wire.KeyForm ⟨9, 3⟩ [0x4b] := .single (by decide) (by decide) (by decide) (by decide)
  -- The outer group holds the field with the long number and an empty group.
  have content : Wire.GroupForm 9 1 ([0x08] ++ ([0x81, 0x00] ++ ([0x13] ++ ([0x14] ++ [0x4c])))) :=
    .plain first (.varint number) (.group opened (.done closed) (.done end_))
  exact .group start content

/-- A project that takes the place of some of what is known of the odd one. -/
def plainProject : ProjectInsight :=
  ⟨some ⟨0, "left-pad", ""⟩, none, some 0, some ⟨3⟩⟩

/-- Both projects are merged in all their parts, with the group before them or without it. -/
theorem messages_merge_of_oddProject :
    Schema.ofName? "ProjectInsight" =
        some ⟨ProjectInsight, ProjectInsight.codec, ProjectInsight.toJson⟩ ∧
      ReadInParts ProjectInsight.codec ProjectInsight.merge ∧
      ProjectInsight.codec.read (strangeGroup ++
          (ProjectInsight.codec.write oddProject ++ ProjectInsight.codec.write plainProject)) =
        some ⟨some ⟨-7, "left-pad", "https://example.com/ü"⟩, some 0, some 0, some ⟨3⟩⟩ := by
  -- The group in front is left out first, and the two projects are merged after that.
  obtain ⟨merger, found, -, parts⟩ := @messages_merge "ProjectInsight"
    ⟨_, ProjectInsight.codec, ProjectInsight.toJson⟩ rfl
  cases found
  refine ⟨rfl, parts, ?_⟩
  have inserted := parts.inserted .done strangeGroup_form (by decide) (by decide)
    (ProjectInsight.codec.write oddProject ++ ProjectInsight.codec.write plainProject)
  rw [List.nil_append, List.nil_append] at inserted
  rw [inserted, parts.merged oddProject plainProject (by decide +kernel) (by decide +kernel)]
  rfl

end InsightRelay.Message
