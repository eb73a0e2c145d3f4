import InsightRelay.Message.Schema
import InsightRelay.Proofs.Wire.Codec

/-! Every message that is exchanged with the service is read back as it was written, with all that is
set in it and nothing else. -/

namespace InsightRelay.Message

open Wire (Codec integer32_faithful integer64_faithful text_faithful)
open Wire.FieldCodec (carries_plain carries_optional carries_message carries_repeated)

section Faithful

/-- Messages of the type `ToolSession` are read back. -/
theorem ToolSession.codec_faithful : ToolSession.codec.Faithful :=
  .of_rebuilds (by decide) fun _ =>
    .next (carries_plain text_faithful rfl) .done

/-- Messages of the type `GitRef` are read back. -/
theorem GitRef.codec_faithful : GitRef.codec.Faithful :=
  .of_rebuilds (by decide) fun _ =>
    .next (carries_optional text_faithful rfl) <|
    .next (carries_optional text_faithful rfl) <|
    .next (carries_optional text_faithful rfl) <|
    .next (carries_optional text_faithful rfl) .done

/-- Messages of the type `CreateToolSessionRequest` are read back. -/
theorem CreateToolSessionRequest.codec_faithful : CreateToolSessionRequest.codec.Faithful :=
  .of_rebuilds (by decide) fun _ =>
    .next (carries_plain text_faithful rfl) <|
    .next (carries_plain text_faithful rfl) <|
    .next (carries_plain text_faithful rfl) <|
    .next (carries_optional text_faithful rfl) <|
    .next (carries_optional integer32_faithful rfl) <|
    .next (carries_optional integer32_faithful rfl) <|
    .next (carries_message GitRef.codec_faithful rfl rfl) .done

/-- Messages of the type `CreateToolSessionResponse` are read back. -/
theorem CreateToolSessionResponse.codec_faithful : CreateToolSessionResponse.codec.Faithful :=
  .of_rebuilds (by decide) fun _ =>
    .next (carries_message ToolSession.codec_faithful rfl rfl) .done

/-- Messages of the type `PackageManifest` are read back. -/
theorem PackageManifest.codec_faithful : PackageManifest.codec.Faithful :=
  .of_rebuilds (by decide) fun _ =>
    .next (carries_plain integer32_faithful rfl) <|
    .next (carries_optional text_faithful rfl) <|
    .next (carries_plain text_faithful rfl) .done

/-- Messages of the type `Package` are read back. -/
theorem Package.codec_faithful : Package.codec.Faithful :=
  .of_rebuilds (by decide) fun _ =>
    .next (carries_plain integer32_faithful rfl) <|
    .next (carries_plain text_faithful rfl) .done

/-- Messages of the type `PackageVersion` are read back. -/
theorem PackageVersion.codec_faithful : PackageVersion.codec.Faithful :=
  .of_rebuilds (by decide) fun _ =>
    .next (carries_message Package.codec_faithful rfl rfl) <|
    .next (carries_plain text_faithful rfl) .done

/-- Messages of the type `VulnerabilityIdentifier` are read back. -/
theorem VulnerabilityIdentifier.codec_faithful : VulnerabilityIdentifier.codec.Faithful :=
  .of_rebuilds (by decide) fun _ =>
    .next (carries_plain integer32_faithful rfl) <|
    .next (carries_plain text_faithful rfl) .done

/-- Messages of the type `Vulnerability` are read back. -/
theorem Vulnerability.codec_faithful : Vulnerability.codec.Faithful :=
  .of_rebuilds (by decide) fun _ =>
    .next (carries_message VulnerabilityIdentifier.codec_faithful rfl rfl) <|
    .next (carries_plain text_faithful rfl) .done

/-- Messages of the type `Project` are read back. -/
theorem Project.codec_faithful : Project.codec.Faithful :=
  .of_rebuilds (by decide) fun _ =>
    .next (carries_plain integer32_faithful rfl) <|
    .next (carries_plain text_faithful rfl) <|
    .next (carries_plain text_faithful rfl) .done

/-- Messages of the type `IssueStat` are read back. -/
theorem IssueStat.codec_faithful : IssueStat.codec.Faithful :=
  .of_rebuilds (by decide) fun _ =>
    .next (carries_plain integer64_faithful rfl) .done

/-- Messages of the type `ProjectInsight` are read back. -/
theorem ProjectInsight.codec_faithful : ProjectInsight.codec.Faithful :=
  .of_rebuilds (by decide) fun _ =>
    .next (carries_message Project.codec_faithful rfl rfl) <|
    .next (carries_optional integer64_faithful rfl) <|
    .next (carries_optional integer64_faithful rfl) <|
    .next (carries_message IssueStat.codec_faithful rfl rfl) .done

/-- Messages of the type `LicenseMeta` are read back. -/
theorem LicenseMeta.codec_faithful : LicenseMeta.codec.Faithful :=
  .of_rebuilds (by decide) fun _ =>
    .next (carries_plain text_faithful rfl) <|
    .next (carries_plain text_faithful rfl) .done

/-- Messages of the type `LicenseMetaList` are read back. -/
theorem LicenseMetaList.codec_faithful : LicenseMetaList.codec.Faithful :=
  .of_rebuilds (by decide) fun _ =>
    .next (carries_repeated LicenseMeta.codec_faithful rfl (fun _ => rfl) fun _ _ => rfl) .done

/-- Messages of the type `PackageVersionInsight` are read back. -/
theorem PackageVersionInsight.codec_faithful : PackageVersionInsight.codec.Faithful :=
  .of_rebuilds (by decide) fun _ =>
    .next (carries_repeated PackageVersion.codec_faithful rfl (fun _ => rfl) fun _ _ => rfl) <|
    .next (carries_repeated Vulnerability.codec_faithful rfl (fun _ => rfl) fun _ _ => rfl) <|
    .next (carries_repeated ProjectInsight.codec_faithful rfl (fun _ => rfl) fun _ _ => rfl) <|
    .next (carries_message LicenseMetaList.codec_faithful rfl rfl) .done

/-- Messages of the type `PublishPackageInsightRequest` are read back. -/
theorem PublishPackageInsightRequest.codec_faithful : PublishPackageInsightRequest.codec.Faithful :=
  .of_rebuilds (by decide) fun _ =>
    .next (carries_message ToolSession.codec_faithful rfl rfl) <|
    .next (carries_message PackageManifest.codec_faithful rfl rfl) <|
    .next (carries_message PackageVersion.codec_faithful rfl rfl) <|
    .next (carries_message PackageVersionInsight.codec_faithful rfl rfl) .done

/-- Messages of the type `PublishPackageInsightResponse` are read back. -/
theorem PublishPackageInsightResponse.codec_faithful : PublishPackageInsightResponse.codec.Faithful :=
  .of_rebuilds (by decide) fun _ => .done

/-- Messages of the type `CompleteToolSessionRequest` are read back. -/
theorem CompleteToolSessionRequest.codec_faithful : CompleteToolSessionRequest.codec.Faithful :=
  .of_rebuilds (by decide) fun _ =>
    .next (carries_message ToolSession.codec_faithful rfl rfl) <|
    .next (carries_plain integer32_faithful rfl) .done

/-- Messages of the type `CompleteToolSessionResponse` are read back. -/
theorem CompleteToolSessionResponse.codec_faithful : CompleteToolSessionResponse.codec.Faithful :=
  .of_rebuilds (by decide) fun _ => .done

end Faithful

/-- A message type that is known under its name is the one that is found. -/
private theorem faithful_of_known {schema found : Schema} (known : some found = some schema)
    (faithful : found.codec.Faithful) : schema.codec.Faithful :=
  Option.some.inj known ▸ faithful

/-- The messages of every message type are read back. -/
theorem Schema.codec_faithful {name : String} {schema : Schema}
    (known : Schema.ofName? name = some schema) : schema.codec.Faithful := by
  -- One case for each message type that has a name; every other name is unknown.
  unfold Schema.ofName? at known
  split at known
  · exact faithful_of_known known ToolSession.codec_faithful
  · exact faithful_of_known known GitRef.codec_faithful
  · exact faithful_of_known known CreateToolSessionRequest.codec_faithful
  · exact faithful_of_known known CreateToolSessionResponse.codec_faithful
  · exact faithful_of_known known PackageManifest.codec_faithful
  · exact faithful_of_known known Package.codec_faithful
  · exact faithful_of_known known PackageVersion.codec_faithful
  · exact faithful_of_known known VulnerabilityIdentifier.codec_faithful
  · exact faithful_of_known known Vulnerability.codec_faithful
  · exact faithful_of_known known Project.codec_faithful
  · exact faithful_of_known known IssueStat.codec_faithful
  · exact faithful_of_known known ProjectInsight.codec_faithful
  · exact faithful_of_known known LicenseMeta.codec_faithful
  · exact faithful_of_known known LicenseMetaList.codec_faithful
  · exact faithful_of_known known PackageVersionInsight.codec_faithful
  · exact faithful_of_known known PublishPackageInsightRequest.codec_faithful
  · exact faithful_of_known known PublishPackageInsightResponse.codec_faithful
  · exact faithful_of_known known CompleteToolSessionRequest.codec_faithful
  · exact faithful_of_known known CompleteToolSessionResponse.codec_faithful
  · simp at known

/-- What is written of a message holds the message, and its size is known beforehand. -/
structure ReadsBack {M : Type} (codec : Codec M) (message : M) : Prop where
  /-- The size that is computed is the number of bytes that are written. -/
  length_write : (codec.write message).length = codec.size message
  /-- Inside another message it stands behind the number of its bytes. -/
  prefixed : ∀ number, Wire.FieldCodec.writeMessage number codec message =
    Wire.writeKey number Wire.bytesKind ++ Wire.writeVarint (codec.write message).length ++
      codec.write message
  /-- It is read back as it was, if its bytes can be counted in sixty-four bits. -/
  read_write : codec.size message < 2 ^ 64 → codec.read (codec.write message) = some message
  /-- Whatever bytes it was read from, what is written of it stays the same from then on. -/
  rewritten : codec.size message < 2 ^ 64 → ∀ bytes, codec.read bytes = some message →
    (codec.read (codec.write message)).map codec.write = some (codec.write message)

/-- Every message of every type is read back as it was written. -/
theorem messages_read_back {name : String} {schema : Schema}
    (known : Schema.ofName? name = some schema) (message : schema.Content) :
    ReadsBack schema.codec message := by
  have faithful := Schema.codec_faithful known
  -- The reader starts with nothing filled in, so what is merged into it is the message itself.
  have read_write (small : schema.codec.size message < 2 ^ 64) :
      schema.codec.read (schema.codec.write message) = some message :=
    faithful.merge_write small Codec.greatestDepth
  refine ⟨faithful.length_write message, fun number => ?prefixed, read_write, ?rewritten⟩
  case prefixed => exact Wire.FieldCodec.writeMessage_eq faithful message
  case rewritten =>
    intro small bytes _
    rw [read_write small, Option.map_some]

/-- A project of a strange source with a negative number, a count that is set to nothing, and a count
of issues that is there and empty. -/
def oddProject : ProjectInsight :=
  ⟨some ⟨-7, "", "https://example.com/ü"⟩, some 0, some (-1), some ⟨0⟩⟩

/-- Negative numbers, counts that are set to nothing and empty messages are all read back. -/
theorem messages_read_back_of_oddProject :
    Schema.ofName? "ProjectInsight" =
        some ⟨ProjectInsight, ProjectInsight.codec, ProjectInsight.toJson⟩ ∧
      ReadsBack ProjectInsight.codec oddProject ∧
      ProjectInsight.codec.read (ProjectInsight.codec.write oddProject) = some oddProject := by
  -- The theorem is applied to the type of that name, and its bytes are counted to be few.
  have readsBack : ReadsBack ProjectInsight.codec oddProject :=
    @messages_read_back "ProjectInsight" ⟨_, ProjectInsight.codec, ProjectInsight.toJson⟩ rfl
      oddProject
  exact ⟨rfl, readsBack, readsBack.read_write (by decide +kernel)⟩

end InsightRelay.Message
