import InsightRelay.Proofs.Dictionary
import InsightRelay.Proofs.Json.Record
import InsightRelay.Proofs.Json.Value
import InsightRelay.Proofs.Manifest.Form
import InsightRelay.Manifest.Document

/-! Manifest documents read back: every rendering of a manifest gives that manifest. -/

namespace InsightRelay

open Json

section Readers

/-- A name in a document stands for the ecosystem that goes by it. -/
theorem Ecosystem.Named.ofDocumentName {ecosystem : Ecosystem} {name : String}
    (named : ecosystem.Named name) : Ecosystem.ofDocumentName name = ecosystem := by
  cases ecosystem
  case unknown =>
    -- A strange name is that of no known ecosystem, so the search for one fails.
    have absent : known.find? (fun ecosystem => ecosystem.name == name) = none := by
      rw [List.find?_eq_none]
      intro ecosystem member same
      exact named (List.mem_map.2 ⟨ecosystem, member, by simpa using same⟩)
    rw [Ecosystem.ofDocumentName, absent]
    rfl
  all_goals
    -- A known ecosystem has one name, which is looked up.
    obtain rfl : name = _ := named
    decide

theorem reads_ecosystem : Reads Ecosystem.reader EcosystemForm where
  opens := fun _ _ ⟨_, _, written⟩ => Reads.opens reads_variant written
  reads := by
    rintro ecosystem text gap rest ⟨name, named, written⟩ gapped ends
    simp only [Ecosystem.reader, Reads.reads reads_variant written gapped ends, Except.map,
      named.ofDocumentName]

theorem reads_textField : Reads textField (OptionalForm TextForm) :=
  (reads_text _).optional neverNull_text

theorem reads_integerField : Reads integerField (OptionalForm IntegerForm) :=
  Reads.optional reads_integer neverNull_integer

end Readers

section Records

/-- The fields of package names with versions. -/
def PackageId.slots : List (Slot PackageId) := [
  .needed "name" (text .text) TextForm name fun value package => { package with name := value },
  .needed "version" (text .text) TextForm version fun value package => { package with version := value }]

theorem PackageId.madeOf_slots : PackageId.layout.MadeOf PackageId.slots where
  fields := rfl
  fits := by
    simp only [slots, List.forall_mem_cons]
    -- Both parts of an identity are needed.
    exact ⟨Slot.needed_fits (reads_text _), Slot.needed_fits (reads_text _), nofun⟩
  covers := by simp [slots, Slot.needed]
  distinct := by decide
  apart := by simp [slots, Slot.needed]
  whole := fun _ => rfl

theorem reads_packageId : Reads PackageId.layout.read PackageIdForm :=
  Layout.MadeOf.reads PackageId.madeOf_slots

/-- The fields of vulnerabilities. -/
def VulnerabilityNote.slots : List (Slot VulnerabilityNote) := [
  .defaulted "id" none textField (OptionalForm TextForm) id fun value note => { note with id := value },
  .defaulted "summary" none textField (OptionalForm TextForm) summary fun value note =>
    { note with summary := value },
  .defaulted "severity" none textField (OptionalForm TextForm) severity fun value note =>
    { note with severity := value }]

theorem VulnerabilityNote.madeOf_slots : VulnerabilityNote.layout.MadeOf VulnerabilityNote.slots where
  fields := rfl
  fits := by
    simp only [slots, List.forall_mem_cons]
    -- What a note leaves out is empty.
    exact ⟨Slot.defaulted_fits reads_textField rfl, Slot.defaulted_fits reads_textField rfl,
      Slot.defaulted_fits reads_textField rfl, nofun⟩
  covers := by simp [slots, Slot.defaulted]
  distinct := by decide
  apart := by simp [slots, Slot.defaulted]
  whole := fun _ => rfl

theorem reads_vulnerability : Reads VulnerabilityNote.layout.read VulnerabilityForm :=
  Layout.MadeOf.reads VulnerabilityNote.madeOf_slots

/-- The fields of projects. -/
def ProjectNote.slots : List (Slot ProjectNote) := [
  .defaulted "type" none textField (OptionalForm TextForm) kind fun value note =>
    { note with kind := value },
  .defaulted "name" none textField (OptionalForm TextForm) name fun value note =>
    { note with name := value },
  .defaulted "link" none textField (OptionalForm TextForm) link fun value note =>
    { note with link := value },
  .defaulted "stars" none integerField (OptionalForm IntegerForm) stars fun value note =>
    { note with stars := value },
  .defaulted "forks" none integerField (OptionalForm IntegerForm) forks fun value note =>
    { note with forks := value },
  .defaulted "issues" none integerField (OptionalForm IntegerForm) issues fun value note =>
    { note with issues := value }]

theorem ProjectNote.madeOf_slots : ProjectNote.layout.MadeOf ProjectNote.slots where
  fields := rfl
  fits := by
    simp only [slots, List.forall_mem_cons]
    -- Texts that a note leaves out are empty, and counts that it leaves out are zero.
    exact ⟨Slot.defaulted_fits reads_textField rfl, Slot.defaulted_fits reads_textField rfl,
      Slot.defaulted_fits reads_textField rfl, Slot.defaulted_fits reads_integerField rfl,
      Slot.defaulted_fits reads_integerField rfl, Slot.defaulted_fits reads_integerField rfl, nofun⟩
  covers := by simp [slots, Slot.defaulted]
  distinct := by decide
  apart := by simp [slots, Slot.defaulted]
  whole := fun _ => rfl

theorem reads_project : Reads ProjectNote.layout.read ProjectForm :=
  Layout.MadeOf.reads ProjectNote.madeOf_slots

/-- The fields of insights. -/
def Insights.slots : List (Slot Insights) := [
  .defaulted "vulnerabilities" .none (optional (list VulnerabilityNote.layout.read))
    (OptionalForm (ListForm VulnerabilityForm)) vulnerabilities fun value insights =>
      { insights with vulnerabilities := value },
  .defaulted "projects" .none (optional (list ProjectNote.layout.read))
    (OptionalForm (ListForm ProjectForm)) projects fun value insights =>
      { insights with projects := value },
  .defaulted "licenses" .none (optional (list (text .text))) (OptionalForm (ListForm TextForm)) licenses
    fun value insights => { insights with licenses := value }]

theorem Insights.madeOf_slots : Insights.layout.MadeOf Insights.slots where
  fields := rfl
  fits := by
    simp only [slots, List.forall_mem_cons]
    -- The three lists may be missing or null, which a list that is there is never read as.
    exact ⟨Slot.defaulted_fits (Reads.optional (Reads.list reads_vulnerability) neverNull_list) rfl,
      Slot.defaulted_fits (Reads.optional (Reads.list reads_project) neverNull_list) rfl,
      Slot.defaulted_fits ((reads_text _).list.optional neverNull_list) rfl, nofun⟩
  covers := by simp [slots, Slot.defaulted]
  distinct := by decide
  apart := by simp [slots, Slot.defaulted]
  whole := fun _ => rfl

theorem reads_insights : Reads Insights.layout.read InsightsForm :=
  Layout.MadeOf.reads Insights.madeOf_slots

/-- The fields of the entries of a manifest. -/
def ManifestPackage.slots : List (Slot ManifestPackage) := [
  .needed "name" (text .text) TextForm name fun value package => { package with name := value },
  .needed "version" (text .text) TextForm version fun value package => { package with version := value },
  .defaulted "insights" none (optional Insights.layout.read) (OptionalForm InsightsForm) insights
    fun value package => { package with insights := value }]

theorem ManifestPackage.madeOf_slots : ManifestPackage.layout.MadeOf ManifestPackage.slots where
  fields := rfl
  fits := by
    simp only [slots, List.forall_mem_cons]
    -- Name and version are needed, the insights may be missing.
    exact ⟨Slot.needed_fits (reads_text _), Slot.needed_fits (reads_text _),
      Slot.defaulted_fits (Reads.optional reads_insights neverNull_record) rfl, nofun⟩
  covers := by simp [slots, Slot.needed, Slot.defaulted]
  distinct := by decide
  apart := by simp [slots, Slot.needed, Slot.defaulted]
  whole := fun _ => rfl

theorem reads_manifestPackage : Reads ManifestPackage.layout.read ManifestPackageForm :=
  Layout.MadeOf.reads ManifestPackage.madeOf_slots

theorem reads_entries :
    Reads (dictionary (list PackageId.layout.read)) (EntriesForm (ListForm PackageIdForm)) :=
  Reads.entries (Reads.list reads_packageId)

/-- A dependency graph is read from its entries in any order. -/
theorem reads_graph : Reads graphReader GraphForm where
  opens := fun _ _ ⟨_, _, written⟩ => Reads.opens reads_entries written
  reads := by
    rintro graph text gap rest ⟨entries, order, written⟩ gapped ends
    simp only [graphReader, Reads.reads reads_entries written gapped ends, Except.map,
      Dictionary.ofList_of_perm order]

theorem neverNull_graph : NeverNull GraphForm :=
  fun _ _ ⟨_, _, written⟩ => neverNull_entries written

/-- The fields of manifests. -/
def Manifest.slots : List (Slot Manifest) := [
  .needed "ecosystem" Ecosystem.reader EcosystemForm ecosystem fun value manifest =>
    { manifest with ecosystem := value },
  .needed "path" (text .text) TextForm path fun value manifest => { manifest with path := value },
  .defaulted "display_path" none textField (OptionalForm TextForm) displayPath fun value manifest =>
    { manifest with displayPath := value },
  .defaulted "packages" [] (list ManifestPackage.layout.read) (ListForm ManifestPackageForm) packages
    fun value manifest => { manifest with packages := value },
  .defaulted "dependency_graph" none (optional graphReader) (OptionalForm GraphForm) dependencyGraph
    fun value manifest => { manifest with dependencyGraph := value }]

theorem Manifest.madeOf_slots : Manifest.layout.MadeOf Manifest.slots where
  fields := rfl
  fits := by
    simp only [slots, List.forall_mem_cons]
    -- Ecosystem and path are needed, everything else has a default.
    exact ⟨Slot.needed_fits reads_ecosystem, Slot.needed_fits (reads_text _),
      Slot.defaulted_fits reads_textField rfl, Slot.defaulted_fits (Reads.list reads_manifestPackage) rfl,
      Slot.defaulted_fits (Reads.optional reads_graph neverNull_graph) rfl, nofun⟩
  covers := by simp [slots, Slot.needed, Slot.defaulted]
  distinct := by decide
  apart := by simp [slots, Slot.needed, Slot.defaulted]
  whole := fun _ => rfl

theorem reads_manifest : Reads Manifest.layout.read ManifestForm :=
  Layout.MadeOf.reads Manifest.madeOf_slots

end Records

section Writing

theorem ecosystemForm_toJson (ecosystem : Ecosystem) :
    EcosystemForm ecosystem (Value.text ecosystem.documentName).write := by
  refine ⟨ecosystem.documentName, ?_, .inl (textForm_writeText _)⟩
  cases ecosystem <;> simp [Ecosystem.Named, Ecosystem.documentName, Ecosystem.known, Ecosystem.name]

theorem packageIdForm_toJson (package : PackageId) : PackageIdForm package package.toJson.write :=
  Written.record (.cons ⟨rfl, textForm_writeText _⟩ (.cons ⟨rfl, textForm_writeText _⟩ .nil)) (by decide)

theorem vulnerabilityForm_toJson (note : VulnerabilityNote) : VulnerabilityForm note note.toJson.write :=
  Written.record (.cons ⟨rfl, optionalForm_text _⟩ (.cons ⟨rfl, optionalForm_text _⟩
    (.cons ⟨rfl, optionalForm_text _⟩ .nil))) (by decide)

theorem projectForm_toJson (note : ProjectNote) : ProjectForm note note.toJson.write :=
  Written.record (.cons ⟨rfl, optionalForm_text _⟩ (.cons ⟨rfl, optionalForm_text _⟩
    (.cons ⟨rfl, optionalForm_text _⟩ (.cons ⟨rfl, optionalForm_integer _⟩
      (.cons ⟨rfl, optionalForm_integer _⟩ (.cons ⟨rfl, optionalForm_integer _⟩ .nil)))))) (by decide)

theorem insightsForm_toJson (insights : Insights) : InsightsForm insights insights.toJson.write :=
  Written.record (.cons ⟨rfl, optionalForm_list vulnerabilityForm_toJson _⟩
    (.cons ⟨rfl, optionalForm_list projectForm_toJson _⟩
      (.cons ⟨rfl, optionalForm_list textForm_writeText _⟩ .nil))) (by decide)

theorem optionalForm_insightsJson (insights : Option Insights) :
    OptionalForm InsightsForm insights (insightsJson insights).write := by
  cases insights with
  | none => rfl
  | some insights => exact insightsForm_toJson insights

theorem manifestPackageForm_toJson (package : ManifestPackage) :
    ManifestPackageForm package package.toJson.write :=
  Written.record (.cons ⟨rfl, textForm_writeText _⟩ (.cons ⟨rfl, textForm_writeText _⟩
    (.cons ⟨rfl, optionalForm_insightsJson _⟩ .nil))) (by decide)

/-- The JSON form of a dependency graph whose entries are written in a given order. -/
def entriesJson : Option (List (String × List PackageId)) → Value
  | some entries => .object (entries.map fun (key, packages) =>
      (key, .list (packages.map PackageId.toJson)))
  | none => .null

theorem optionalForm_entriesJson {graph : Option (Dictionary (List PackageId))}
    {entries : Option (List (String × List PackageId))}
    (order : Option.Rel List.Perm entries (graph.map Dictionary.entries)) :
    OptionalForm GraphForm graph (entriesJson entries).write := by
  -- Without a graph null is written, and a graph may list its entries in any order.
  cases graph with
  | none =>
    cases order
    rfl
  | some graph =>
    cases order with
    | some order => exact ⟨_, order, entriesForm_write (listForm_write packageIdForm_toJson) _⟩

/-- The JSON form of a manifest, the entries of its dependency graph in a given order. -/
def Manifest.toJsonInOrder (manifest : Manifest) (entries : Option (List (String × List PackageId))) :
    Value :=
  .object [("ecosystem", .text manifest.ecosystem.documentName), ("path", .text manifest.path),
    ("display_path", .ofText? manifest.displayPath),
    ("packages", .list (manifest.packages.map ManifestPackage.toJson)),
    ("dependency_graph", entriesJson entries)]

/-- A manifest is written with the entries of its dependency graph in ascending order. -/
theorem Manifest.toJson_eq (manifest : Manifest) :
    manifest.toJson = manifest.toJsonInOrder (manifest.dependencyGraph.map Dictionary.entries) := by
  cases graph : manifest.dependencyGraph <;> simp [toJson, toJsonInOrder, graph, graphJson, entriesJson]

end Writing

/-- What is read back of a manifest. -/
structure Manifest.ReadBack (manifest : Manifest) : Prop where
  /-- Every document that renders the manifest is read as the manifest. -/
  rendered : ∀ document, manifest.Renders document → ofJson document = .ok manifest
  /-- The manifest is written as such a document, whatever order its dependencies are written in. -/
  written : ∀ entries, Option.Rel List.Perm entries (manifest.dependencyGraph.map Dictionary.entries) →
    manifest.Renders (String.ofList (manifest.toJsonInOrder entries).write)
  /-- What the manifest is written as is read as the manifest. -/
  returned : ofJson (String.ofList manifest.toJson.write) = .ok manifest

theorem Manifest.ofJson_of_renders {manifest : Manifest} {document : String}
    (renders : manifest.Renders document) : ofJson document = .ok manifest := by
  obtain ⟨padded, written, same⟩ := renders
  rw [ofJson, same]
  exact Reads.whole reads_manifest written

theorem Manifest.renders_toJsonInOrder {manifest : Manifest}
    {entries : Option (List (String × List PackageId))}
    (order : Option.Rel List.Perm entries (manifest.dependencyGraph.map Dictionary.entries)) :
    manifest.Renders (String.ofList (manifest.toJsonInOrder entries).write) := by
  refine ⟨.bare (manifest.toJsonInOrder entries).write, ?_, by simp [Padded.whole, Padded.bare]⟩
  exact Written.record (.cons ⟨rfl, ecosystemForm_toJson _⟩ (.cons ⟨rfl, textForm_writeText _⟩
    (.cons ⟨rfl, optionalForm_text _⟩ (.cons ⟨rfl, listForm_write manifestPackageForm_toJson _⟩
      (.cons ⟨rfl, optionalForm_entriesJson order⟩ .nil))))) (by decide)

/-- Every document that renders a manifest is read as exactly that manifest, and so is the document that
the manifest is written as. -/
theorem Manifest.documents_read_back (manifest : Manifest) : manifest.ReadBack where
  rendered _ renders := ofJson_of_renders renders
  written _ order := renders_toJsonInOrder order
  returned := by
    -- The document that is written lists the graph in the order that the manifest has it in.
    rw [toJson_eq]
    refine ofJson_of_renders (renders_toJsonInOrder ?_)
    cases manifest.dependencyGraph with
    | none => exact .none
    | some graph => exact .some (.refl _)

section Odd

/-- A manifest of one package, from a strange ecosystem. -/
def oddManifest : Manifest :=
  ⟨.unknown, "😀/", none, [⟨"left", "1", none⟩], none⟩

/-- A rendering of the manifest as a list that stops before the dependency graph: its strange ecosystem is
the only name of an object, and the package has its fields in another order behind a value that only well
formed documents hold. -/
def oddDocument : String :=
  "[ \x7b\"\\u0048ex\":null\x7d,\"\\uD83d\\ude00/\",null," ++
    "[\x7b\"odd\":[1e999,\"\\ud800\"],\"version\":\"1\",\"name\":\"left\"\x7d] ]"

/-- The name of its ecosystem is written with an escape. -/
theorem textForm_oddName : TextForm "Hex" "\"\\u0048ex\"".toList := by
  have unit : CodeUnit 'H'.toNat ['0', '0', '4', '8'] :=
    .digits (.inl rfl : IsHexDigit 0 _) (.inl rfl : IsHexDigit 0 _) (.inl rfl : IsHexDigit 4 _)
      (.inl rfl : IsHexDigit 8 _)
  have chars : CharsForm ['H', 'e', 'x'] _ := .cons (.unit unit)
    (.cons (.raw (by decide) (by decide) (by decide))
      (.cons (.raw (by decide) (by decide) (by decide)) .nil))
  exact ⟨_, chars, by decide⟩

/-- Its path is written with a pair of surrogates. -/
theorem textForm_oddPath : TextForm "😀/" "\"\\uD83d\\ude00/\"".toList := by
  -- The first character is a pair of code units, the other one stands for itself.
  have leading : CodeUnit 0xD83D ['D', '8', '3', 'd'] :=
    .digits (.inr rfl : IsHexDigit 13 _) (.inl rfl : IsHexDigit 8 _) (.inl rfl : IsHexDigit 3 _)
      (.inl rfl : IsHexDigit 13 _)
  have trailing : CodeUnit 0xDE00 ['d', 'e', '0', '0'] :=
    .digits (.inl rfl : IsHexDigit 13 _) (.inl rfl : IsHexDigit 14 _) (.inl rfl : IsHexDigit 0 _)
      (.inl rfl : IsHexDigit 0 _)
  have chars : CharsForm ['😀', '/'] _ :=
    .cons (.pair leading trailing (by decide) (by decide) (by decide))
      (.cons (.raw (by decide) (by decide) (by decide)) .nil)
  exact ⟨_, chars, by decide⟩

/-- What stands in its package under a strange name is well formed. -/
theorem wellFormed_oddList : WellFormed "[1e999,\"\\ud800\"]".toList := by
  -- Neither the number nor the code unit could be read, but both can be passed over.
  have large : NumberText ([] ++ ['1'] ++ [] ++ ('e' :: ([] ++ ['9', '9', '9']))) :=
    .mk (.inl rfl) ⟨by simp, by simp⟩ (by simp) (.inl rfl)
      (.inr ⟨'e', [], ['9', '9', '9'], .inl rfl, .inl rfl, ⟨by simp, by simp⟩, rfl⟩)
  have lone : CodeUnit 0xD800 ['d', '8', '0', '0'] :=
    .digits (.inl rfl : IsHexDigit 13 _) (.inl rfl : IsHexDigit 8 _) (.inl rfl : IsHexDigit 0 _)
      (.inl rfl : IsHexDigit 0 _)
  have text : PassedText ('"' :: [['\\', 'u', 'd', '8', '0', '0']].flatten ++ ['"']) :=
    ⟨_, List.forall_mem_singleton.2 (.unit lone), rfl⟩
  have list : WellFormed (listText [] [.bare _, .bare _]) :=
    .list .nil (List.forall_mem_cons.2 ⟨.number large, List.forall_mem_singleton.2 (.text text)⟩)
  exact list

/-- Its package has its fields in another order, behind the strange name. -/
theorem packageForm_odd : ManifestPackageForm ⟨"left", "1", none⟩
    "\x7b\"odd\":[1e999,\"\\ud800\"],\"version\":\"1\",\"name\":\"left\"\x7d".toList := by
  let members : List (String × Member) := [
    ("odd", .bare (writeText "odd".toList) "[1e999,\"\\ud800\"]".toList),
    ("version", .bare (writeText "version".toList) (writeText "1".toList)),
    ("name", .bare (writeText "name".toList) (writeText "left".toList))]
  -- Each member is what its field asks for, or is strange and well formed.
  have record : ManifestPackageForm ⟨"left", "1", none⟩ (objectText [] (members.map Prod.snd)) := by
    refine .named .nil ?_ ?_ ?_ (by decide) ?_
    · simp only [members, List.forall_mem_cons]
      exact ⟨textForm_writeText _, textForm_writeText _, textForm_writeText _, nofun⟩
    · simp only [members, List.forall_mem_cons]
      exact ⟨⟨nofun, nofun, nofun, nofun⟩, ⟨nofun, fun _ => textForm_writeText _, nofun, nofun⟩,
        ⟨fun _ => textForm_writeText _, nofun, nofun, nofun⟩, nofun⟩
    · simp only [members, List.forall_mem_cons]
      exact ⟨fun _ => wellFormed_oddList, fun strange => absurd (by decide) strange,
        fun strange => absurd (by decide) strange, nofun⟩
    · simp only [members, List.forall_mem_cons]
      exact ⟨.inr (by decide), .inr (by decide), .inl rfl, nofun⟩
  -- What is left is that the text is the one that these members write.
  have same : "\x7b\"odd\":[1e999,\"\\ud800\"],\"version\":\"1\",\"name\":\"left\"\x7d".toList =
      objectText [] (members.map Prod.snd) := by decide +kernel
  rw [same]
  exact record

theorem gap_space : Gap [' '] := by simp [Gap]

/-- The odd document is a rendering of the odd manifest. -/
theorem renders_oddDocument : oddManifest.Renders oddDocument := by
  have strange : "Hex" ∉ Ecosystem.known.map Ecosystem.name := by decide
  -- The ecosystem has a strange name and the long form, and its name holds an escape.
  have ecosystem : EcosystemForm .unknown "\x7b\"\\u0048ex\":null\x7d".toList :=
    ⟨"Hex", strange, .inr ⟨[], .bare "\"\\u0048ex\"".toList "null".toList, .nil, textForm_oddName, rfl,
      by decide⟩⟩
  have packages : ListForm ManifestPackageForm [⟨"left", "1", none⟩] _ :=
    ⟨[], [.bare _], .nil, .cons packageForm_odd .nil, rfl⟩
  -- The record is a list that stops in front of the graph.
  have record : ManifestForm oddManifest
      (listText [' '] [.bare _, .bare _, .bare _, ⟨[], _, [' '], .nil, gap_space⟩]) :=
    .listed (rfl : _ = [_, _, _, _] ++ [_]) gap_space
      (.cons ecosystem (.cons textForm_oddPath (.cons rfl (.cons packages .nil))))
      (List.forall_mem_singleton.2 rfl)
  exact ⟨.bare _, record, by decide +kernel⟩

/-- The odd rendering is read as its manifest. -/
theorem Manifest.documents_read_back_of_oddDocument :
    oddManifest.Renders oddDocument ∧ Manifest.ofJson oddDocument = .ok oddManifest :=
  ⟨renders_oddDocument, (Manifest.documents_read_back oddManifest).rendered _ renders_oddDocument⟩

end Odd

end InsightRelay
