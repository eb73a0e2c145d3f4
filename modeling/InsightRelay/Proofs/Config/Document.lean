import InsightRelay.Proofs.Config.Form
import InsightRelay.Proofs.Toml.Record
import InsightRelay.Config.Document

/-! Configuration documents read back: every document of a configuration gives that configuration, or the
first of its faults. -/

namespace InsightRelay

open Toml

namespace Config

section Slots

theorem accepts_givenText (value : Option String) :
    Accepts givenText (fun value text => ∃ inner, value = some inner ∧ BasicForm inner text) value := by
  rintro text ⟨inner, rfl, form⟩
  refine ⟨(accepts_text inner form).1, (accepts_text inner form).2.imp fun found same => ?_⟩
  rw [givenText, same]
  rfl

/-- The fields of a configuration, as they are read and written. -/
def slots : List (Slot Config) := [
  .needed "base_url" text BasicForm baseUrl fun value config => { config with baseUrl := value },
  .optional "token" givenText BasicForm token fun value config => { config with token := value },
  .optional "tenant_id" givenText BasicForm tenantId fun value config => { config with tenantId := value },
  .optional "mock_user" givenText BasicForm mockUser fun value config => { config with mockUser := value },
  .defaulted "enable_multi_project_sync" false boolean BooleanForm multiProject fun value config =>
    { config with multiProject := value },
  .needed "project_name" text BasicForm projectName
    fun value config => { config with projectName := value },
  .defaulted "project_version" "" text BasicForm projectVersion fun value config =>
    { config with projectVersion := value },
  .defaulted "trigger" "manual" text BasicForm trigger fun value config => { config with trigger := value },
  .optional "git_ref" givenText BasicForm gitRef fun value config => { config with gitRef := value },
  .optional "git_ref_name" givenText BasicForm gitRefName fun value config =>
    { config with gitRefName := value },
  .optional "git_ref_type" givenText BasicForm gitRefType fun value config =>
    { config with gitRefType := value },
  .optional "git_sha" givenText BasicForm gitSha fun value config => { config with gitSha := value },
  .defaulted "worker_count" 0 (natural .count) NaturalForm workerCount fun value config =>
    { config with workerCount := value },
  .defaulted "queue_capacity" 1000 (natural .count) NaturalForm queueCapacity fun value config =>
    { config with queueCapacity := value },
  .defaulted "max_retries" 3 (natural .natural32) NaturalForm maxRetries fun value config =>
    { config with maxRetries := value },
  .defaulted "request_timeout_secs" 30 (natural .natural64) NaturalForm requestTimeoutSeconds
    fun value config => { config with requestTimeoutSeconds := value },
  .defaulted "connect_timeout_secs" 10 (natural .natural64) NaturalForm connectTimeoutSeconds
    fun value config => { config with connectTimeoutSeconds := value },
  .defaulted "tool_name" "insight-sync" text BasicForm toolName fun value config =>
    { config with toolName := value },
  .defaulted "tool_version" "0.1.0" text BasicForm toolVersion fun value config =>
    { config with toolVersion := value }]

/-- The fields make up a configuration, and the blank one has the defaults. -/
theorem makeUp_slots : Part.MakeUp layout.blank (slots.map Slot.part) where
  idle := by
    -- A field that has to be given is idle for no value, and any other one has the default of the blank.
    have each : ∀ slot ∈ slots, slot.Idle layout.blank := by
      simp only [slots, List.forall_mem_cons]
      exact ⟨Slot.needed_idle, Slot.optional_idle rfl, Slot.optional_idle rfl, Slot.optional_idle rfl,
        Slot.defaulted_idle rfl, Slot.needed_idle, Slot.defaulted_idle rfl, Slot.defaulted_idle rfl,
        Slot.optional_idle rfl, Slot.optional_idle rfl, Slot.optional_idle rfl, Slot.optional_idle rfl,
        Slot.defaulted_idle rfl, Slot.defaulted_idle rfl, Slot.defaulted_idle rfl, Slot.defaulted_idle rfl,
        Slot.defaulted_idle rfl, Slot.defaulted_idle rfl, Slot.defaulted_idle rfl, nofun⟩
    exact List.forall_mem_map.2 each
  covers := by simp [slots, Slot.part, Slot.needed, Slot.optional, Slot.defaulted]
  distinct := by decide
  apart := by simp [slots, Slot.part, Slot.needed, Slot.optional, Slot.defaulted]
  whole := by
    intro value
    -- Copied field by field, the blank configuration becomes the given one.
    simp only [slots, Slot.part, Slot.needed, Slot.optional, Slot.defaulted, List.map_cons, List.map_nil,
      List.foldl_cons, List.foldl_nil]

/-- A configuration whose integers fit is made of its fields. -/
theorem madeOf_slots {config : Config} (fits : config.Fits) : layout.MadeOf slots config where
  fields := rfl
  fits := by
    have texts := accepts_text
    have given := accepts_givenText
    -- Counts are bounded by their own ranges, and an integer of the document by sixty-three bits.
    have count : ∀ value, value < 2 ^ 63 → Accepts (natural .count) NaturalForm value := by
      intro value small
      have top : IntegerRange.count.greatest = 2 ^ 64 - 1 := by decide
      exact accepts_natural (by decide) (by omega) small
    have wide : ∀ value, value < 2 ^ 63 → Accepts (natural .natural64) NaturalForm value := by
      intro value small
      have top : IntegerRange.natural64.greatest = 2 ^ 64 - 1 := by decide
      exact accepts_natural (by decide) (by omega) small
    have narrow : ∀ value, value < 2 ^ 32 → Accepts (natural .natural32) NaturalForm value := by
      intro value small
      have top : IntegerRange.natural32.greatest = 2 ^ 32 - 1 := by decide
      exact accepts_natural (by decide) (by omega) (by omega)
    simp only [slots, List.forall_mem_cons]
    -- In the order of the layout, each field by what accepts its kind of value.
    exact ⟨Slot.needed_fits (texts _), Slot.optional_fits (given _), Slot.optional_fits (given _),
      Slot.optional_fits (given _), Slot.defaulted_fits (accepts_boolean _), Slot.needed_fits (texts _),
      Slot.defaulted_fits (texts _), Slot.defaulted_fits (texts _), Slot.optional_fits (given _),
      Slot.optional_fits (given _), Slot.optional_fits (given _), Slot.optional_fits (given _),
      Slot.defaulted_fits (count _ fits.workerCount), Slot.defaulted_fits (count _ fits.queueCapacity),
      Slot.defaulted_fits (narrow _ fits.maxRetries),
      Slot.defaulted_fits (wide _ fits.requestTimeoutSeconds),
      Slot.defaulted_fits (wide _ fits.connectTimeoutSeconds), Slot.defaulted_fits (texts _),
      Slot.defaulted_fits (texts _), nofun⟩
  makeUp := makeUp_slots

end Slots

section Checks

variable {config : Config} {fault : ConfigFault}

/-- The fault that is found is that of the first check that fails. -/
theorem firstFault_of_fault? (found : config.fault? = some fault) : config.FirstFault fault := by
  -- The checks come one after the other, and the one found is the first that fails.
  rw [fault?] at found
  split_ifs at found with url name zero
  · obtain rfl := Option.some.inj found
    exact .baseUrl url
  · obtain rfl := Option.some.inj found
    exact .projectName (Bool.eq_false_iff.2 url) name
  · obtain rfl := Option.some.inj found
    exact .queueCapacity (Bool.eq_false_iff.2 url) (Bool.eq_false_iff.2 name) zero
  · rw [toolTrigger] at found
    split_ifs at found with manual ci
    simp only [Option.some.injEq] at found
    subst found
    refine .trigger (Bool.eq_false_iff.2 url) (Bool.eq_false_iff.2 name) zero ?_
    -- A name that is none of those that the reading knows is none of those that a trigger has.
    simp only [triggerNames, List.mem_cons, List.not_mem_nil, or_false]
    tauto

/-- A configuration that is not passed on has a first fault. -/
theorem validate_refused (refused : config.validate ≠ .ok config) :
    ∃ fault, config.FirstFault fault ∧ config.validate = .error (.config fault) := by
  cases found : config.fault? with
  | none => exact absurd (by rw [validate, found]) refused
  | some fault => exact ⟨fault, firstFault_of_fault? found, by rw [validate, found]⟩

end Checks

/-- A document of a configuration, within the limits of the reader, is read as exactly that configuration,
or refused for the first check that the configuration fails. -/
theorem configurations_read_back {config : Config} {source : String} (fits : config.Fits)
    (given : config.Gives True source) : config.ReadBack (parse source) := by
  obtain ⟨document, written, form⟩ := given
  -- Reading gives the configuration back, so that parsing it comes down to its checks.
  have read : ofToml source = .ok config := by
    rw [ofToml, (madeOf_slots fits).read written form]
    rfl
  have parsed : parse source = config.validate := by
    rw [parse, read]
    rfl
  constructor
  · exact parsed.trans
  · intro refused
    rw [parsed]
    exact validate_refused refused

section Lines

variable {limited : Prop} {config : Config}

/-- A key and its value with single spaces around the equals sign. -/
def spaced (path : List String) (key value : String) : Entry :=
  have space : Gap [' '] := by simp [Gap]
  ⟨[], path, key.toList, [' '], [' '], value.toList, [], .nil, space, space, .nil⟩

/-- A line with nothing behind its value. -/
def line (entry : Entry) : Row :=
  ⟨some entry, [], [], .nil, .inl rfl⟩

/-- A name without quotes is a key. -/
theorem keyForm_bare (name : String) (some : name.toList ≠ [])
    (plain : ∀ char ∈ name.toList, char.isAlphanum = true ∨ char = '-' ∨ char = '_') :
    KeyForm name name.toList :=
  .bare some plain

/-- Characters may stand for themselves. -/
theorem charsForm_raw {chars : List Char}
    (plain : ∀ char ∈ chars, Printable char ∧ char ≠ '"' ∧ char ≠ '\\') : CharsForm chars chars := by
  induction chars with
  | nil => exact .nil
  | cons char chars ih =>
    have ⟨⟨printable, unquoted, unescaped⟩, others⟩ := List.forall_mem_cons.1 plain
    exact .cons (.raw printable unquoted unescaped) (ih others)

/-- The fields of a configuration have names of their own. -/
theorem distinct_fieldForms : (fieldForms.map FieldForm.name).Nodup := by decide

/-- The line of a field without quotes around its name. -/
theorem entryForm_field {field : FieldForm Config} {value : String} (listed : field ∈ fieldForms)
    (form : field.form config value.toList) :
    EntryForm limited fieldForms config (spaced [field.name] field.name value) := by
  have bare : ∀ name ∈ fieldForms.map FieldForm.name, name.toList ≠ [] ∧
      ∀ char ∈ name.toList, char.isAlphanum = true ∨ char = '-' ∨ char = '_' := by decide
  have ⟨nonempty, plain⟩ := bare field.name (List.mem_map_of_mem listed)
  exact .known listed (keyForm_bare field.name nonempty plain) rfl form

end Lines

section Odd

/-- A configuration that leaves all but three fields at their defaults. -/
def oddConfig : Config :=
  { baseUrl := "u", projectName := "be", queueCapacity := 20 }

/-- A list of a float and, behind a comment, a table. -/
def oddList : String :=
  "[1e3, # more\n \x7bk = -inf\x7d]"

/-- A document of the configuration: it has comments, a line end of another make, an escape, an integer that
is written oddly and, in the midst of its fields, a strange key with a point. -/
def oddDocument : String :=
  "\t# odd\nproject_name = \"b\\u0065\" # escaped\r\nx.'a b' = " ++ oddList ++
    "\nqueue_capacity = +2_0\nbase_url = \"u\""

/-- The lines of the document. -/
def oddRows : Rows where
  rows := [
    (⟨none, ['\t'], "# odd".toList, by simp [Gap], .inr ⟨" odd".toList, by simp [Printable], rfl⟩⟩, ['\n']),
    (⟨some (spaced ["project_name"] "project_name" "\"b\\u0065\""), [' '], "# escaped".toList,
      by simp [Gap], .inr ⟨" escaped".toList, by simp [Printable], rfl⟩⟩, ['\r', '\n']),
    (line (spaced ["x", "a b"] "x.'a b'" oddList), ['\n']),
    (line (spaced ["queue_capacity"] "queue_capacity" "+2_0"), ['\n'])]
  last := line (spaced ["base_url"] "base_url" "\"u\"")
  newlines := by simp [Newline]

/-- The keys of the document. -/
theorem entries_oddRows : oddRows.entries = [
    spaced ["project_name"] "project_name" "\"b\\u0065\"", spaced ["x", "a b"] "x.'a b'" oddList,
    spaced ["queue_capacity"] "queue_capacity" "+2_0", spaced ["base_url"] "base_url" "\"u\""] := rfl

theorem basicForm_oddName : BasicForm "be" "\"b\\u0065\"".toList := by
  have digits : HexDigits 4 'e'.toNat ['0', '0', '6', '5'] := ⟨rfl, by decide, by decide⟩
  have chars : CharsForm ['b', 'e'] _ := .cons (.raw (by simp [Printable]) (by decide) (by decide))
    (.cons (.escape (.short digits)) .nil)
  exact ⟨_, chars, by decide⟩

theorem basicForm_url : BasicForm "u" "\"u\"".toList := by
  have chars : CharsForm ['u'] ['u'] := charsForm_raw (by simp [Printable])
  exact ⟨_, chars, by decide⟩

theorem naturalForm_oddCapacity : NaturalForm 20 "+2_0".toList := by
  have grouped : Grouped 10 ['2', '0'] ['2', '_', '0'] := .underscore (by decide) (.single (by decide))
  exact .natural (.inr rfl) ⟨grouped, by simp⟩

/-- Its strange key has a point between a part without quotes and a quoted one. -/
theorem pathForm_oddKey : PathForm ["x", "a b"] "x.'a b'".toList := by
  have quoted : KeyForm "a b" "'a b'".toList := .literal ⟨by simp [Printable], by decide⟩
  exact .more (keyForm_bare "x" (by decide) (by decide)) .nil .nil (.last quoted)

theorem valueText_oddTable : ValueText True 1 "\x7bk = -inf\x7d".toList := by
  have infinite : FloatText True (['-'] ++ "inf".toList) := .special (.inr (.inr rfl)) (.inl rfl)
  have table : ValueText True 1 ('\x7b' :: ([] ++
      (separated ([spaced ["k"] "k" "-inf"].map Entry.whole) ++ ['\x7d']))) := by
    refine .table .nil ?_ (List.forall_mem_singleton.2 (.float infinite)) (by simp)
      (by simp [spaced, partLimit])
    exact List.forall_mem_singleton.2 (.last (keyForm_bare "k" (by decide) (by decide)))
  exact table

/-- Elements with commas between them make a list. -/
theorem valueText_elements {limited : Prop} {depth : Nat} {elements : List Element}
    (each : ∀ element ∈ elements, ValueText limited depth element.text) :
    ValueText limited (depth + 1) ('[' :: (separated (elements.map Element.whole) ++ [']'])) := by
  have list : ValueText limited (depth + 1)
      ('[' :: (separated (elements.map Element.whole) ++ ([] ++ ([] ++ [']'])))) :=
    .list .nil each (.inl rfl)
  exact list

/-- What the strange key stands for is well formed. -/
theorem valueText_oddList : ValueText True 2 oddList.toList := by
  -- A float with an exponent, then a comment and a line break, and then a table inside the list.
  have whole : WholeForm ['1'] ['1'] := ⟨.single (by decide), by simp⟩
  have digit : Grouped 10 ['3'] ['3'] := .single (by decide)
  have power : PowerForm 3 ['e', '3'] := .up (.inl rfl) (.inl rfl) digit
  have fits : True → ¬ Overflows [] ['1'] 3 := by
    rintro - ⟨-, none⟩
    exact absurd none (by decide +kernel)
  have float : ValueText True 1 "1e3".toList := .float (.power (.inl rfl) whole power fits)
  have filler : Filler " # more\n ".toList :=
    .gap (by decide) (.line (.inr ⟨" more".toList, by simp [Printable], rfl⟩) (.inl rfl)
      (.gap (by decide) .nil))
  -- The line break stands before the second element, where a filler may.
  let elements : List Element := [⟨[], "1e3".toList, [], .nil, .nil⟩,
    ⟨" # more\n ".toList, "\x7bk = -inf\x7d".toList, [], filler, .nil⟩]
  have each : ∀ element ∈ elements, ValueText True 1 element.text :=
    List.forall_mem_cons.2 ⟨float, List.forall_mem_singleton.2 valueText_oddTable⟩
  exact valueText_elements each

/-- The odd document gives the odd configuration. -/
theorem gives_oddDocument : oddConfig.Gives True oddDocument := by
  have name : FieldForm.needed "project_name" BasicForm projectName ∈ fieldForms := by simp [fieldForms]
  have capacity : FieldForm.defaulted "queue_capacity" 1000 NaturalForm queueCapacity ∈ fieldForms := by
    simp [fieldForms]
  have url : FieldForm.needed "base_url" BasicForm baseUrl ∈ fieldForms := by simp [fieldForms]
  -- Each key fits its field or is strange, the keys are apart and short, and nothing needed is left out.
  refine ⟨oddRows, by decide +kernel, .of_each distinct_fieldForms ?_ ?_ ?_ ?_⟩
  · simp only [entries_oddRows, List.forall_mem_cons]
    exact ⟨entryForm_field name basicForm_oddName,
      .other pathForm_oddKey (by decide) (fun _ => by decide) valueText_oddList,
      entryForm_field capacity naturalForm_oddCapacity, entryForm_field url basicForm_url, List.forall_mem_nil _⟩
  · simp [entries_oddRows, spaced, Apart]
  · simp [entries_oddRows, spaced, partLimit]
  · -- Two fields need a value and the capacity is given one; all others are left to their defaults.
    simp only [fieldForms, List.forall_mem_cons]
    exact ⟨.inr (by decide), .inl rfl, .inl rfl, .inl rfl, .inl rfl, .inr (by decide), .inl rfl, .inl rfl,
      .inl rfl, .inl rfl, .inl rfl, .inl rfl, .inl rfl, .inr (by decide), .inl rfl, .inl rfl, .inl rfl,
      .inl rfl, .inl rfl, List.forall_mem_nil _⟩

/-- The odd document is read as the odd configuration. -/
theorem configurations_read_back_of_oddDocument :
    oddConfig.Fits ∧ oddConfig.Gives True oddDocument ∧ parse oddDocument = .ok oddConfig := by
  have fits : oddConfig.Fits := ⟨by decide, by decide, by decide, by decide, by decide⟩
  exact ⟨fits, gives_oddDocument, (configurations_read_back fits gives_oddDocument).accepted (by decide)⟩

end Odd

section Beyond

/-- A configuration that leaves all fields but two at their defaults. -/
def plainConfig : Config :=
  { baseUrl := "u", projectName := "p" }

/-- A document of the configuration that gives a value to one strange key, too. -/
def plainDocument (value : String) : String :=
  "base_url = \"u\"\nproject_name = \"p\"\nx = " ++ value

/-- The lines of the document. -/
def plainRows (value : String) : Rows where
  rows := [(line (spaced ["base_url"] "base_url" "\"u\""), ['\n']),
    (line (spaced ["project_name"] "project_name" "\"p\""), ['\n'])]
  last := line (spaced ["x"] "x" value)
  newlines := by simp [Newline]

theorem entries_plainRows (value : String) : (plainRows value).entries = [
    spaced ["base_url"] "base_url" "\"u\"", spaced ["project_name"] "project_name" "\"p\"",
    spaced ["x"] "x" value] := rfl

theorem basicForm_name : BasicForm "p" "\"p\"".toList := by
  have chars : CharsForm ['p'] ['p'] := charsForm_raw (by simp [Printable])
  exact ⟨_, chars, by decide⟩

/-- The value of the strange key stands at the end of the document. -/
theorem text_plainRows (value : String) : (plainRows value).text = (plainRows "").text ++ value.toList := by
  simp only [plainRows, Rows.text, Row.text, line, Option.elim_some, Entry.whole, spaced, List.append_nil,
    List.append_assoc, List.cons_append, List.nil_append, String.toList_empty]

theorem written_plainRows (value : String) : (plainDocument value).toList = (plainRows value).text := by
  have start : "base_url = \"u\"\nproject_name = \"p\"\nx = ".toList = (plainRows "").text := by
    decide +kernel
  rewrite [text_plainRows, ← start]
  exact String.toList_append

/-- Whatever well-formed value the strange key has, the document gives the configuration. -/
theorem gives_plainDocument {value : String} {depth : Nat} (form : ValueText False depth value.toList) :
    plainConfig.Gives False (plainDocument value) := by
  have url : FieldForm.needed "base_url" BasicForm baseUrl ∈ fieldForms := by simp [fieldForms]
  have name : FieldForm.needed "project_name" BasicForm projectName ∈ fieldForms := by simp [fieldForms]
  have strange : ∀ field ∈ fieldForms, field.name ∉ ["x"].head? := by decide
  -- The two fields are given, the third key is strange, and no two paths are in each other's way.
  have paths : (plainRows value).entries.map Entry.path = [["base_url"], ["project_name"], ["x"]] := rfl
  refine ⟨plainRows value, written_plainRows value, .of_each distinct_fieldForms ?_ ?_ False.elim ?_⟩
  · simp only [entries_plainRows, List.forall_mem_cons]
    exact ⟨entryForm_field url basicForm_url, entryForm_field name basicForm_name,
      .other (.last (keyForm_bare "x" (by decide) (by decide))) strange False.elim form, List.forall_mem_nil _⟩
  · simp [entries_plainRows, spaced, Apart]
  · rw [paths]
    simp only [fieldForms, List.forall_mem_cons]
    -- All but the two given fields have the values that they have by default.
    exact ⟨.inr (by decide), .inl rfl, .inl rfl, .inl rfl, .inl rfl, .inr (by decide), .inl rfl, .inl rfl,
      .inl rfl, .inl rfl, .inl rfl, .inl rfl, .inl rfl, .inl rfl, .inl rfl, .inl rfl, .inl rfl, .inl rfl,
      .inl rfl, List.forall_mem_nil _⟩

/-- A float that rounds to infinity is well formed. -/
theorem valueText_large : ValueText False 0 "1e400".toList := by
  have whole : WholeForm ['1'] ['1'] := ⟨.single (by decide), by simp⟩
  have digits : Grouped 10 ['4', '0', '0'] ['4', '0', '0'] :=
    .digit (by decide) (.digit (by decide) (.single (by decide)))
  have power : PowerForm 400 ['e', '4', '0', '0'] := .up (.inl rfl) (.inl rfl) digits
  exact .float (.power (.inl rfl) whole power nofun)

/-- Lists inside each other. -/
def nested (depth : Nat) : String :=
  String.ofList (List.replicate depth '[' ++ List.replicate depth ']')

/-- Lists are well formed however deep they are nested. -/
theorem valueText_nested (depth : Nat) : ValueText False (depth + 1) (nested (depth + 1)).toList := by
  -- One more bracket on either side of a list makes the only element of the next one.
  induction depth with
  | zero =>
    have each : ∀ element ∈ [], ValueText False 0 (Element.text element) := nofun
    exact valueText_elements each
  | succ depth ih =>
    let element : Element := ⟨[], (nested (depth + 1)).toList, [], .nil, .nil⟩
    have each : ∀ inner ∈ [element], ValueText False (depth + 1) inner.text := List.forall_mem_singleton.2 ih
    have opened : List.replicate (depth + 1 + 1) '[' = '[' :: List.replicate (depth + 1) '[' :=
      List.replicate_succ
    have closed : List.replicate (depth + 1 + 1) ']' = List.replicate (depth + 1) ']' ++ [']'] :=
      List.replicate_succ'
    have whole : (nested (depth + 1 + 1)).toList = '[' :: ((nested (depth + 1)).toList ++ [']']) := by
      simp only [nested, String.toList_ofList, opened, closed, List.cons_append, List.append_assoc]
    rw [whole]
    -- Between the outer brackets stands the list of the depth before.
    simpa [separated, Element.whole, element] using valueText_elements each

/-- A key of equal parts. -/
def parts (count : Nat) : String :=
  String.ofList ('k' :: (List.replicate count ['.', 'k']).flatten)

theorem pathForm_parts (count : Nat) : PathForm (List.replicate (count + 1) "k") (parts count).toList := by
  -- Every further part stands in front of the others, with a point between them.
  have key : KeyForm "k" ['k'] := keyForm_bare "k" (by decide) (by decide)
  induction count with
  | zero => exact .last key
  | succ count ih =>
    have whole : (parts (count + 1)).toList = ['k'] ++ ([] ++ '.' :: ([] ++ (parts count).toList)) := by
      simp [parts, List.replicate_succ]
    rw [whole]
    exact .more key .nil .nil ih

/-- A table whose key has equal parts. -/
def tableOf (count : Nat) : String :=
  "\x7b" ++ parts count ++ " = 1\x7d"

/-- A key is well formed however many parts it has. -/
theorem valueText_tableOf (count : Nat) : ValueText False 1 (tableOf count).toList := by
  have digit : Grouped 10 ['1'] ['1'] := .single (by decide)
  have one : IntegerForm (numeralValue 10 ['1']) ([] ++ ['1']) := .natural (.inl rfl) ⟨digit, by simp⟩
  have table : ValueText False 1 ('\x7b' :: ([] ++ (separated
      ([spaced (List.replicate (count + 1) "k") (parts count) "1"].map Entry.whole) ++ ['\x7d']))) :=
    .table .nil (List.forall_mem_singleton.2 (pathForm_parts count))
      (List.forall_mem_singleton.2 (.integer one (by decide))) (by simp) nofun
  simpa [tableOf, separated, Entry.whole, spaced] using table

/-- Documents beyond the limits of the reader are refused: a float that rounds to infinity, lists that are
nested one level too deep, and a key with one part too many. -/
theorem configurations_refused : plainConfig.Fits ∧ plainConfig.validate = .ok plainConfig ∧
    (plainConfig.Gives False (plainDocument "1e400") ∧
      parse (plainDocument "1e400") = .error (.toml .malformed)) ∧
    (plainConfig.Gives False (plainDocument (nested (depthLimit + 1))) ∧
      parse (plainDocument (nested (depthLimit + 1))) = .error (.toml .malformed)) ∧
    plainConfig.Gives False (plainDocument (tableOf (partLimit - 1))) ∧
      parse (plainDocument (tableOf (partLimit - 1))) = .error (.toml .malformed) := by
  -- A document that is well formed and still not read is refused as malformed.
  have refused : ∀ value, document (plainDocument value) = none →
      parse (plainDocument value) = .error (.toml .malformed) := by
    intro value unread
    rw [parse, ofToml, Layout.read, unread]
    rfl
  refine ⟨⟨by decide, by decide, by decide, by decide, by decide⟩, by decide,
    ⟨gives_plainDocument valueText_large, refused _ ?_⟩,
    ⟨gives_plainDocument (valueText_nested depthLimit), refused _ ?_⟩,
    gives_plainDocument (valueText_tableOf (partLimit - 1)), refused _ ?_⟩
  · -- What is left is to run the reader on the three documents.
    exact Option.isNone_iff_eq_none.1 (by decide +kernel)
  · exact Option.isNone_iff_eq_none.1 (by decide +kernel)
  · exact Option.isNone_iff_eq_none.1 (by decide +kernel)

end Beyond

end Config

end InsightRelay
