import InsightRelay.Command.Run
import InsightRelay.Proofs.Relay.Visit

/-! Configurations on their way to a relay: what is read from a document, what the environment and the
options change of it, and that a relay can always ask for sessions with the outcome. -/

namespace InsightRelay

open Command Relay

namespace Config

/-- A configuration comes from a document that was accepted, by itself or with the credentials of the
environment. -/
inductive Accepted : (document : String) → (found : Credentials) → (config : Config) → Prop
  | text {document : String} {config : Config} (parsed : parse document = .ok config) :
    Accepted document ⟨none, none, none⟩ config
  | file {document : String} {found : Credentials} {config : Config}
    (loaded : load (.ok document) found = .ok config) : Accepted document found config

/-- A configuration can be used, and it is what was read but for what has changed it since. -/
structure Usable (read : Config) (found : Credentials) (options : Options) (config : Config) :
    Prop where
  valid : config.validate = .ok config
  manned : 1 ≤ config.effectiveWorkerCount
  /-- The environment sets the credentials that it has, and the options set what they are about. -/
  same : config = { read with
    token := found.token <|> read.token
    tenantId := found.tenantId <|> read.tenantId
    mockUser := found.mockUser <|> read.mockUser
    multiProject := options.multiProject || read.multiProject
    workerCount := options.workers.getD read.workerCount }

/-- What the options change is not checked. -/
theorem fault?_adjust (options : Options) (config : Config) :
    (options.adjust config).fault? = config.fault? := rfl

/-- A configuration that was accepted is one that was read, with the credentials of the environment. -/
theorem Accepted.read {document : String} {found : Credentials} {config : Config}
    (accepted : Accepted document found config) : ∃ read, ofToml document = .ok read ∧
      config = read.withCredentials found ∧ config.fault? = none := by
  -- Both ways read the document and check what comes of it.
  cases accepted with
  | text parsed =>
    unfold parse at parsed
    cases made : ofToml document with
    | error problem => simp [made, bind, Except.bind] at parsed
    | ok read =>
      simp only [made, bind, Except.bind, validate_eq_ok_iff] at parsed
      -- The check hands on what it was given.
      obtain ⟨faultless, rfl⟩ := parsed
      exact ⟨read, rfl, rfl, faultless⟩
  | file loaded =>
    unfold load at loaded
    cases made : ofToml document with
    | error problem => simp [made, bind, Except.bind, Except.mapError] at loaded
    | ok read =>
      simp only [made, bind, Except.bind, Except.mapError, validate_eq_ok_iff] at loaded
      obtain ⟨faultless, rfl⟩ := loaded
      exact ⟨read, rfl, rfl, faultless⟩

/-- A configuration that was accepted can be used, whatever the options say. -/
theorem Accepted.usable {document : String} {found : Credentials} {config : Config}
    (accepted : Accepted document found config) (options : Options) :
    ∃ read, ofToml document = .ok read ∧ Usable read found options (options.adjust config) := by
  obtain ⟨read, made, rfl, faultless⟩ := accepted.read
  refine ⟨read, made, ?_, effectiveWorkerCount_pos _, rfl⟩
  exact validate_eq_ok_iff.2 ⟨(fault?_adjust options _).trans faultless, rfl⟩

end Config

namespace Relay

/-- Whatever document was accepted and whatever the options say, the configuration can be used, and for
every configuration without faults a request for a session can be written at the start and in every
run: whoever finds the queue open and no session makes one call. -/
theorem session_requests_never_fail :
    (∀ document found config, Config.Accepted document found config → ∀ options : Options,
      ∃ read, Config.ofToml document = .ok read ∧
        Config.Usable read found options (options.adjust config)) ∧
    ∀ (σ : Type) (config : Config) (service : Service σ) (state : σ),
      config.validate = .ok config → StartsAsking config service state ∧
        ∀ start actions relay, launch config service state = .ok start →
          start.run actions = some relay → AlwaysAsks config start actions relay := by
  constructor
  · -- Neither the environment nor the options touch what is checked.
    intro document found config accepted options
    exact accepted.usable options
  · -- What is checked is all that a request can fail for, and no run changes it.
    intro σ config service state valid
    refine ⟨startsAsking_of_validate valid, fun start actions relay launched ran => ?_⟩
    exact alwaysAsks_of_run (fresh_of_launch launched) valid ran

/-- A document to rehearse with, which names a part of a revision. -/
def revisedDocument : String :=
  "base_url = \"http://host\"\nproject_name = \"p\"\ngit_sha = \"4f2a\""

/-- Options to rehearse with, which call for a session for each manifest and for one worker. -/
def revisedOptions : Options where
  config := "sync.toml"
  multiProject := true
  workers := some 1
  logLevel := "info"
  manifests := ["web.json"]

/-- The configuration that comes of them where the environment has a token. -/
def revisedConfig : Config where
  baseUrl := "http://host"
  token := some "t"
  multiProject := true
  projectName := "p"
  gitSha := some "4f2a"
  workerCount := 1

/-- A run to rehearse with: task 1 brings a manifest, and finds no session for it. -/
def rehearsalOfVisit : List Action :=
  [.arrive (.addManifest webManifest)] ++ steps 1 3

/-- In the rehearsal the manifest is asked a session for, with the part of the revision. -/
theorem session_requests_never_fail_in_rehearsal : ∃ read start relay request,
    Config.ofToml revisedDocument = .ok read ∧
      Config.Usable read ⟨some "t", none, none⟩ revisedOptions revisedConfig ∧
      StartsAsking revisedConfig Script.smooth.service 0 ∧
      launch revisedConfig Script.smooth.service 0 = .ok start ∧
      start.run rehearsalOfVisit = some relay ∧
      AlwaysAsks revisedConfig start rehearsalOfVisit relay ∧
      start.asksOf rehearsalOfVisit 1 = [request] ∧
      request.gitRef = some ⟨none, none, none, some "4f2a"⟩ := by
  -- The document is accepted, read, launched with, and the visit is rehearsed with what was read.
  have accepted : Config.Accepted revisedDocument ⟨some "t", none, none⟩
      { revisedConfig with multiProject := false, workerCount := 0 } := .file (by decide +kernel)
  obtain ⟨read, made, usable⟩ :=
    session_requests_never_fail.1 _ _ _ accepted revisedOptions
  have launched : launch revisedConfig Script.smooth.service 0 = .ok _ := rfl
  obtain ⟨starts, runs⟩ :=
    session_requests_never_fail.2 Nat revisedConfig Script.smooth.service 0 usable.valid
  have asks := runs _ rehearsalOfVisit _ launched rfl
  exact ⟨read, _, _, _, made, usable, starts, launched, rfl, asks, rfl, rfl⟩

end Relay

end InsightRelay
