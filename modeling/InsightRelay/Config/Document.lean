import InsightRelay.Config.Basic
import InsightRelay.Toml.Record

/-! Configuration documents: the TOML form of configurations. -/

namespace InsightRelay

open Toml

/-- An optional text of a document, which is never written as missing. -/
def givenText (value : Value) : Except Fault (Option String) :=
  (text value).map some

/-- The fields of a configuration document. -/
def Config.layout : Layout Config where
  blank := { baseUrl := "", projectName := "" }
  fields := [
    .needed "base_url" text fun value config => { config with baseUrl := value },
    .defaulted "token" givenText fun value config => { config with token := value },
    .defaulted "tenant_id" givenText fun value config => { config with tenantId := value },
    .defaulted "mock_user" givenText fun value config => { config with mockUser := value },
    .defaulted "enable_multi_project_sync" boolean fun value config =>
      { config with multiProject := value },
    .needed "project_name" text fun value config => { config with projectName := value },
    .defaulted "project_version" text fun value config => { config with projectVersion := value },
    .defaulted "trigger" text fun value config => { config with trigger := value },
    .defaulted "git_ref" givenText fun value config => { config with gitRef := value },
    .defaulted "git_ref_name" givenText fun value config => { config with gitRefName := value },
    .defaulted "git_ref_type" givenText fun value config => { config with gitRefType := value },
    .defaulted "git_sha" givenText fun value config => { config with gitSha := value },
    .defaulted "worker_count" (natural .count) fun value config =>
      { config with workerCount := value },
    .defaulted "queue_capacity" (natural .count) fun value config =>
      { config with queueCapacity := value },
    .defaulted "max_retries" (natural .natural32) fun value config =>
      { config with maxRetries := value },
    .defaulted "request_timeout_secs" (natural .natural64) fun value config =>
      { config with requestTimeoutSeconds := value },
    .defaulted "connect_timeout_secs" (natural .natural64) fun value config =>
      { config with connectTimeoutSeconds := value },
    .defaulted "tool_name" text fun value config => { config with toolName := value },
    .defaulted "tool_version" text fun value config => { config with toolVersion := value }]

/-- The configuration that a TOML document holds, whether it can be used or not. -/
def Config.ofToml (document : String) : Except RelayError Config :=
  (Config.layout.read document).mapError .toml

/-- The configuration that a TOML document holds, provided it can be used. -/
def Config.parse (document : String) : Except RelayError Config := do
  (← Config.ofToml document).validate

/-- The configuration of a file, with credentials from the environment in the place of its own. -/
def Config.load (file : Except FileFault String) (found : Credentials) :
    Except RelayError Config := do
  let document ← file.mapError .file
  -- The check comes behind the credentials; none of its rules is about them.
  ((← Config.ofToml document).withCredentials found).validate

end InsightRelay
