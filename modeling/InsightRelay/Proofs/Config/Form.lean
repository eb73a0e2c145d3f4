import InsightRelay.Proofs.Toml.Form
import InsightRelay.Config.Basic

/-! Forms of configurations: the TOML documents that a configuration may be written as, and the fault that
is found first in a configuration that cannot be used. -/

namespace InsightRelay

open Toml

namespace Config

/-- How the fields of a configuration are written. -/
def fieldForms : List (FieldForm Config) := [
  .needed "base_url" BasicForm baseUrl,
  .optional "token" BasicForm token,
  .optional "tenant_id" BasicForm tenantId,
  .optional "mock_user" BasicForm mockUser,
  .defaulted "enable_multi_project_sync" false BooleanForm multiProject,
  .needed "project_name" BasicForm projectName,
  .defaulted "project_version" "" BasicForm projectVersion,
  .defaulted "trigger" "manual" BasicForm trigger,
  .optional "git_ref" BasicForm gitRef,
  .optional "git_ref_name" BasicForm gitRefName,
  .optional "git_ref_type" BasicForm gitRefType,
  .optional "git_sha" BasicForm gitSha,
  .defaulted "worker_count" 0 NaturalForm workerCount,
  .defaulted "queue_capacity" 1000 NaturalForm queueCapacity,
  .defaulted "max_retries" 3 NaturalForm maxRetries,
  .defaulted "request_timeout_secs" 30 NaturalForm requestTimeoutSeconds,
  .defaulted "connect_timeout_secs" 10 NaturalForm connectTimeoutSeconds,
  .defaulted "tool_name" "insight-sync" BasicForm toolName,
  .defaulted "tool_version" "0.1.0" BasicForm toolVersion]

/-- A document gives a configuration, which keeps to the limits of the reader where these are asked for. -/
def Gives (limited : Prop) (config : Config) (source : String) : Prop :=
  ∃ document : Rows, source.toList = document.text ∧ RecordForm limited fieldForms config document

/-- The integers of a configuration are of their types and not too large for a document. -/
structure Fits (config : Config) : Prop where
  workerCount : config.workerCount < 2 ^ 63
  queueCapacity : config.queueCapacity < 2 ^ 63
  maxRetries : config.maxRetries < 2 ^ 32
  requestTimeoutSeconds : config.requestTimeoutSeconds < 2 ^ 63
  connectTimeoutSeconds : config.connectTimeoutSeconds < 2 ^ 63

/-- The names of triggers, in lower case. -/
def triggerNames : List String :=
  ["", "manual", "ci"]

/-- The first check that a configuration fails. -/
inductive FirstFault (config : Config) : ConfigFault → Prop
  | baseUrl (blank : isBlankText config.baseUrl = true) : FirstFault config .baseUrlMissing
  | projectName (url : isBlankText config.baseUrl = false) (blank : isBlankText config.projectName = true) :
    FirstFault config .projectNameMissing
  | queueCapacity (url : isBlankText config.baseUrl = false) (name : isBlankText config.projectName = false)
    (zero : config.queueCapacity = 0) : FirstFault config .queueCapacityZero
  | trigger (url : isBlankText config.baseUrl = false) (name : isBlankText config.projectName = false)
    (some : config.queueCapacity ≠ 0) (unknown : lowerAscii config.trigger ∉ triggerNames) :
    FirstFault config (.unknownTrigger (lowerAscii config.trigger))

/-- What a document of a configuration is read as: the configuration itself if it can be used, and the first
of its faults otherwise. -/
structure ReadBack (config : Config) (result : Except RelayError Config) : Prop where
  accepted : config.validate = .ok config → result = .ok config
  refused : config.validate ≠ .ok config →
    ∃ fault, config.FirstFault fault ∧ result = .error (.config fault)

end Config

end InsightRelay
