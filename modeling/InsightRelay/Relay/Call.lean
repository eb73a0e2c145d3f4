import InsightRelay.Config.Basic
import InsightRelay.Insight
import InsightRelay.Message.Codec

/-! The calls that a relay makes of the service, and the replies it can get. -/

namespace InsightRelay

open Message

/-- The number that the service knows a trigger by. -/
def Trigger.code : Trigger → Int32
  | manual => 1
  | ci => 2

/-- How a session ends. -/
inductive Completion
  /-- It is not said how. -/
  | unspecified
  | success
  | failure
deriving DecidableEq, Repr

/-- The number that the service knows an end of a session by. -/
def Completion.code : Completion → Int32
  | unspecified => 0
  | success => 1
  | failure => 2

/-- The revision that a configuration names, if it names any part of one. -/
def Config.revision? (config : Config) : Option GitRef :=
  let given := config.gitRef.isSome || config.gitRefName.isSome || config.gitRefType.isSome ||
    config.gitSha.isSome
  if given then some ⟨config.gitRef, config.gitRefName, config.gitRefType, config.gitSha⟩ else none

/-- The request that opens a session for a project. -/
def Config.sessionRequest (config : Config) (project : String) :
    Except RelayError CreateToolSessionRequest := do
  let trigger ← config.toolTrigger.mapError .config
  return {
    toolName := config.toolName
    toolVersion := config.toolVersion
    projectName := project
    projectVersion := some config.projectVersion
    projectSource := some 0
    trigger := some trigger.code
    gitRef := config.revision? }

/-- A call of the service. -/
inductive Call
  | create (request : CreateToolSessionRequest)
  | publish (request : PublishPackageInsightRequest)
  | complete (session : String) (completion : Completion)
deriving DecidableEq, Repr

/-- The kinds of calls. -/
inductive CallKind
  | create
  | publish
  | complete
deriving DecidableEq, Repr

/-- The kind of a call. -/
def Call.kind : Call → CallKind
  | create _ => .create
  | publish _ => .publish
  | complete .. => .complete

/-- What comes of a call. -/
inductive Reply
  /-- It succeeded; the text is the session that was opened, if one was asked for. -/
  | granted (session : String)
  | refused (problem : RelayError)
  /-- The service broke down in the middle of the call. -/
  | crashed
deriving DecidableEq, Repr

end InsightRelay
