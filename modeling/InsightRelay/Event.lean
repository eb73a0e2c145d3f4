import InsightRelay.Error

/-! Events: what a relay reports while it runs. -/

namespace InsightRelay

/-- A warning or an error that is reported while work goes on. -/
inductive Event
  | publishedWithoutDependencies (problem : RelayError)
  | sessionReplaced (key previous : String)
  | packageNotSynced (problem : RelayError)
  | workerLost
  | packageNotQueued (manifest : String) (problem : RelayError)
  | packageNotRead (manifest : String) (problem : RelayError)
  | sessionNotCreated (manifest : String) (problem : RelayError)
  | sessionNotCompleted (session : String) (problem : RelayError)
  | alreadyFinished
deriving DecidableEq, Repr

/-- The line of an event: its level, its text, and its particulars in the order of their names. -/
def Event.line : Event → String
  | publishedWithoutDependencies problem =>
    "WARN Publishing without dependencies error=" ++ problem.message
  | sessionReplaced key previous =>
    "WARN Session replaced in registry key=" ++ key ++ " session_id=" ++ previous
  | packageNotSynced problem => "ERROR Failed to sync package error=" ++ problem.message
  | workerLost => "ERROR Worker task terminated abnormally"
  | packageNotQueued manifest problem =>
    "WARN Package not queued error=" ++ problem.message ++ " manifest=" ++ manifest
  | packageNotRead manifest problem =>
    "WARN Failed to enumerate package error=" ++ problem.message ++ " manifest=" ++ manifest
  | sessionNotCreated manifest problem =>
    "ERROR Failed to create tool session for manifest error=" ++ problem.message ++
      " manifest=" ++ manifest
  | sessionNotCompleted session problem =>
    "ERROR Failed to complete tool session error=" ++ problem.message ++ " session_id=" ++ session
  | alreadyFinished => "WARN Sync reporter already finished"

end InsightRelay
