import InsightRelay.Client.Connection
import InsightRelay.Command.Arguments
import InsightRelay.Config.Document
import InsightRelay.Manifest.Document
import InsightRelay.Relay.Delivery

/-! Runs of the program: the configuration is read, then every manifest, and only then the service is
called. -/

namespace InsightRelay.Command

/-- What a run finds around it. -/
structure Surroundings where
  fileText : (path : String) → Except FileFault String
  credentials : Credentials

/-- Why a run fails. -/
inductive Failure
  | configuration (path : String) (problem : RelayError)
  | manifestUnread (path : String) (fault : FileFault)
  | manifestMalformed (path : String) (problem : Json.Problem)
  | start (problem : RelayError)
  | finish (problem : RelayError)
deriving DecidableEq, Repr

/-- What a run was about when it failed. -/
def Failure.message : Failure → String
  | configuration path _ => "Failed to load configuration from " ++ path
  | manifestUnread path _ => "Failed to read manifest " ++ path
  | manifestMalformed path _ => "Failed to parse manifest " ++ path
  | start _ => "Failed to start sync reporter"
  | finish _ => "Failed to finish insight sync"

/-- The words for each cause of a failure, from the nearest to the farthest. -/
def Failure.causes : Failure → List String
  | configuration _ problem => problem.message :: problem.causes
  | manifestUnread _ fault => [fault.message]
  | manifestMalformed _ problem => [(RelayError.json problem).message]
  | start problem => problem.message :: problem.causes
  | finish problem => problem.message :: problem.causes

/-- The lines that name causes, which are numbered if there are several. -/
def causeLines : (causes : List String) → List String
  | [] => []
  | [cause] => ["", "Caused by:", "    " ++ cause]
  | causes =>
    "" :: "Caused by:" :: causes.zipIdx.map fun (cause, index) =>
      "    " ++ toString index ++ ": " ++ cause

/-- The text that tells of a failure and its causes. -/
def Failure.report (failure : Failure) : String :=
  "\n".intercalate (("Error: " ++ failure.message) :: causeLines failure.causes) ++ "\n"

/-- What a run has done when it succeeds. -/
structure Summary where
  manifests : Nat
  queued : Nat
  published : Nat
  failed : Nat
deriving DecidableEq, Repr

/-- The line that tells what a run has done. -/
def Summary.line (summary : Summary) : String :=
  "Synced " ++ toString summary.manifests ++ " manifests: " ++ toString summary.queued ++
    " packages queued, " ++ toString summary.published ++ " published, " ++
    toString summary.failed ++ " failed\n"

/-- How a run ends. -/
inductive Outcome
  | synced (summary : Summary)
  | failed (failure : Failure)
  /-- The configuration asks for a queue that cannot be. -/
  | aborted
  /-- The relay waits for ever. -/
  | stuck
deriving DecidableEq, Repr

/-- The configuration with what the options say about it. -/
def Options.adjust (options : Options) (config : Config) : Config :=
  { config with
    multiProject := options.multiProject || config.multiProject
    workerCount := options.workers.getD config.workerCount }

/-- The configuration of a run. -/
def Options.loadConfig (options : Options) (surroundings : Surroundings) : Except Failure Config :=
  ((Config.load (surroundings.fileText options.config) surroundings.credentials).map
    options.adjust).mapError (.configuration options.config)

/-- The manifest in a file. -/
def loadManifest (surroundings : Surroundings) (path : String) : Except Failure Manifest := do
  let document ← (surroundings.fileText path).mapError (.manifestUnread path)
  (Manifest.ofJson document).mapError (.manifestMalformed path)

/-- What a run reads before it calls anybody. -/
def Options.load (options : Options) (surroundings : Surroundings) :
    Except Failure (Config × List Manifest) := do
  -- The first thing that cannot be read decides how the run ends.
  let config ← options.loadConfig surroundings
  return (config, ← options.manifests.mapM (loadManifest surroundings))

/-- How a run that called a service ends, with the calls it made. -/
def deliver {σ : Type} (service : Service σ) (state : σ) (config : Config)
    (manifests : List Manifest) : Outcome × List Exchange :=
  match Relay.start config service state with
  | (.error (.refused problem), journal, _) => (.failed (.start problem), journal)
  | (.error _, journal, _) => (.aborted, journal)
  | (.ok workshop, _, _) =>
    let delivery := workshop.deliver manifests
    let queue := delivery.workshop.relay.queue
    -- Records that failed are counted and told, and do not make the run fail.
    let outcome := match delivery.ending with
      | some (.failed problem) => .failed (.finish problem)
      | some _ =>
        .synced ⟨manifests.length, delivery.accepted.foldr (· + ·) 0, queue.published, queue.failed⟩
      | none => .stuck
    (outcome, delivery.workshop.relay.journal)

/-- How a run ends, with the calls it made. -/
def Options.run {σ : Type} (options : Options) (surroundings : Surroundings) (network : Network σ)
    (ids : Nat → RequestId) (state : σ) : Outcome × List Exchange :=
  match options.load surroundings with
  | .error failure => (.failed failure, [])
  | .ok (config, manifests) =>
    match network.connect config with
    -- Without a connection there is no start, so the failure is that of the start.
    | .error problem => (.failed (.start problem), [])
    | .ok connection => deliver (connection.service ids) ⟨state, 0⟩ config manifests

end InsightRelay.Command
