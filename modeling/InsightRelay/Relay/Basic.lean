import InsightRelay.Queue.Basic
import InsightRelay.Relay.Call
import InsightRelay.Session

/-! The state of a relay: a queue of records, the registry of sessions, workers that publish, and callers
that bring manifests and end the whole. -/

namespace InsightRelay

/-- Names a task of a relay. -/
abbrev TaskId := Ticket

/-- The records of a source that are still to be queued, and how many have been. -/
structure Batch where
  /-- The path of the source. -/
  manifest : String
  remaining : List (Except RelayError PackageRecord)
  accepted : Nat

/-- What a record is queued for. -/
inductive Errand
  /-- It was handed in by itself. -/
  | single
  /-- It belongs to a source, whose other records come after it. -/
  | batch (batch : Batch)

/-- How a task of a caller ended. -/
inductive Ending
  | accepted
  | queued (count : Nat)
  | drained
  | stopped
  | finished
  | failed (problem : RelayError)
deriving DecidableEq, Repr

/-- How far a task is. -/
inductive Stage
  /-- A worker that has not yet asked for a record. -/
  | seeking
  /-- A worker in the line of takers, and whether it has looked for a record without finding one and is
  about to look at the signal to stop. -/
  | inLine (looked : Bool)
  /-- A worker with a record that has no session yet. -/
  | dispatching (record : PackageRecord)
  /-- A worker whose record is being published. -/
  | publishing (record : PackageRecord) (request : Message.PublishPackageInsightRequest)
  /-- A worker that has ended. -/
  | rested
  /-- A worker that broke down, and its record stays unresolved. -/
  | lost (record : PackageRecord)
  /-- A caller with a record that is not yet counted. -/
  | offering (record : PackageRecord) (errand : Errand)
  /-- A caller with a record that is counted. -/
  | counted (record : PackageRecord) (errand : Errand)
  /-- A caller in the line of submitters. -/
  | placing (errand : Errand)
  /-- A caller that turns to the next record of a source. -/
  | queueing (batch : Batch)
  /-- A caller whose source needs a session. -/
  | arriving (source : Source)
  /-- A caller in the line before the session desk. -/
  | atDesk (source : Source)
  /-- A caller at the session desk that found the queue open. -/
  | checking (source : Source)
  /-- A caller whose session is being opened. -/
  | opening (source : Source) (request : Message.CreateToolSessionRequest)
  /-- A caller that wants to finish. -/
  | toFinish
  /-- A caller in the line of those that want to finish. -/
  | inFinishLine
  /-- A caller that has to see the queue drained, to finish after that or not. -/
  | draining (finishing : Bool)
  /-- A caller that waits until no record is pending. -/
  | atBarrier (finishing : Bool)
  /-- A caller that tells the workers to stop, to finish after that or not. -/
  | stopping (finishing : Bool)
  /-- A caller that waits until all workers have ended. -/
  | joining (finishing : Bool)
  /-- A caller that wants to look up the open sessions. -/
  | collecting
  /-- A caller in the line before the session desk that wants to look up the open sessions. -/
  | atDeskToCollect
  /-- A caller that completes sessions, with the first failure so far. -/
  | closing (remaining : List String) (failure : Option RelayError)
  /-- A caller whose session is being completed. -/
  | completing (session : String) (remaining : List String) (failure : Option RelayError)
  /-- A caller that has its answer. -/
  | ended (ending : Ending)

/-- The ending of a task at a stage, if it has one. -/
def Stage.ending? : Stage → Option Ending
  | ended ending => some ending
  | _ => none

/-- The call that a task at a stage waits for, if it waits for one. -/
def Stage.call? : Stage → Option Call
  | publishing _ request => some (.publish request)
  | opening _ request => some (.create request)
  | completing session .. => some (.complete session .success)
  | _ => none

/-- What a caller wants of a relay. -/
inductive Demand
  /-- A record is to be queued. -/
  | submit (record : PackageRecord)
  /-- The records of a source are to be queued, after a session was opened for it if need be. -/
  | bring (source : Source)
  /-- The work is to be done to its end, and all sessions are to be completed. -/
  | finish
  /-- No record is to be pending. -/
  | waitDrained
  /-- The workers are to stop. -/
  | stop

/-- The records of a manifest are to be queued. -/
def Demand.addManifest (manifest : Manifest) : Demand :=
  .bring manifest.source

/-- The batch that a source starts with. -/
def Source.batch (source : Source) : Batch :=
  ⟨source.origin.path, source.records, 0⟩

/-- The stage at which the task for a demand starts. -/
def Demand.stage (config : Config) : Demand → Stage
  | submit record => .offering record .single
  | bring source => if config.multiProject then .arriving source else .queueing source.batch
  | finish => .toFinish
  | waitDrained => .draining false
  | stop => .stopping false

/-- Workers that started together. -/
structure Pool where
  /-- How many workers there were at the start. -/
  size : Nat
  /-- The workers that have not been seen to end. -/
  workers : List TaskId
  /-- Whether the workers have been told to stop. -/
  stopping : Bool
deriving DecidableEq, Repr

/-- The pool in a diagnostic text. -/
def Pool.describe (pool : Pool) : String :=
  "WorkerPool \x7b worker_count: " ++ toString pool.size ++ ", running: " ++
    toString pool.workers.length ++ ", shutdown: " ++
    (if pool.stopping then "true" else "false") ++ " \x7d"

/-- A call with its reply, in the order in which replies came. -/
structure Exchange where
  /-- The task that made the call, or nothing for the call at the start. -/
  task : Option TaskId
  call : Call
  reply : Reply
deriving DecidableEq, Repr

/-- The state of a relay. -/
structure Relay where
  config : Config
  queue : Queue PackageRecord
  /-- The open sessions, all of them with the one client of the relay. -/
  registry : Registry Unit
  /-- Those that open or look up sessions, of whom the first may act. -/
  desk : List TaskId
  /-- Those that want to finish, of whom the first may act. -/
  finishers : List TaskId
  /-- The pool at hand, unless none has started or a caller has taken it. -/
  pool : Option Pool
  /-- The pools that callers have taken to end them, with those callers. -/
  taken : List (TaskId × Pool)
  /-- How far each task is, by its name. -/
  tasks : List Stage
  /-- All calls that have been replied to. -/
  journal : List Exchange
  /-- All events so far. -/
  events : List Event

namespace Relay

/-- A relay without workers, callers and sessions. -/
def idle (config : Config) (queue : Queue PackageRecord) : Relay where
  config := config
  queue := queue
  registry := Registry.empty
  desk := []
  finishers := []
  pool := none
  taken := []
  tasks := []
  journal := []
  events := []

/-- How far a task is. -/
def stage? (relay : Relay) (task : TaskId) : Option Stage :=
  relay.tasks[task]?

/-- The relay with a task at another stage. -/
def withStage (relay : Relay) (task : TaskId) (stage : Stage) : Relay :=
  { relay with tasks := relay.tasks.set task stage }

/-- The relay with another event. -/
def report (relay : Relay) (event : Event) : Relay :=
  { relay with events := relay.events ++ [event] }

/-- A session is registered for a key. -/
def register (relay : Relay) (key session : String) : Relay :=
  let (registry, events) := relay.registry.add key ⟨session, ()⟩
  { relay with registry := registry, events := relay.events ++ events }

/-- The open sessions, in the order of their keys. -/
def sessions (relay : Relay) : List String :=
  relay.registry.entries.map fun entry => entry.2.id

/-- A worker is given up where it stands, and the record that it may hold stays unresolved. -/
def abandon (relay : Relay) (worker : TaskId) : Relay :=
  { relay with queue := relay.queue.leave worker }.withStage worker .rested

/-- A number of workers start as the pool at hand, and a pool that was at hand before is given up. -/
def startWorkers (relay : Relay) (count : Nat) : Relay × List TaskId :=
  -- Nobody can wait for those workers any more.
  let relay := (relay.pool.toList.flatMap Pool.workers).foldl abandon relay
  let workers := List.range' relay.tasks.length count
  ({ relay with
      tasks := relay.tasks ++ List.replicate count .seeking
      pool := some ⟨count, workers, false⟩ }, workers)

/-- A caller takes the pool at hand, if there is one. -/
def takePool (relay : Relay) (task : TaskId) : Relay :=
  { relay with
    pool := none
    taken := relay.taken ++ relay.pool.toList.map fun pool => (task, pool) }

/-- The relay after a change to the pool that a caller has taken. -/
def changeTaken (relay : Relay) (task : TaskId) (change : Pool → Pool) : Relay :=
  { relay with
    taken := relay.taken.map fun (owner, pool) =>
      (owner, if owner = task then change pool else pool) }

/-- The workers of the pool that a caller has taken, as far as they have not been seen to end. -/
def workersTakenBy (relay : Relay) (task : TaskId) : List TaskId :=
  (relay.taken.filter fun entry => entry.1 == task).flatMap fun entry => entry.2.workers

/-- Whether a worker has been told to stop. -/
def mustStop (relay : Relay) (worker : TaskId) : Bool :=
  relay.taken.any fun (_, pool) => pool.stopping && pool.workers.contains worker

/-- A caller arrives with a demand, and a task starts for it. -/
def arrive (relay : Relay) (demand : Demand) : Relay × TaskId :=
  let task := relay.tasks.length
  -- One that stops takes the workers away before its first step.
  let relay := match demand with
    | .stop => relay.takePool task
    | _ => relay
  ({ relay with tasks := relay.tasks ++ [demand.stage relay.config] }, task)

/-- The ending of a task, if it has one. -/
def ending? (relay : Relay) (task : TaskId) : Option Ending :=
  (relay.stage? task).bind Stage.ending?

/-- The call that a task waits for, if it waits for one. -/
def call? (relay : Relay) (task : TaskId) : Option Call :=
  (relay.stage? task).bind Stage.call?

/-- The relay in a diagnostic text. -/
def describe (relay : Relay) : String :=
  "SyncReporter \x7b project_name: " ++ quoted relay.config.projectName ++ ", multi_project: " ++
    (if relay.config.multiProject then "true" else "false") ++ ", registry: " ++
    relay.registry.describe ++ ", queue_capacity: " ++ toString relay.queue.capacity ++
    ", pending: " ++ toString relay.queue.pending ++ ", .. \x7d"

end Relay

/-- The name that a relay goes by. -/
def Relay.title : String := "Cloud Sync Reporter"

end InsightRelay
