import InsightRelay.Relay.Basic

/-! The steps of a relay: what each task can do next, and what a reply makes of it.

Every step tells which other tasks may be able to go on because of it. -/

namespace InsightRelay.Relay

/-- A step that was taken, with the tasks that are told of it. -/
abbrev Progress := Relay × List TaskId

/-- The callers that wait for a worker to end. -/
def joiners (relay : Relay) (worker : TaskId) : List TaskId :=
  let isJoining (task : TaskId) : Bool :=
    match relay.stage? task with
    | some (.joining _) => true
    | _ => false
  (relay.taken.filter fun (task, pool) => pool.workers.contains worker && isJoining task).map
    Prod.fst

/-- The task goes on to the stage after its record was queued or refused. -/
def afterErrand (relay : Relay) (task : TaskId) (errand : Errand)
    (refusal : Option RelayError) : Relay :=
  match errand, refusal with
  | .single, none => relay.withStage task (.ended .accepted)
  | .single, some problem => relay.withStage task (.ended (.failed problem))
  | .batch batch, none =>
    relay.withStage task (.queueing { batch with accepted := batch.accepted + 1 })
  | .batch batch, some problem =>
    (relay.report (.packageNotQueued batch.manifest problem)).withStage task (.queueing batch)

/-- A record is counted, or refused because the queue is closed. -/
def offer (relay : Relay) (task : TaskId) (record : PackageRecord) (errand : Errand) : Progress :=
  match relay.queue.accept? with
  | some queue =>
    ({ relay with queue := queue }.withStage task (.counted record errand), relay.queue.barriers)
  | none => (relay.afterErrand task errand (some .closed), [])

/-- A submitter puts its record into the queue, and the first taker is told. -/
def place (relay : Relay) (task : TaskId) (errand : Errand) : Option Progress := do
  let queue ← relay.queue.place? task
  some ({ relay with queue := queue }.afterErrand task errand none, queue.takers.head?.toList)

/-- A worker leaves the line and ends; the next one in line and those that wait for its end are told. -/
def retire (relay : Relay) (task : TaskId) : Progress :=
  -- Only the first in line can have anything to take, so only its leaving concerns the next.
  let queue := relay.queue.leave task
  let next := if relay.queue.takers.head? = some task then queue.takers.head? else none
  ({ relay with queue := queue }.withStage task .rested, next.toList ++ relay.joiners task)

/-- The first worker in line takes a record; the submitter that gets the free place and the next worker
are told.

A worker that has nothing to take stops if it was told to. -/
def take (relay : Relay) (task : TaskId) : Option Progress :=
  match relay.queue.take? task with
  | some (record, queue) =>
    -- The place that gets free belongs to the first submitter that owned none.
    let granted := (relay.queue.submitters[relay.queue.room]?).map Prod.fst
    some ({ relay with queue := queue }.withStage task (.dispatching record),
      granted.toList ++ queue.takers.head?.toList)
  | none => if relay.mustStop task then some (relay.retire task) else none

/-- A worker that has looked for a record turns to the signal. It ends if it is to stop, whatever there is
to take by then, and otherwise looks for a record again. -/
def heed (relay : Relay) (task : TaskId) : Option Progress :=
  if relay.mustStop task then some (relay.retire task) else relay.take task

/-- A record is resolved and the worker asks for another one; those at the barrier are told. -/
def resolve (relay : Relay) (task : TaskId) (resolution : Resolution) : Progress :=
  ({ relay with queue := relay.queue.resolve resolution }.withStage task .seeking,
    relay.queue.barriers)

/-- A record is given to the session of its manifest, or fails when there is none. -/
def dispatch (relay : Relay) (task : TaskId) (record : PackageRecord) : Progress :=
  -- The session is looked up only now, so it may have been opened after the record was queued.
  match relay.registry.lookup record.origin.path with
  | .error problem => (relay.report (.packageNotSynced problem)).resolve task .failed
  | .ok session =>
    let relay := match record.degradation? with
      | some problem => relay.report (.publishedWithoutDependencies problem)
      | none => relay
    (relay.withStage task (.publishing record (record.request session.id)), [])

/-- The next record of a source is offered, an unreadable one is reported, and at the end the number
of accepted ones is the answer. -/
def queueNext (relay : Relay) (task : TaskId) (batch : Batch) : Progress :=
  match batch.remaining with
  | [] => (relay.withStage task (.ended (.queued batch.accepted)), [])
  | .ok record :: remaining =>
    (relay.withStage task (.offering record (.batch { batch with remaining := remaining })), [])
  | .error problem :: remaining =>
    ((relay.report (.packageNotRead batch.manifest problem)).withStage task
      (.queueing { batch with remaining := remaining }), [])

/-- The first at the session desk leaves it, and the next one is told. -/
def leaveDesk (relay : Relay) : Progress :=
  let desk := relay.desk.drop 1
  ({ relay with desk := desk }, desk.head?.toList)

/-- The caller leaves the session desk and turns to the records of its source. -/
def startQueueing (relay : Relay) (task : TaskId) (source : Source) : Progress :=
  let (relay, told) := relay.leaveDesk
  (relay.withStage task (.queueing source.batch), told)

/-- At the desk a caller looks whether the queue is closed, and then needs no session. -/
def approachDesk (relay : Relay) (task : TaskId) (source : Source) : Progress :=
  -- A closed queue takes no record, so a session would stay without use.
  if relay.queue.closed then relay.startQueueing task source
  else (relay.withStage task (.checking source), [])

/-- A session is asked for, unless the source has one. -/
def openSession (relay : Relay) (task : TaskId) (source : Source) : Progress :=
  if relay.registry.contains source.origin.path then relay.startQueueing task source
  else
    match relay.config.sessionRequest source.origin.shownPath with
    | .ok request => (relay.withStage task (.opening source request), [])
    | .error problem =>
      (relay.report (.sessionNotCreated source.origin.path problem)).startQueueing task source

/-- The first that wants to finish takes the pool and closes the queue; all others find it done. -/
def beginFinish (relay : Relay) (task : TaskId) : Progress :=
  if relay.pool.isSome then
    -- This line is left at the end only, so that all others wait until the work is over.
    let relay := { relay.takePool task with queue := relay.queue.close }
    (relay.withStage task (.draining true), relay.queue.barriers)
  else
    let finishers := relay.finishers.drop 1
    let relay := { relay.report .alreadyFinished with finishers := finishers }
    (relay.withStage task (.ended .finished), finishers.head?.toList)

/-- The workers of the pool that a caller has taken are told to stop. -/
def stop (relay : Relay) (task : TaskId) (finishing : Bool) : Progress :=
  -- Only workers in line need to be told; the others look before they wait again.
  let workers := relay.workersTakenBy task
  ((relay.changeTaken task fun pool => { pool with stopping := true }).withStage task
    (.joining finishing), relay.queue.takers.filter workers.contains)

/-- A worker that has ended is let go, a broken one with a report; without workers the caller goes on. -/
def join (relay : Relay) (task : TaskId) (finishing : Bool) : Option Progress :=
  let hasEnded (worker : TaskId) : Bool :=
    match relay.stage? worker with
    | some .rested => true
    | some (.lost _) => true
    | _ => false
  let workers := relay.workersTakenBy task
  match workers.find? hasEnded with
  | some worker =>
    let relay := match relay.stage? worker with
      | some (.lost _) => relay.report .workerLost
      | _ => relay
    some (relay.changeTaken task fun pool =>
      { pool with workers := pool.workers.filter (· != worker) }, [])
  | none =>
    if workers.isEmpty then
      some (relay.withStage task (if finishing then .collecting else .ended .stopped), [])
    else none

/-- At the desk a caller looks up the open sessions, which it will complete in a given order. -/
def collectIn (relay : Relay) (task : TaskId) (order : List String) : Option Progress :=
  -- At the desk no other caller opens a session, so all that are open are seen.
  if relay.desk.head? = some task then
    let (relay, told) := relay.leaveDesk
    some (relay.withStage task (.closing order none), told)
  else none

/-- The next session is completed; after the last one the answer is the first failure, if any. -/
def closeNext (relay : Relay) (task : TaskId) (remaining : List String)
    (failure : Option RelayError) : Progress :=
  match remaining with
  | session :: remaining => (relay.withStage task (.completing session remaining failure), [])
  | [] =>
    let ending := match failure with
      | some problem => Ending.failed problem
      | none => .finished
    -- The line is left at last, so whoever is next finds all sessions completed.
    let finishers := relay.finishers.drop 1
    ({ relay with finishers := finishers }.withStage task (.ended ending), finishers.head?.toList)

/-- The next step of a task, unless it waits or has ended.

A worker in line looks for a record and at the signal without a break, and sessions are completed in the
order of their keys. -/
def advance (relay : Relay) (task : TaskId) : Option Progress :=
  match relay.stage? task with
  | none => none
  | some stage =>
    match stage with
    | .seeking =>
      some ({ relay with queue := relay.queue.joinTakers task }.withStage task (.inLine false), [])
    | .inLine looked => if looked then relay.heed task else relay.take task
    | .dispatching record => some (relay.dispatch task record)
    | .offering record errand => some (relay.offer task record errand)
    | .counted record errand =>
      some ({ relay with queue := relay.queue.joinSubmitters task record }.withStage task
        (.placing errand), [])
    | .placing errand => relay.place task errand
    | .queueing batch => some (relay.queueNext task batch)
    | .arriving source =>
      some ({ relay with desk := relay.desk ++ [task] }.withStage task (.atDesk source), [])
    | .atDesk source =>
      if relay.desk.head? = some task then some (relay.approachDesk task source) else none
    | .checking source => some (relay.openSession task source)
    | .toFinish =>
      some ({ relay with finishers := relay.finishers ++ [task] }.withStage task .inFinishLine, [])
    | .inFinishLine => if relay.finishers.head? = some task then some (relay.beginFinish task) else none
    | .draining finishing =>
      some ({ relay with queue := relay.queue.joinBarriers task }.withStage task
        (.atBarrier finishing), [])
    | .atBarrier finishing => do
      let queue ← relay.queue.pass? task
      some ({ relay with queue := queue }.withStage task
        (if finishing then .stopping true else .ended .drained), [])
    | .stopping finishing => some (relay.stop task finishing)
    | .joining finishing => relay.join task finishing
    | .collecting =>
      some ({ relay with desk := relay.desk ++ [task] }.withStage task .atDeskToCollect, [])
    | .atDeskToCollect => relay.collectIn task relay.sessions
    | .closing remaining failure => some (relay.closeNext task remaining failure)
    -- These wait for the service.
    | .publishing .. => none
    | .opening .. => none
    | .completing .. => none
    -- These have ended.
    | .rested => none
    | .lost _ => none
    | .ended _ => none

/-- A worker in line looks for a record and finds none, and others may go on before it looks at the
signal. -/
def look (relay : Relay) (task : TaskId) : Option Relay :=
  match relay.stage? task, relay.queue.take? task with
  | some (.inLine false), none => some (relay.withStage task (.inLine true))
  | _, _ => none

/-- A caller looks up the open sessions in some order, as a hash table has them in any. -/
def collect (relay : Relay) (task : TaskId) (order : List String) : Option Progress :=
  match relay.stage? task with
  | some .atDeskToCollect =>
    if order.isPerm relay.sessions then relay.collectIn task order else none
  | _ => none

/-- What the reply to the call of a task makes of the relay, unless such a reply cannot come. -/
def settleCall (relay : Relay) (task : TaskId) (reply : Reply) : Option Progress :=
  match relay.stage? task, reply with
  | some (.publishing _ _), .granted _ => some (relay.resolve task .published)
  | some (.publishing record _), .refused problem =>
    some ((relay.report (.packageNotSynced (.publishFailed record.coordinates problem))).resolve
      task .failed)
  -- A worker that breaks down resolves nothing.
  | some (.publishing record _), .crashed =>
    some (relay.withStage task (.lost record), relay.joiners task)
  | some (.opening source _), .granted session =>
    some ((relay.register source.origin.path session).startQueueing task source)
  | some (.opening source _), .refused problem =>
    some ((relay.report (.sessionNotCreated source.origin.path problem)).startQueueing task source)
  | some (.completing _ remaining failure), .granted _ =>
    some (relay.withStage task (.closing remaining failure), [])
  -- The first failure is the answer, but all other sessions still have their turn.
  | some (.completing session remaining failure), .refused problem =>
    some ((relay.report (.sessionNotCompleted session problem)).withStage task
      (.closing remaining (failure <|> some (.sessionCompletionFailed session problem))), [])
  | _, _ => none

/-- The reply to the call of a task arrives. -/
def answer (relay : Relay) (task : TaskId) (reply : Reply) : Option Progress := do
  let call ← relay.call? task
  let (relay, told) ← relay.settleCall task reply
  some ({ relay with journal := relay.journal ++ [⟨some task, call, reply⟩] }, told)

/-- What can happen to a relay. -/
inductive Action
  /-- A caller arrives. -/
  | arrive (demand : Demand)
  /-- A task takes its next step. -/
  | advance (task : TaskId)
  /-- A worker finds no record, and does not look at the signal yet. -/
  | look (task : TaskId)
  /-- A caller looks up the open sessions in a given order. -/
  | collect (task : TaskId) (order : List String)
  /-- The service replies to the call of a task. -/
  | answer (task : TaskId) (reply : Reply)
  /-- A session that was opened elsewhere is registered for a key. -/
  | register (key session : String)

/-- The state after an action, if the action can happen. -/
def step (relay : Relay) : Action → Option Relay
  | .arrive demand => some (relay.arrive demand).1
  | .advance task => (relay.advance task).map Prod.fst
  | .look task => relay.look task
  | .collect task order => (relay.collect task order).map Prod.fst
  | .answer task reply => (relay.answer task reply).map Prod.fst
  | .register key session => some (relay.register key session)

/-- The state after a list of actions, if all of them can happen in turn. -/
def run (relay : Relay) (actions : List Action) : Option Relay :=
  actions.foldlM step relay

end InsightRelay.Relay
