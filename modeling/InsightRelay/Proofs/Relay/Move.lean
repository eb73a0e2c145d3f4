import InsightRelay.Relay.Step

/-! Moves: everything that a task of a relay can do next, each with what it asks for and what it leaves.

A step of a relay is a caller that arrives, a session that is registered from elsewhere, or one move of
one task, and all other tasks stay where they are. -/

namespace InsightRelay

/-- The stage of a caller after its record was queued. -/
def Errand.placed : Errand → Stage
  | single => .ended .accepted
  | batch records => .queueing { records with accepted := records.accepted + 1 }

/-- The stage of a caller after its record was refused. -/
def Errand.refused : Errand → Stage
  | single => .ended (.failed .closed)
  | batch records => .queueing records

/-- What is reported of a record that is refused; one that comes by itself is told of by its answer. -/
def Errand.refusal : Errand → List Event
  | single => []
  | batch records => [.packageNotQueued records.manifest .closed]

/-- The ending of a caller that has completed all sessions. -/
def Ending.ofFailure : Option RelayError → Ending
  | some problem => .failed problem
  | none => .finished

namespace Relay

/-- A task goes from one stage to another, and the rest of the relay becomes what is given last. -/
inductive Move (relay : Relay) (task : TaskId) : Stage → Stage → Relay → Prop
  /-- A worker joins the line of takers. -/
  | seek :
      Move relay task .seeking (.inLine false) { relay with queue := relay.queue.joinTakers task }
  | take {looked : Bool} {record : PackageRecord} {queue : Queue PackageRecord}
      (taken : relay.queue.take? task = some (record, queue)) :
      Move relay task (.inLine looked) (.dispatching record) { relay with queue := queue }
  /-- A worker finds nothing to take and is about to look at the signal. -/
  | look (idle : relay.queue.take? task = none) : Move relay task (.inLine false) (.inLine true) relay
  /-- A worker was told to stop, and finds nothing to take or has looked for it before. -/
  | rest {looked : Bool} (idle : looked = false → relay.queue.take? task = none)
      (told : relay.mustStop task = true) :
      Move relay task (.inLine looked) .rested { relay with queue := relay.queue.leave task }
  /-- A worker finds no session for its record. -/
  | drop {record : PackageRecord}
      (homeless : relay.registry.session? record.origin.path = none) :
      Move relay task (.dispatching record) .seeking
        { relay with
          queue := relay.queue.resolve .failed
          events := relay.events ++ [.packageNotSynced (.sessionNotFound record.origin.path)] }
  /-- A record that lost its dependencies is reported and published all the same. -/
  | publish {record : PackageRecord} {session : String}
      (found : relay.registry.session? record.origin.path = some ⟨session, ()⟩) :
      Move relay task (.dispatching record) (.publishing record (record.request session))
        { relay with
          events := relay.events ++ record.degradation?.toList.map .publishedWithoutDependencies }
  /-- A record is counted. -/
  | accept {record : PackageRecord} {errand : Errand} (open_ : relay.queue.closed = false) :
      Move relay task (.offering record errand) (.counted record errand)
        { relay with queue := { relay.queue with
            pending := relay.queue.pending + 1, submitted := relay.queue.submitted + 1 } }
  | refuse {record : PackageRecord} {errand : Errand} (closed : relay.queue.closed = true) :
      Move relay task (.offering record errand) errand.refused
        { relay with events := relay.events ++ errand.refusal }
  /-- A record that is counted gets in line for a place. -/
  | line {record : PackageRecord} {errand : Errand} :
      Move relay task (.counted record errand) (.placing errand)
        { relay with queue := relay.queue.joinSubmitters task record }
  | place {errand : Errand} {queue : Queue PackageRecord}
      (placed : relay.queue.place? task = some queue) :
      Move relay task (.placing errand) errand.placed { relay with queue := queue }
  /-- A caller turns to the next record of its source. -/
  | offer {manifest : String} {record : PackageRecord}
      {remaining : List (Except RelayError PackageRecord)} {accepted : Nat} :
      Move relay task (.queueing ⟨manifest, .ok record :: remaining, accepted⟩)
        (.offering record (.batch ⟨manifest, remaining, accepted⟩)) relay
  /-- A caller passes over an entry that gives no record. -/
  | skip {manifest : String} {problem : RelayError}
      {remaining : List (Except RelayError PackageRecord)} {accepted : Nat} :
      Move relay task (.queueing ⟨manifest, .error problem :: remaining, accepted⟩)
        (.queueing ⟨manifest, remaining, accepted⟩)
        { relay with events := relay.events ++ [.packageNotRead manifest problem] }
  | count {manifest : String} {accepted : Nat} :
      Move relay task (.queueing ⟨manifest, [], accepted⟩) (.ended (.queued accepted)) relay
  | approach {source : Source} :
      Move relay task (.arriving source) (.atDesk source) { relay with desk := relay.desk ++ [task] }
  /-- A caller finds the queue closed when it is its turn at the desk. -/
  | shut {source : Source} (first : relay.desk.head? = some task)
      (closed : relay.queue.closed = true) :
      Move relay task (.atDesk source) (.queueing source.batch)
        { relay with desk := relay.desk.drop 1 }
  | enter {source : Source} (first : relay.desk.head? = some task)
      (open_ : relay.queue.closed = false) :
      Move relay task (.atDesk source) (.checking source) relay
  /-- A caller finds that its source has a session. -/
  | known {source : Source} (served : relay.registry.contains source.origin.path = true) :
      Move relay task (.checking source) (.queueing source.batch)
        { relay with desk := relay.desk.drop 1 }
  /-- The configuration does not allow a request for a session. -/
  | unasked {source : Source} {problem : RelayError}
      (refused : relay.config.sessionRequest source.origin.shownPath = .error problem) :
      Move relay task (.checking source) (.queueing source.batch)
        { relay with
          desk := relay.desk.drop 1
          events := relay.events ++ [.sessionNotCreated source.origin.path problem] }
  | ask {source : Source} {request : Message.CreateToolSessionRequest}
      (fresh : relay.registry.contains source.origin.path = false)
      (written : relay.config.sessionRequest source.origin.shownPath = .ok request) :
      Move relay task (.checking source) (.opening source request) relay
  | queueUp :
      Move relay task .toFinish .inFinishLine { relay with finishers := relay.finishers ++ [task] }
  /-- The first that wants to finish takes the pool and closes the queue. -/
  | begin (first : relay.finishers.head? = some task) (ready : relay.pool.isSome = true) :
      Move relay task .inFinishLine (.draining true)
        { relay.takePool task with queue := relay.queue.close }
  /-- One that wants to finish finds that another has done it. -/
  | late (first : relay.finishers.head? = some task) (through : relay.pool = none) :
      Move relay task .inFinishLine (.ended .finished)
        { relay with
          finishers := relay.finishers.drop 1
          events := relay.events ++ [.alreadyFinished] }
  | wait {finishing : Bool} :
      Move relay task (.draining finishing) (.atBarrier finishing)
        { relay with queue := relay.queue.joinBarriers task }
  | pass {finishing : Bool} {queue : Queue PackageRecord}
      (passed : relay.queue.pass? task = some queue) :
      Move relay task (.atBarrier finishing)
        (if finishing then .stopping true else .ended .drained) { relay with queue := queue }
  /-- The workers are told to stop. -/
  | stop {finishing : Bool} :
      Move relay task (.stopping finishing) (.joining finishing)
        (relay.changeTaken task fun pool => { pool with stopping := true })
  /-- A worker is seen to have ended, and reported if it broke down. -/
  | join {finishing : Bool} {worker : TaskId} {reports : List Event}
      (waited : worker ∈ relay.workersTakenBy task)
      (gone : relay.stage? worker = some .rested ∧ reports = [] ∨
        ∃ record, relay.stage? worker = some (.lost record) ∧ reports = [.workerLost]) :
      Move relay task (.joining finishing) (.joining finishing)
        { relay.changeTaken task fun pool =>
            { pool with workers := pool.workers.filter (· != worker) } with
          events := relay.events ++ reports }
  | joined {finishing : Bool} (alone : relay.workersTakenBy task = []) :
      Move relay task (.joining finishing)
        (if finishing then .collecting else .ended .stopped) relay
  | gather :
      Move relay task .collecting .atDeskToCollect { relay with desk := relay.desk ++ [task] }
  /-- The open sessions are looked up, in any order. -/
  | collect {order : List String} (first : relay.desk.head? = some task)
      (all : order.Perm relay.sessions) :
      Move relay task .atDeskToCollect (.closing order none)
        { relay with desk := relay.desk.drop 1 }
  | complete {session : String} {remaining : List String} {failure : Option RelayError} :
      Move relay task (.closing (session :: remaining) failure)
        (.completing session remaining failure) relay
  | finish {failure : Option RelayError} :
      Move relay task (.closing [] failure) (.ended (.ofFailure failure))
        { relay with finishers := relay.finishers.drop 1 }
  | published {record : PackageRecord} {request : Message.PublishPackageInsightRequest}
      (text : String) :
      Move relay task (.publishing record request) .seeking
        { relay with
          queue := relay.queue.resolve .published
          journal := relay.journal ++ [⟨some task, .publish request, .granted text⟩] }
  | rejected {record : PackageRecord} {request : Message.PublishPackageInsightRequest}
      (problem : RelayError) :
      Move relay task (.publishing record request) .seeking
        { relay with
          queue := relay.queue.resolve .failed
          journal := relay.journal ++ [⟨some task, .publish request, .refused problem⟩]
          events := relay.events ++
            [.packageNotSynced (.publishFailed record.coordinates problem)] }
  | crash {record : PackageRecord} {request : Message.PublishPackageInsightRequest} :
      Move relay task (.publishing record request) (.lost record)
        { relay with journal := relay.journal ++ [⟨some task, .publish request, .crashed⟩] }
  | opened {source : Source} {request : Message.CreateToolSessionRequest} (session : String) :
      Move relay task (.opening source request) (.queueing source.batch)
        { relay with
          registry := (relay.registry.add source.origin.path ⟨session, ()⟩).1
          desk := relay.desk.drop 1
          journal := relay.journal ++ [⟨some task, .create request, .granted session⟩]
          events := relay.events ++
            (relay.registry.add source.origin.path ⟨session, ()⟩).2 }
  | unopened {source : Source} {request : Message.CreateToolSessionRequest}
      (problem : RelayError) :
      Move relay task (.opening source request) (.queueing source.batch)
        { relay with
          desk := relay.desk.drop 1
          journal := relay.journal ++ [⟨some task, .create request, .refused problem⟩]
          events := relay.events ++ [.sessionNotCreated source.origin.path problem] }
  | completed {session : String} {remaining : List String} {failure : Option RelayError}
      (text : String) :
      Move relay task (.completing session remaining failure) (.closing remaining failure)
        { relay with
          journal := relay.journal ++ [⟨some task, .complete session .success, .granted text⟩] }
  | incomplete {session : String} {remaining : List String} {failure : Option RelayError}
      (problem : RelayError) :
      Move relay task (.completing session remaining failure)
        (.closing remaining (failure <|> some (.sessionCompletionFailed session problem)))
        { relay with
          journal := relay.journal ++ [⟨some task, .complete session .success, .refused problem⟩]
          events := relay.events ++ [.sessionNotCompleted session problem] }

/-- A move touches no stage but that of its task. -/
theorem Move.tasks {relay shared : Relay} {task : TaskId} {before after : Stage}
    (move : Move relay task before after shared) : shared.tasks = relay.tasks := by
  cases move <;> rfl

/-- A move leaves the configuration as it is. -/
theorem Move.config {relay shared : Relay} {task : TaskId} {before after : Stage}
    (move : Move relay task before after shared) : shared.config = relay.config := by
  cases move <;> rfl

/-- Replies come after those before, and each is for the task that moves. -/
theorem Move.journal {relay shared : Relay} {task : TaskId} {before after : Stage}
    (move : Move relay task before after shared) :
    ∃ more, shared.journal = relay.journal ++ more ∧
      ∀ exchange ∈ more, exchange.task = some task := by
  -- Only a move that comes of a reply writes into the journal.
  cases move with
  | published | rejected | crash | opened | unopened | completed | incomplete =>
    exact ⟨_, rfl, fun exchange member => by rw [List.mem_singleton.1 member]⟩
  | _ => exact ⟨[], (List.append_nil _).symm, fun exchange member => absurd member List.not_mem_nil⟩

/-- A stage that a task has already is no change. -/
private theorem set_eq_self {relay : Relay} {task : TaskId} {stage : Stage}
    (at_ : relay.stage? task = some stage) : relay.tasks.set task stage = relay.tasks := by
  obtain ⟨inside, same⟩ := List.getElem?_eq_some_iff.1 at_
  rw [← same, List.set_getElem_self]

/-- A task moved, and the relay became what it is next. -/
def Moves (relay : Relay) (task : TaskId) (next : Relay) : Prop :=
  ∃ before after shared, relay.stage? task = some before ∧
    Move relay task before after shared ∧ next = shared.withStage task after

/-- A refused record ends its errand or leads to the next one. -/
private theorem moves_afterErrand_refused {relay : Relay} {task : TaskId} {record : PackageRecord}
    {errand : Errand} (at_ : relay.stage? task = some (.offering record errand))
    (closed : relay.queue.closed = true) :
    relay.Moves task (relay.afterErrand task errand (some .closed)) := by
  refine ⟨_, _, _, at_, .refuse closed, ?_⟩
  -- Only a batch tells of the refusal.
  cases errand with
  | single => simp [afterErrand, Errand.refusal, Errand.refused]
  | batch records => rfl

private theorem moves_offer {relay : Relay} {task : TaskId} {record : PackageRecord}
    {errand : Errand} (at_ : relay.stage? task = some (.offering record errand)) :
    relay.Moves task (relay.offer task record errand).1 := by
  -- Only the lock of the queue decides between the two moves.
  cases closed : relay.queue.closed with
  | true =>
    simpa [offer, Queue.accept?, closed] using moves_afterErrand_refused at_ closed
  | false =>
    simp only [offer, Queue.accept?, closed]
    exact ⟨_, _, _, at_, .accept closed, by simp [closed]⟩

private theorem moves_place {relay next : Relay} {task : TaskId} {errand : Errand}
    {told : List TaskId} (at_ : relay.stage? task = some (.placing errand))
    (placed : relay.place task errand = some (next, told)) : relay.Moves task next := by
  cases found : relay.queue.place? task with
  | none => simp [place, found] at placed
  | some queue =>
    -- Whether other records follow or not, the queue becomes the same.
    simp only [place, found, Option.bind_eq_bind, Option.bind_some, Option.some.injEq,
      Prod.mk.injEq] at placed
    obtain ⟨rfl, -⟩ := placed
    cases errand with
    | single => exact ⟨_, _, _, at_, .place found, rfl⟩
    | batch records => exact ⟨_, _, _, at_, .place found, rfl⟩

private theorem moves_take {relay next : Relay} {task : TaskId} {looked : Bool} {told : List TaskId}
    (at_ : relay.stage? task = some (.inLine looked)) (took : relay.take task = some (next, told)) :
    relay.Moves task next := by
  cases found : relay.queue.take? task with
  | some pair =>
    obtain ⟨record, queue⟩ := pair
    simp only [take, found, Option.some.injEq, Prod.mk.injEq] at took
    obtain ⟨rfl, -⟩ := took
    exact ⟨_, _, _, at_, .take found, rfl⟩
  | none =>
    -- Without a record the step can only be that of a worker that was told to stop.
    simp only [take, found] at took
    split at took
    · next stopped =>
      obtain rfl : (relay.retire task).1 = next := by rw [Option.some.inj took]
      exact ⟨_, _, _, at_, .rest (fun _ => found) stopped, rfl⟩
    · simp at took

private theorem moves_heed {relay next : Relay} {task : TaskId} {told : List TaskId}
    (at_ : relay.stage? task = some (.inLine true)) (took : relay.heed task = some (next, told)) :
    relay.Moves task next := by
  -- The worker has looked for a record before, so it ends whatever there is to take now.
  simp only [heed] at took
  split at took
  · next stopped =>
    obtain rfl : (relay.retire task).1 = next := by rw [Option.some.inj took]
    exact ⟨_, _, _, at_, .rest (by simp) stopped, rfl⟩
  · exact moves_take at_ took

private theorem moves_dispatch {relay : Relay} {task : TaskId} {record : PackageRecord}
    (at_ : relay.stage? task = some (.dispatching record)) :
    relay.Moves task (relay.dispatch task record).1 := by
  cases found : relay.registry.session? record.origin.path with
  | none =>
    simp only [dispatch, Registry.lookup, found]
    exact ⟨_, _, _, at_, .drop found, rfl⟩
  | some session =>
    simp only [dispatch, Registry.lookup, found]
    refine ⟨_, _, _, at_, .publish found, ?_⟩
    cases record.degradation? with
    | none => simp
    | some problem => rfl

private theorem moves_queueNext {relay : Relay} {task : TaskId} {batch : Batch}
    (at_ : relay.stage? task = some (.queueing batch)) :
    relay.Moves task (relay.queueNext task batch).1 := by
  -- The next entry of the batch decides between the moves.
  obtain ⟨manifest, remaining, accepted⟩ := batch
  cases remaining with
  | nil => exact ⟨_, _, _, at_, .count, rfl⟩
  | cons entry remaining =>
    cases entry with
    | ok record => exact ⟨_, _, _, at_, .offer, rfl⟩
    | error problem => exact ⟨_, _, _, at_, .skip, rfl⟩

private theorem moves_approachDesk {relay : Relay} {task : TaskId} {source : Source}
    (at_ : relay.stage? task = some (.atDesk source)) (first : relay.desk.head? = some task) :
    relay.Moves task (relay.approachDesk task source).1 := by
  -- The caller has its turn at the desk, and what it does depends on the queue.
  cases closed : relay.queue.closed with
  | true =>
    simp only [approachDesk, closed]
    exact ⟨_, _, _, at_, .shut first closed, rfl⟩
  | false =>
    simp only [approachDesk, closed]
    exact ⟨_, _, _, at_, .enter first closed, rfl⟩

private theorem moves_openSession {relay : Relay} {task : TaskId} {source : Source}
    (at_ : relay.stage? task = some (.checking source)) :
    relay.Moves task (relay.openSession task source).1 := by
  -- A caller that finds a session needs no request.
  cases served : relay.registry.contains source.origin.path with
  | true =>
    simp only [openSession, served]
    exact ⟨_, _, _, at_, .known served, rfl⟩
  | false =>
    cases written : relay.config.sessionRequest source.origin.shownPath with
    | ok request =>
      simp only [openSession, served, written]
      exact ⟨_, _, _, at_, .ask served written, rfl⟩
    | error problem =>
      simp only [openSession, served, written]
      exact ⟨_, _, _, at_, .unasked written, rfl⟩

private theorem moves_beginFinish {relay : Relay} {task : TaskId}
    (at_ : relay.stage? task = some .inFinishLine) (first : relay.finishers.head? = some task) :
    relay.Moves task (relay.beginFinish task).1 := by
  -- Without workers at hand another caller has finished, or is about to.
  cases pool : relay.pool with
  | none =>
    simp only [beginFinish, pool]
    exact ⟨_, _, _, at_, .late first pool, rfl⟩
  | some workers =>
    simp only [beginFinish, pool]
    exact ⟨_, _, _, at_, .begin first (by simp [pool]), rfl⟩

private theorem moves_join {relay next : Relay} {task : TaskId} {finishing : Bool}
    {told : List TaskId} (at_ : relay.stage? task = some (.joining finishing))
    (joined : relay.join task finishing = some (next, told)) : relay.Moves task next := by
  unfold join at joined
  extract_lets hasEnded workers at joined
  split at joined
  · next worker found =>
    -- The worker that was found has ended, in one of the two ways.
    have waited : worker ∈ relay.workersTakenBy task := List.mem_of_find?_eq_some found
    have ended : hasEnded worker = true := List.find?_some found
    simp only [Option.some.injEq, Prod.mk.injEq] at joined
    obtain ⟨rfl, -⟩ := joined
    simp only [hasEnded] at ended
    split at ended
    · next rested =>
      -- The caller stays at its stage, so its task is written back unchanged.
      simp only [rested]
      exact ⟨_, _, _, at_, .join waited (.inl ⟨rested, rfl⟩), by
        simp [withStage, changeTaken, set_eq_self at_]⟩
    · next record lost =>
      simp only [lost]
      exact ⟨_, _, _, at_, .join waited (.inr ⟨record, lost, rfl⟩), by
        simp [withStage, changeTaken, report, set_eq_self at_]⟩
    · simp at ended
  · -- When none is found, all have been seen to end.
    split at joined
    · next alone =>
      simp only [Option.some.injEq, Prod.mk.injEq] at joined
      obtain ⟨rfl, -⟩ := joined
      exact ⟨_, _, _, at_, .joined (List.isEmpty_iff.1 alone), rfl⟩
    · simp at joined

private theorem moves_collectIn {relay next : Relay} {task : TaskId} {order : List String}
    {told : List TaskId} (at_ : relay.stage? task = some .atDeskToCollect)
    (all : order.Perm relay.sessions) (collected : relay.collectIn task order = some (next, told)) :
    relay.Moves task next := by
  simp only [collectIn, Option.ite_none_right_eq_some, Option.some.injEq, Prod.mk.injEq] at collected
  obtain ⟨first, rfl, -⟩ := collected
  exact ⟨_, _, _, at_, .collect first all, rfl⟩

private theorem moves_closeNext {relay : Relay} {task : TaskId} {remaining : List String}
    {failure : Option RelayError}
    (at_ : relay.stage? task = some (.closing remaining failure)) :
    relay.Moves task (relay.closeNext task remaining failure).1 := by
  -- Either another session is completed, or the finish comes to its end with what went wrong first.
  cases remaining with
  | cons session remaining => exact ⟨_, _, _, at_, .complete, rfl⟩
  | nil =>
    cases failure with
    | none => exact ⟨_, _, _, at_, .finish, rfl⟩
    | some problem => exact ⟨_, _, _, at_, .finish, rfl⟩

/-- Every step that a task takes by itself is a move. -/
theorem moves_of_advance {relay next : Relay} {task : TaskId} {told : List TaskId}
    (advanced : relay.advance task = some (next, told)) : relay.Moves task next := by
  -- The stage of the task tells which function makes the step.
  unfold advance at advanced
  cases at_ : relay.stage? task with
  | none => simp [at_] at advanced
  | some stage =>
    simp only [at_] at advanced
    cases stage with
    | seeking =>
      obtain ⟨rfl, -⟩ := by simpa using advanced
      exact ⟨_, _, _, at_, .seek, rfl⟩
    | inLine looked =>
      cases looked with
      | false => exact moves_take at_ advanced
      | true => exact moves_heed at_ advanced
    | dispatching record =>
      obtain rfl : (relay.dispatch task record).1 = next := by simp_all
      exact moves_dispatch at_
    -- Where the step depends on the state, the function of its stage has a lemma of its own.
    | offering record errand =>
      obtain rfl : (relay.offer task record errand).1 = next := by simp_all
      exact moves_offer at_
    | counted record errand =>
      obtain ⟨rfl, -⟩ := by simpa using advanced
      exact ⟨_, _, _, at_, .line, rfl⟩
    | placing errand => exact moves_place at_ advanced
    | queueing batch =>
      obtain rfl : (relay.queueNext task batch).1 = next := by simp_all
      exact moves_queueNext at_
    | arriving source =>
      obtain ⟨rfl, -⟩ := by simpa using advanced
      exact ⟨_, _, _, at_, .approach, rfl⟩
    | atDesk source =>
      simp only [Option.ite_none_right_eq_some, Option.some.injEq] at advanced
      obtain ⟨first, same⟩ := advanced
      obtain rfl : (relay.approachDesk task source).1 = next := by simp [same]
      exact moves_approachDesk at_ first
    | checking source =>
      obtain rfl : (relay.openSession task source).1 = next := by simp_all
      exact moves_openSession at_
    | toFinish =>
      obtain ⟨rfl, -⟩ := by simpa using advanced
      exact ⟨_, _, _, at_, .queueUp, rfl⟩
    | inFinishLine =>
      simp only [Option.ite_none_right_eq_some, Option.some.injEq] at advanced
      obtain ⟨first, same⟩ := advanced
      obtain rfl : (relay.beginFinish task).1 = next := by simp [same]
      exact moves_beginFinish at_ first
    | draining finishing =>
      obtain ⟨rfl, -⟩ := by simpa using advanced
      exact ⟨_, _, _, at_, .wait, rfl⟩
    | atBarrier finishing =>
      cases passed : relay.queue.pass? task with
      | none => simp [passed] at advanced
      | some queue =>
        obtain ⟨rfl, -⟩ := by simpa [passed] using advanced
        exact ⟨_, _, _, at_, .pass passed, rfl⟩
    | stopping finishing =>
      obtain rfl : (relay.stop task finishing).1 = next := by simp_all
      exact ⟨_, _, _, at_, .stop, rfl⟩
    | joining finishing => exact moves_join at_ advanced
    | collecting =>
      obtain ⟨rfl, -⟩ := by simpa using advanced
      exact ⟨_, _, _, at_, .gather, rfl⟩
    | atDeskToCollect => exact moves_collectIn at_ (.refl _) advanced
    | closing remaining failure =>
      obtain rfl : (relay.closeNext task remaining failure).1 = next := by simp_all
      exact moves_closeNext at_
    -- Those that wait for a reply or have ended take no step.
    | publishing record request => simp at advanced
    | opening source request => simp at advanced
    | completing session remaining failure => simp at advanced
    | rested => simp at advanced
    | lost record => simp at advanced
    | ended ending => simp at advanced

/-- A worker that looks for a record and finds none makes a move. -/
theorem moves_of_look {relay next : Relay} {task : TaskId} (looked : relay.look task = some next) :
    relay.Moves task next := by
  unfold look at looked
  split at looked
  · next at_ idle =>
    obtain rfl := Option.some.inj looked
    exact ⟨_, _, _, at_, .look idle, rfl⟩
  · simp at looked

/-- A caller that looks up the open sessions makes a move, whatever order it has them in. -/
theorem moves_of_collect {relay next : Relay} {task : TaskId} {order : List String}
    {told : List TaskId} (collected : relay.collect task order = some (next, told)) :
    relay.Moves task next := by
  unfold collect at collected
  split at collected
  · next at_ =>
    rw [Option.ite_none_right_eq_some] at collected
    exact moves_collectIn at_ (List.isPerm_iff.1 collected.1) collected.2
  · simp at collected

/-- Every reply makes a move of the task that waits for it. -/
theorem moves_of_answer {relay next : Relay} {task : TaskId} {reply : Reply} {told : List TaskId}
    (answered : relay.answer task reply = some (next, told)) : relay.Moves task next := by
  -- The stage tells which call is replied to, and so which replies there can be.
  unfold answer at answered
  cases at_ : relay.stage? task with
  | none => simp [call?, at_] at answered
  | some stage =>
    cases stage with
    | publishing record request =>
      cases reply with
      | granted text =>
        obtain ⟨rfl, -⟩ := by simpa [call?, at_, Stage.call?, settleCall] using answered
        exact ⟨_, _, _, at_, .published text, rfl⟩
      | refused problem =>
        obtain ⟨rfl, -⟩ := by simpa [call?, at_, Stage.call?, settleCall] using answered
        exact ⟨_, _, _, at_, .rejected problem, rfl⟩
      | crashed =>
        obtain ⟨rfl, -⟩ := by simpa [call?, at_, Stage.call?, settleCall] using answered
        exact ⟨_, _, _, at_, .crash, rfl⟩
    | opening source request =>
      cases reply with
      | granted session =>
        obtain ⟨rfl, -⟩ := by simpa [call?, at_, Stage.call?, settleCall] using answered
        exact ⟨_, _, _, at_, .opened session, rfl⟩
      | refused problem =>
        obtain ⟨rfl, -⟩ := by simpa [call?, at_, Stage.call?, settleCall] using answered
        exact ⟨_, _, _, at_, .unopened problem, rfl⟩
      -- Only a worker can break down in the middle of its call.
      | crashed => simp [call?, at_, Stage.call?, settleCall] at answered
    | completing session remaining failure =>
      cases reply with
      | granted text =>
        obtain ⟨rfl, -⟩ := by simpa [call?, at_, Stage.call?, settleCall] using answered
        exact ⟨_, _, _, at_, .completed text, rfl⟩
      | refused problem =>
        obtain ⟨rfl, -⟩ := by simpa [call?, at_, Stage.call?, settleCall] using answered
        exact ⟨_, _, _, at_, .incomplete problem, by cases failure <;> rfl⟩
      | crashed => simp [call?, at_, Stage.call?, settleCall] at answered
    -- All other stages wait for no reply.
    | _ => simp [call?, at_, Stage.call?] at answered

/-- The task that an action moves, if it moves one. -/
def Action.task? : Action → Option TaskId
  | arrive _ => none
  | advance task => some task
  | look task => some task
  | collect task _ => some task
  | answer task _ => some task
  | register .. => none

/-- There are four ways in which an action moves a task. -/
theorem Action.eq_of_task? {action : Action} {task : TaskId} (acts : action.task? = some task) :
    action = .advance task ∨ action = .look task ∨ (∃ order, action = .collect task order) ∨
      ∃ reply, action = .answer task reply := by
  cases action <;> simp_all [Action.task?]

/-- A step is an arrival, a registration from elsewhere or a move. -/
theorem step_cases {relay next : Relay} {action : Action}
    (stepped : relay.step action = some next) :
    (∃ demand, action = .arrive demand ∧ next = (relay.arrive demand).1) ∨
    (∃ key session, action = .register key session ∧ next = relay.register key session) ∨
    ∃ task, action.task? = some task ∧ relay.Moves task next := by
  -- All that a task does is a move, be it of its own accord or on a reply.
  cases action with
  | arrive demand => exact .inl ⟨demand, rfl, by simpa [step] using stepped.symm⟩
  | register key session =>
    exact .inr (.inl ⟨key, session, rfl, by simpa [step] using stepped.symm⟩)
  | advance task =>
    obtain ⟨⟨_, told⟩, advanced, rfl⟩ := Option.map_eq_some_iff.1 stepped
    exact .inr (.inr ⟨task, rfl, moves_of_advance advanced⟩)
  | look task => exact .inr (.inr ⟨task, rfl, moves_of_look stepped⟩)
  | collect task order =>
    obtain ⟨⟨_, told⟩, collected, rfl⟩ := Option.map_eq_some_iff.1 stepped
    exact .inr (.inr ⟨task, rfl, moves_of_collect collected⟩)
  | answer task reply =>
    obtain ⟨⟨_, told⟩, answered, rfl⟩ := Option.map_eq_some_iff.1 stepped
    exact .inr (.inr ⟨task, rfl, moves_of_answer answered⟩)

/-- After a move only its task is at another stage. -/
theorem Move.stage? {relay shared : Relay} {task : TaskId} {before after : Stage}
    (move : Move relay task before after shared) (at_ : relay.stage? task = some before)
    (other : TaskId) :
    (shared.withStage task after).stage? other =
      if other = task then some after else relay.stage? other := by
  have inside : task < relay.tasks.length := (List.getElem?_eq_some_iff.1 at_).1
  -- The shared part of the move has left all stages as they were.
  simp only [Relay.stage?, withStage, move.tasks]
  split
  · next same => simp [same, inside]
  · next differ => exact List.getElem?_set_ne (Ne.symm differ)

section Arrivals

variable (relay : Relay) (demand : Demand)

/-- A caller that arrives comes last among the tasks. -/
theorem tasks_arrive :
    (relay.arrive demand).1.tasks = relay.tasks ++ [demand.stage relay.config] := by
  cases demand <;> rfl

@[simp] theorem config_arrive : (relay.arrive demand).1.config = relay.config := by
  cases demand <;> rfl

@[simp] theorem queue_arrive : (relay.arrive demand).1.queue = relay.queue := by
  cases demand <;> rfl

@[simp] theorem registry_arrive : (relay.arrive demand).1.registry = relay.registry := by
  cases demand <;> rfl

@[simp] theorem desk_arrive : (relay.arrive demand).1.desk = relay.desk := by
  cases demand <;> rfl

@[simp] theorem journal_arrive : (relay.arrive demand).1.journal = relay.journal := by
  cases demand <;> rfl

end Arrivals

/-- After an arrival the new task comes last, and all others are where they were. -/
theorem stage?_arrive (relay : Relay) (demand : Demand) (other : TaskId) :
    (relay.arrive demand).1.stage? other =
      if other = relay.tasks.length then some (demand.stage relay.config)
      else relay.stage? other := by
  simp only [stage?, tasks_arrive]
  -- A name is that of the new task, an old one, or not yet in use.
  split
  · next same => simp [same]
  · next differ =>
    rcases Nat.lt_or_gt_of_ne differ with below | above
    · exact List.getElem?_append_left below
    · rw [List.getElem?_eq_none (by simp; omega), List.getElem?_eq_none (by omega)]

/-- What holds of every old stage and of the new one holds of all after an arrival. -/
theorem stages_arrive {relay : Relay} {demand : Demand} {holds : TaskId → Stage → Prop}
    (old : ∀ task stage, relay.stage? task = some stage → holds task stage)
    (new : holds relay.tasks.length (demand.stage relay.config)) :
    ∀ task stage, (relay.arrive demand).1.stage? task = some stage → holds task stage := by
  -- The new task is named behind all others, and theirs are the stages they had.
  intro task stage there
  rw [stage?_arrive] at there
  split at there
  · next same =>
    obtain rfl := Option.some.inj there
    exact same ▸ new
  · exact old task stage there

end Relay

end InsightRelay
