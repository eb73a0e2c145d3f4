import InsightRelay.Proofs.Relay.Looking
import InsightRelay.Proofs.Relay.Progress

/-! Stopping: workers that are told to stop work off what is buffered before the last of them ends, unless
that one overlooks a record, and after that no record is taken any more. -/

namespace InsightRelay.Relay

section Moves

variable {relay shared : Relay} {task : TaskId} {before after : Stage}

/-- Records are taken in the order in which they got their places. -/
theorem Flow.order (flow : Flow relay shared task before after) : ∃ placed,
    relay.books.buffer ++ placed =
      (relay.seeDispatched task before after).map Prod.snd ++ shared.books.buffer := by
  cases flow with
  | still cargo credit books _ undispatched => exact ⟨[], by simp [books, undispatched]⟩
  | @place record errand member books => exact ⟨[record], by simp [books, seeDispatched]⟩
  | take front books => exact ⟨[], by simp [front, books, seeDispatched]⟩
  | _ => exact ⟨[], by simp_all [seeDispatched]⟩

/-- A caller takes no record, and neither looks up a session for one nor resolves it. -/
theorem Move.records_of_caller (move : Move relay task before after shared)
    (caller : before.role ≠ .worker) : relay.seeDispatched task before after = [] ∧
      relay.seeRouted task before after = [] ∧ relay.seeResolved task before after = [] := by
  -- The moves that take, look up or resolve are moves of workers.
  cases move with
  | take | drop | publish | published | rejected => exact absurd rfl caller
  | @refuse record errand => cases errand <;> exact ⟨rfl, rfl, rfl⟩
  | @place errand => cases errand <;> exact ⟨rfl, rfl, rfl⟩
  | @pass finishing => cases finishing <;> exact ⟨rfl, rfl, rfl⟩
  | @joined finishing => cases finishing <;> exact ⟨rfl, rfl, rfl⟩
  | _ => exact ⟨rfl, rfl, rfl⟩

/-- Where no workers are at hand nobody takes any. -/
theorem Move.owners (move : Move relay task before after shared) (none_ : relay.pool = none) :
    shared.taken.map Prod.fst = relay.taken.map Prod.fst := by
  cases move with
  | begin first ready => simp [none_] at ready
  | stop | join => simp [changeTaken]
  | _ => rfl

end Moves

section Runs

variable {crew : List TaskId} {relay later : Relay} {more : List Action}

/-- What was buffered is taken first, in its order, and what is left comes before all newer records. -/
theorem buffer_order_of_run (lined : Lined relay) (ran : relay.run more = some later) : ∃ placed,
    relay.queue.buffer ++ placed =
      (relay.dispatched more).map Prod.snd ++ later.queue.buffer := by
  -- Each move that places or takes a record does so at the end and at the front of the buffer.
  refine run_induction (fun more later => ∃ placed, relay.queue.buffer ++ placed =
    (relay.dispatched more).map Prod.snd ++ later.queue.buffer) ⟨[], by simp [dispatched, watch]⟩
    ?arrive ?register ?move ran
  case arrive =>
    intro past later demand ran ih
    rw [queue_arrive, dispatched, watch_arrive ran]
    exact ih
  case register =>
    intro past later key session ran ih
    rw [dispatched, watch_register ran]
    exact ih
  case move =>
    intro past later action task before after shared ran ih acts at_ move stepped
    obtain ⟨earlier, kept⟩ := ih
    obtain ⟨placed, order⟩ := ((lined.run ran).flow at_ move).order
    simp only [books] at order
    simp only [dispatched] at kept
    -- What this move places comes behind all that was placed before.
    refine ⟨earlier ++ placed, ?_⟩
    simp only [dispatched, withStage]
    rw [watch_move ran acts at_ move stepped, List.map_append, ← List.append_assoc, kept,
      List.append_assoc, order, List.append_assoc]

/-- A worker in line that finds nothing to take when all others have ended finds the buffer empty. -/
theorem Crew.buffer_eq_nil (known : Crew crew relay) {task : TaskId} {looked : Bool}
    (at_ : relay.stage? task = some (.inLine looked))
    (alone : ∀ worker ∈ crew, worker ≠ task → relay.HasLeft worker)
    (idle : relay.queue.take? task = none) : relay.queue.buffer = [] := by
  -- All others have ended, so nobody else stands in line.
  have own : ∀ other ∈ relay.queue.takers, other = task := fun other member => by
    obtain ⟨stage, waits, stands⟩ := (known.takers.known other).1 member
    obtain ⟨looked, rfl⟩ := Stage.standsIn_takers.1 stands
    by_contra differ
    obtain ⟨stage, there, left⟩ := alone other ((known.workers other _ waits).1 rfl) differ
    obtain rfl := Option.some.inj (waits.symm.trans there)
    simp [Stage.hasLeft] at left
  by_contra full
  -- The worker is the first in line, so only an empty buffer can have kept it from taking a record.
  obtain ⟨record, buffer, front⟩ := List.exists_cons_of_ne_nil full
  have member : task ∈ relay.queue.takers := (known.takers.known task).2 ⟨_, at_, rfl⟩
  obtain ⟨first, others, line⟩ := List.exists_cons_of_ne_nil (List.ne_nil_of_mem member)
  obtain rfl : first = task := own first (by simp [line])
  simp [Queue.take?, line, front] at idle

/-- When all workers have ended that have not yet done so, all that was buffered has been taken, unless
the last of them has overlooked a record. -/
theorem buffer_of_left (known : Crew crew relay) (awake : ∃ worker ∈ crew, ¬relay.HasLeft worker)
    (ran : relay.run more = some later) (unbroken : Unbroken more)
    (left : ∀ worker ∈ crew, later.HasLeft worker) :
    relay.queue.buffer <+: (relay.dispatched more).map Prod.snd ∨ Overlooks crew relay more := by
  refine run_induction (fun more later => Unbroken more → (∀ worker ∈ crew, later.HasLeft worker) →
    relay.queue.buffer <+: (relay.dispatched more).map Prod.snd ∨ Overlooks crew relay more)
    ?initial ?arrive ?register ?move ran unbroken left
  case initial =>
    -- At first some worker has not ended.
    intro _ left
    obtain ⟨worker, member, stays⟩ := awake
    exact absurd (left worker member) stays
  case arrive =>
    intro past later demand ran ih unbroken left
    rw [dispatched, watch_arrive ran]
    refine (ih unbroken.earlier fun worker member => ?_).imp_right (·.mono (List.prefix_append ..))
    -- A worker is one of the tasks that were there before the caller.
    obtain ⟨stage, there⟩ := (known.run ran).hired worker member
    obtain ⟨_, at_, ended⟩ := left worker member
    rw [stage?_arrive, if_neg (Nat.ne_of_lt (List.getElem?_eq_some_iff.1 there).1)] at at_
    exact ⟨_, at_, ended⟩
  case register =>
    intro past later key session ran ih unbroken left
    rw [dispatched, watch_register ran]
    exact (ih unbroken.earlier left).imp_right (·.mono (List.prefix_append ..))
  case move =>
    intro past later action task before after shared ran ih acts at_ move stepped unbroken left
    rw [dispatched, watch_move ran acts at_ move stepped, List.map_append]
    have others : ∀ worker ∈ crew, worker ≠ task → later.HasLeft worker := by
      intro worker member differ
      obtain ⟨stage, there, ended⟩ := left worker member
      rw [move.stage? at_, if_neg differ] at there
      exact ⟨stage, there, ended⟩
    by_cases mover : task ∈ crew
    · -- The last worker ends with this move.
      obtain ⟨stage, there, ended⟩ := left task mover
      rw [move.stage? at_, if_pos rfl] at there
      obtain rfl := Option.some.inj there
      rcases move.leaves ended with ⟨looked, rfl, told, idle⟩ | ⟨record, lost⟩
      · cases taken : later.queue.take? task with
        | none =>
          have empty := (known.run ran).buffer_eq_nil at_ others taken
          obtain ⟨placed, order⟩ := buffer_order_of_run known.lined ran
          rw [empty, List.append_nil] at order
          exact .inl (List.IsPrefix.trans ⟨placed, order⟩ (List.prefix_append _ _))
        | some found =>
          -- What is at hand for it now was not there when it looked.
          cases looked with
          | false => simp [taken] at idle
          | true =>
            obtain rfl := eq_advance at_ acts stepped
            exact .inr ⟨past, later, task, List.prefix_refl _, ran, at_, told, by simp [taken], others⟩
      · obtain rfl := move.loses at_ acts stepped lost
        exact absurd (by simp) (unbroken task)
    · refine (ih unbroken.earlier fun worker member => others worker member fun same =>
        mover (same ▸ member)).imp (·.trans (List.prefix_append _ _))
          (·.mono (List.prefix_append ..))

/-- When all workers have ended, no record is taken or resolved and none is published. -/
structure Stilled (relay : Relay) (more : List Action) (later : Relay) : Prop where
  dispatched : relay.dispatched more = []
  resolved : relay.resolved more = []
  published : (relay.calls more).filterMap publicationOf = []
  /-- Whatever is counted from then on stays pending. -/
  pending : later.queue.pending = relay.queue.pending + (relay.accepted more).length

/-- When all workers have ended, records are only added to those that are pending. -/
theorem stilled_of_left (known : Crew crew relay) (left : ∀ worker ∈ crew, relay.HasLeft worker)
    (ran : relay.run more = some later) : Stilled relay more later := by
  -- What is published follows what was looked up, so it is enough to follow the records.
  suffices stilled : relay.dispatched more = [] ∧ relay.routed more = [] ∧ relay.resolved more = [] ∧
      later.queue.pending = relay.queue.pending + (relay.accepted more).length by
    obtain ⟨dispatched, routed, resolved, pending⟩ := stilled
    exact ⟨dispatched, resolved, by rw [publications_of_run ran, routed]; rfl, pending⟩
  refine run_induction (fun more later => relay.dispatched more = [] ∧ relay.routed more = [] ∧
    relay.resolved more = [] ∧
      later.queue.pending = relay.queue.pending + (relay.accepted more).length)
    ⟨rfl, rfl, rfl, rfl⟩ ?arrive ?register ?move ran
  case arrive =>
    intro past later demand ran ih
    simpa only [dispatched, routed, resolved, accepted, watch_arrive ran, queue_arrive] using ih
  case register =>
    intro past later key session ran ih
    simp only [dispatched, routed, resolved, accepted, watch_register ran]
    exact ih
  case move =>
    intro past later action task before after shared ran ih acts at_ move stepped
    -- A worker that has ended makes no move, so it is a caller that moves.
    have caller : before.role ≠ .worker := fun worker => by
      obtain ⟨stage, there, ended⟩ :=
        (left task (((known.run ran).workers task before at_).1 worker)).run ran
      obtain rfl := Option.some.inj (at_.symm.trans there)
      simp [move.awake] at ended
    obtain ⟨undispatched, unrouted, unresolved⟩ := move.records_of_caller caller
    have pending := (((known.run ran).lined).flow at_ move).pending
    simp only [dispatched, routed, resolved, accepted] at ih
    obtain ⟨noneDispatched, noneRouted, noneResolved, before_⟩ := ih
    simp only [dispatched, routed, resolved, accepted, watch_move ran acts at_ move stepped]
    simp only [books] at pending
    simp [noneDispatched, noneRouted, noneResolved, undispatched, unrouted, unresolved, withStage,
      pending, before_, Nat.add_assoc]

/-- When all workers have ended and none of them broke down, they have nothing. -/
theorem Crew.holdings_eq_nil {α : Type} {look : Stage → Option α} (known : Crew crew relay)
    (left : ∀ worker ∈ crew, relay.HasLeft worker)
    (sound : Sound relay)
    (workers : ∀ stage thing, look stage = some thing → stage.role = .worker)
    (empty : look .rested = none) : relay.holdings look = [] := by
  -- Whoever had something would be a worker that has ended, and those that rest have nothing.
  refine List.eq_nil_iff_forall_not_mem.2 fun entry member => ?_
  obtain ⟨stage, at_, has⟩ := mem_holdings.1 member
  obtain ⟨found, there, ended⟩ :=
    left entry.1 ((known.workers entry.1 stage at_).1 (workers stage entry.2 has))
  obtain rfl := Option.some.inj (at_.symm.trans there)
  cases stage with
  | rested => simp [empty] at has
  | lost record => exact sound _ _ at_ record rfl
  | _ => simp [Stage.hasLeft] at ended

end Runs

/-- A caller has taken the workers and now calls for their end. -/
structure CallsStop (relay : Relay) (caller : TaskId) (pool : Pool) : Prop where
  called : ∃ finishing, relay.stage? caller = some (.stopping finishing)
  owns : (caller, pool) ∈ relay.taken

/-- A caller that called for the end of its workers waits for that no longer. -/
def HasStopped (relay : Relay) (caller : TaskId) : Prop :=
  ∃ stage, relay.stage? caller = some stage ∧ stage.isStopping = false

/-- What is known of the one that stops the workers from the moment when it calls for their end. -/
structure Stopper (relay : Relay) (caller : TaskId) : Prop where
  pool : relay.pool = none
  owner : relay.taken.map Prod.fst = [caller]
  called : ∃ stage, relay.stage? caller = some stage ∧ stage.isWaiting = false

section Stops

variable {crew : List TaskId} {relay later : Relay} {more : List Action} {caller : TaskId} {pool : Pool}

/-- Whoever calls for the end of its workers is the one that stops them. -/
theorem Custody.stopper (custody : Custody crew relay) (stops : CallsStop relay caller pool) :
    Stopper relay caller := by
  obtain ⟨none_, taken⟩ := custody.alone stops.owns
  obtain ⟨finishing, at_⟩ := stops.called
  exact ⟨none_, by simp [taken], _, at_, rfl⟩

/-- Nobody else comes to stop the workers. -/
theorem Stopper.run (stopper : Stopper relay caller) (ran : relay.run more = some later) :
    Stopper later caller := by
  -- Whoever else might take the workers finds none at hand, and the stopper does not wait again.
  refine run_induction (fun _ later => Stopper later caller) stopper ?arrive ?register ?move ran
  case arrive =>
    intro past later demand _ stopper
    obtain ⟨none_, owner, stage, there, idle⟩ := stopper
    have inside := (List.getElem?_eq_some_iff.1 there).1
    refine ⟨?_, ?_, stage, by rw [stage?_arrive, if_neg (Nat.ne_of_lt inside), there], idle⟩
    · cases demand <;> simp [Relay.arrive, takePool, none_]
    · cases demand <;> simp [Relay.arrive, takePool, none_, owner]
  case register =>
    exact fun past later key session _ stopper => ⟨stopper.pool, stopper.owner, stopper.called⟩
  case move =>
    intro past later action task before after shared _ stopper _ at_ move _
    refine ⟨?_, (move.owners stopper.pool).trans stopper.owner, ?_⟩
    · cases ready : shared.pool with
      | none => exact ready
      | some pool => simpa [stopper.pool] using move.ready ready
    · obtain ⟨stage, there, idle⟩ := stopper.called
      rw [move.stage? at_]
      split
      · next same =>
        subst same
        obtain rfl : before = stage := Option.some.inj (at_.symm.trans there)
        refine ⟨after, rfl, Bool.eq_false_iff.2 fun waits => ?_⟩
        -- To wait again it would have to take the workers again.
        rcases move.waits waits with waited | ready
        · simp [idle] at waited
        · simp [stopper.pool] at ready
      · exact ⟨stage, there, idle⟩

/-- The one that stops the workers has charge of all that have not been seen to end. -/
theorem Stopper.taken (stopper : Stopper relay caller) : ∃ pool, relay.taken = [(caller, pool)] := by
  obtain ⟨⟨owner, pool⟩, same, rfl⟩ := List.map_eq_singleton_iff.1 stopper.owner
  exact ⟨pool, same⟩

/-- When the one that stops the workers waits no longer, all of them have ended. -/
theorem Stopper.left (stopper : Stopper relay caller) (custody : Custody crew relay)
    (stopped : relay.HasStopped caller) : ∀ worker ∈ crew, relay.HasLeft worker := by
  obtain ⟨pool, taken⟩ := stopper.taken
  obtain ⟨stage, there, keeps⟩ := custody.owned (caller, pool) (by simp [taken])
  obtain ⟨_, known, ended⟩ := stopped
  obtain ⟨_, known', idle⟩ := stopper.called
  -- All three speak of the same stage of the caller.
  obtain rfl := Option.some.inj (there.symm.trans known)
  obtain rfl := Option.some.inj (there.symm.trans known')
  intro worker member
  rcases custody.kept worker member with ⟨other, inside, works⟩ | left
  · -- No other pool is there, and in this one no worker is left.
    obtain rfl : other = pool := by simpa [pools, stopper.pool, taken] using inside
    have none_ : other.workers = [] := keeps.through idle ended
    simp [none_] at works
  · exact left

/-- At rest the one that stops the workers waits no longer. -/
theorem Stopper.stopped (stopper : Stopper relay caller) (known : Crew crew relay)
    (custody : Custody crew relay) (rest : AtRest relay)
    (sound : Sound relay) :
    relay.HasStopped caller := by
  obtain ⟨pool, taken⟩ := stopper.taken
  obtain ⟨stage, there, keeps⟩ := custody.owned (caller, pool) (by simp [taken])
  refine ⟨stage, there, Bool.eq_false_iff.2 fun stops => ?_⟩
  cases stage with
  -- One that is about to tell the workers has a step to take.
  | stopping finishing => simpa [Stage.mayRest] using rest.mayRest there
  | joining finishing =>
    -- It waits for a worker, which was told to stop and so cannot wait in line.
    obtain ⟨worker, waited, awake⟩ := rest.of_joining there
    obtain ⟨entry, owned, works⟩ := List.mem_flatMap.1 waited
    obtain rfl : entry = (caller, pool) := by simpa [taken] using (List.mem_filter.1 owned).1
    have member : worker ∈ crew := custody.members pool (by simp [pools, taken]) works
    obtain ⟨found, at_⟩ := known.hired worker member
    rcases rest.worker at_ ((known.workers worker found at_).2 member) (sound worker found at_) with
      ⟨looked, rfl⟩ | rfl
    · have stopping : pool.stopping = true := keeps.joining finishing rfl
      have told : relay.mustStop worker = true :=
        List.any_eq_true.2 ⟨(caller, pool), by simp [taken], by simpa [stopping] using works⟩
      simp [rest.untold at_] at told
    · exact awake at_
  | _ => simp [Stage.isStopping] at stops

end Stops

/-- What the workers of a pool do at a moment of a run: nothing of it gets lost, and none of them does
two things at once. -/
structure Working (start : Relay) (count : Nat) (past : List Action) (relay : Relay) : Prop where
  /-- Each publication that began has had its reply, or its worker waits for it. -/
  called : ((start.calls past).filterMap publicationOf).Perm
    (relay.journal.filterMap Exchange.publication? ++ relay.outstanding)
  bounded : relay.outstanding.length ≤ count
  /-- Each record that was taken is resolved, or its worker has it. -/
  taken : (start.dispatched past).Perm (start.resolved past ++ relay.inHand)
  single : (relay.inHand.map Prod.fst).Nodup
  settled : relay.queue.resolved = (start.resolved past).length

/-- What has been done since the workers were to be stopped, with the replies that came since then, when
none of them is left. -/
structure WorkedOff (crew : List TaskId) (relay : Relay) (more : List Action) (later : Relay)
    (since : List Exchange) : Prop where
  journal : later.journal = relay.journal ++ since
  /-- No worker broke down. -/
  sound : ∀ exchange ∈ since, exchange.reply ≠ .crashed
  /-- Each publication that was under way or began since then has had its reply. -/
  answered : (relay.outstanding ++ (relay.calls more).filterMap publicationOf).Perm
    (since.filterMap Exchange.publication?)
  /-- What was buffered has been taken in its order and before all that came later, and what has not
  been taken is still buffered. -/
  order : ∃ placed, relay.queue.buffer ++ placed =
    (relay.dispatched more).map Prod.snd ++ later.queue.buffer
  /-- All that was buffered has been taken, unless the last worker has overlooked a record. -/
  buffer : relay.queue.buffer <+: (relay.dispatched more).map Prod.snd ∨ Overlooks crew relay more
  /-- For each record that was taken a session was looked up once. -/
  routed : (relay.unseen ++ relay.dispatched more).Perm
    ((relay.routed more).map fun route => (route.worker, route.record))
  /-- Each record with a session was published once. -/
  called : (relay.calls more).filterMap publicationOf = (relay.routed more).filterMap publication?
  /-- Each record that a worker had or took is resolved. -/
  resolved : (relay.inHand ++ relay.dispatched more).Perm (relay.resolved more)
  settled : later.queue.resolved = relay.queue.resolved + (relay.resolved more).length
  published : later.queue.published = relay.queue.published + since.countP Exchange.isPublished
  /-- Records fail by a refusal of the service or because they have no session. -/
  failed : later.queue.failed = relay.queue.failed + since.countP Exchange.isRejected +
    (relay.routed more).countP fun route => route.session.isNone
  /-- From now on nothing is taken any more. -/
  stilled : ∀ further last, later.run further = some last → Stilled later further last

section Pools

variable {early relay : Relay} {count : Nat} {actions : List Action}

/-- Workers that start leave all others with what they had, and have nothing themselves. -/
theorem Vacant.holdings_hired {α : Type} {look : Stage → Option α} (vacant : Vacant early)
    (count : Nat) (empty : look .seeking = none) :
    (early.startWorkers count).1.holdings look = early.holdings look := by
  -- The new workers come behind all other tasks, and each of them is only about to seek a record.
  rw [vacant.startWorkers_eq, holdings, holdings, List.zipIdx_append, List.filterMap_append,
    List.append_right_eq_self]
  refine List.filterMap_eq_nil_iff.2 fun entry member => ?_
  have hired : entry.1 = .seeking :=
    List.eq_of_mem_replicate (List.fst_mem_of_mem_zipIdx member)
  simp [hired, empty]

/-- Where no workers were, nobody has what workers have. -/
theorem Vacant.holdings_eq_nil {α : Type} {look : Stage → Option α} (vacant : Vacant early)
    (workers : ∀ stage thing, look stage = some thing → stage.role = .worker) :
    early.holdings look = [] := by
  refine List.eq_nil_iff_forall_not_mem.2 fun entry member => ?_
  obtain ⟨stage, at_, has⟩ := mem_holdings.1 member
  exact vacant.callers _ stage at_ (workers stage entry.2 has)

/-- Workers that have just started have nothing. -/
theorem Vacant.holdings_startWorkers {α : Type} {look : Stage → Option α} (vacant : Vacant early)
    (workers : ∀ stage thing, look stage = some thing → stage.role = .worker)
    (empty : look .seeking = none) : (early.startWorkers count).1.holdings look = [] :=
  (vacant.holdings_hired count empty).trans (vacant.holdings_eq_nil workers)

/-- Workers that have just started are not lost. -/
theorem Vacant.sound (vacant : Vacant early) (count : Nat) : Sound (early.startWorkers count).1 := by
  intro task stage at_ record lost
  rw [vacant.stage?_startWorkers, lost] at at_
  split at at_
  · simp at at_
  · exact vacant.callers task _ at_ rfl

/-- Workers that have just started have not looked for records. -/
theorem Vacant.attentive (vacant : Vacant early) (count : Nat) :
    Attentive (early.startWorkers count).1 := by
  intro task at_
  rw [vacant.stage?_startWorkers] at at_
  split at at_
  · simp at at_
  · exact vacant.callers task _ at_ rfl

/-- Whatever a pool has done, nothing of it is lost, and no worker does two things at once. -/
theorem working_of_run (vacant : Vacant early)
    (ran : (early.startWorkers count).1.run actions = some relay) :
    Working (early.startWorkers count).1 count actions relay := by
  have crew := vacant.crew count
  obtain ⟨since, journal, -⟩ := journal_of_run ran
  have idle : (early.startWorkers count).1.outstanding = [] :=
    vacant.holdings_startWorkers (fun _ _ => Stage.role_of_request?) rfl
  have free : (early.startWorkers count).1.inHand = [] :=
    vacant.holdings_startWorkers (fun _ _ => Stage.role_of_held?) rfl
  have publications := outstanding_of_run crew.lined ran journal
  have records := inHand_of_run crew.lined ran
  have settled := (tallied_of_run crew.lined ran).settled
  rw [idle, List.nil_append] at publications
  rw [free, List.nil_append] at records
  refine ⟨?_, ?_, records, nodup_holdings, ?_⟩
  · -- Before the workers started, nothing was published.
    rw [journal, List.filterMap_append, vacant.startWorkers_eq, vacant.publications]
    rwa [vacant.startWorkers_eq] at publications
  · simpa using (crew.run ran).length_outstanding_le
  · -- Nothing was resolved without workers, so all that is resolved was resolved since.
    have none_ : (early.startWorkers count).1.queue.resolved = 0 := by
      rw [vacant.startWorkers_eq]
      exact vacant.resolved
    simp only [Queue.resolved, books] at none_ settled ⊢
    omega

/-- When all workers have ended that had not yet done so, and none of them broke down, all that they
had to do is done. -/
theorem workedOff_of_left {crew : List TaskId} {later : Relay} {more : List Action}
    (known : Crew crew relay) (awake : ∃ worker ∈ crew, ¬relay.HasLeft worker)
    (sound : Sound relay)
    (ran : relay.run more = some later) (unbroken : Unbroken more)
    (left : ∀ worker ∈ crew, later.HasLeft worker) : ∃ since, WorkedOff crew relay more later since := by
  have crew := known.run ran
  have sound := sound.run ran unbroken
  obtain ⟨since, journal, replied⟩ := journal_of_run ran
  -- Nobody has anything left, so all that was in anyone's hand has gone on.
  have idle : later.outstanding = [] :=
    crew.holdings_eq_nil left sound (fun _ _ => Stage.role_of_request?) rfl
  have free : later.inHand = [] :=
    crew.holdings_eq_nil left sound (fun _ _ => Stage.role_of_held?) rfl
  have seen : later.unseen = [] :=
    crew.holdings_eq_nil left sound (fun _ _ => Stage.role_of_fetched?) rfl
  have tallied := tallied_of_run known.lined ran
  refine ⟨since, journal, replied unbroken, ?answered, buffer_order_of_run known.lined ran,
    buffer_of_left known awake ran unbroken left, ?routed, publications_of_run ran, ?resolved,
    tallied.settled, ?published, ?failed, fun further last => stilled_of_left crew left⟩
  case answered => simpa [idle] using outstanding_of_run known.lined ran journal
  case routed => simpa [seen] using unseen_of_run known.lined ran
  case resolved => simpa [free] using inHand_of_run known.lined ran
  -- Counters start from where they stood, and grow with the replies since then.
  case published =>
    have granted := tallied.granted
    simp only [books, journal, List.countP_append] at granted
    omega
  case failed =>
    have failed := tallied.failed
    simp only [books, journal, List.countP_append] at failed
    omega

/-- No worker has ended when the one that has charge of them calls for their end. -/
theorem Custody.ne_rested {crew : List TaskId} (custody : Custody crew relay) {caller : TaskId}
    {pool : Pool} (stops : CallsStop relay caller pool) (task : TaskId) :
    relay.stage? task ≠ some .rested := by
  intro there
  obtain ⟨entry, member, told⟩ := custody.rested task there
  obtain ⟨-, taken⟩ := custody.alone stops.owns
  rw [taken, List.mem_singleton] at member
  -- The caller has told its workers nothing so far.
  obtain ⟨stage, at_, keeps⟩ := custody.owned _ stops.owns
  obtain ⟨finishing, stopping⟩ := stops.called
  have untold : pool.stopping = false :=
    keeps.stopping finishing (Option.some.inj (at_.symm.trans stopping))
  simp [member, untold] at told

end Pools

/-- However workers and callers take turns, a pool whose workers do not break down works off what is
buffered when it is to be stopped, and ends only then, unless its last worker overlooks a record. -/
theorem stopping_works_off_buffer {config : Config} {capacity count : Nat}
    {queue : Queue PackageRecord} {earlier actions more : List Action}
    {early start relay later : Relay} {workers : List TaskId} {caller : TaskId} {pool : Pool}
    (made : Queue.create? capacity = some queue)
    (opened : (idle config queue).run earlier = some early) (staffed : 0 < count)
    (started : early.startWorkers count = (start, workers)) (ran : start.run actions = some relay)
    (stops : CallsStop relay caller pool) (ranOn : relay.run more = some later)
    (unbroken : Unbroken (actions ++ more)) :
    (∀ past ∈ (actions ++ more).inits, ∀ moment ∈ start.run past,
      Working start count past moment) ∧
    (later.HasStopped caller → ∃ since, WorkedOff workers relay more later since) ∧
    ((∀ worker, .look worker ∉ actions ++ more) → ¬Overlooks workers relay more) ∧
    (AtRest later → later.HasStopped caller) := by
  have vacant := (Vacant.idle made).run opened
  -- The workers that start are all the workers there are.
  have hired : (early.startWorkers count).2 = List.range' early.tasks.length count := by
    simp [startWorkers, vacant.pool]
  obtain rfl : (early.startWorkers count).1 = start := congrArg Prod.fst started
  obtain rfl : List.range' early.tasks.length count = workers :=
    hired.symm.trans (congrArg Prod.snd started)
  have crew := (vacant.crew count).run ran
  have custody := (vacant.custody count).run ran
  have stopper := (custody.stopper stops).run ranOn
  have unbroken_before : Unbroken actions := fun task member =>
    unbroken task (List.mem_append_left _ member)
  have unbroken_after : Unbroken more := fun task member =>
    unbroken task (List.mem_append_right _ member)
  -- No worker is lost, neither before the call nor after it.
  have sound := (vacant.sound count).run ran unbroken_before
  refine ⟨fun past _ moment began => working_of_run vacant began, fun stopped => ?_,
    fun unhurried => ?_, fun rest => ?_⟩
  · -- Nobody was told to stop before the call, so the first worker has not left.
    have first : early.tasks.length ∈ List.range' early.tasks.length count :=
      List.mem_range'_1.2 ⟨Nat.le_refl _, by omega⟩
    refine workedOff_of_left crew ⟨_, first, ?_⟩ sound ranOn unbroken_after
      (stopper.left (custody.run ranOn) stopped)
    rintro ⟨stage, at_, ended⟩
    cases stage with
    | rested => exact custody.ne_rested stops _ at_
    | lost record => exact sound _ _ at_ record rfl
    | _ => simp [Stage.hasLeft] at ended
  · -- No worker stands between its two looks when they are to be stopped, and none does later on.
    have attentive := (vacant.attentive count).run ran fun worker member =>
      unhurried worker (List.mem_append_left _ member)
    exact attentive.not_overlooks fun worker member =>
      unhurried worker (List.mem_append_right _ member)
  · -- At rest nobody is left waiting, and the one that stops is no exception.
    exact stopper.stopped (crew.run ranOn) (custody.run ranOn) rest
      (sound.run ranOn unbroken_after)

/-- A record to rehearse with. -/
def rehearsalRecord (name : String) : PackageRecord :=
  ⟨coreManifest.origin, name, "1.0.0", none, none⟩

/-- A run before any workers start, in which a session is registered for all paths and two records are
queued by tasks 0 and 1. -/
def rehearsalOfBacklog : List Action :=
  [.register globalKey "session-0", .arrive (.submit (rehearsalRecord "serde"))] ++ steps 0 3 ++
  [.arrive (.submit (rehearsalRecord "rand"))] ++ steps 1 3

/-- A run in which one worker publishes the first record, two others stand in line, and task 5 comes to
stop all of them.

The workers are tasks 2, 3 and 4. -/
def rehearsalToStop : List Action :=
  steps 2 3 ++ steps 3 1 ++ steps 4 1 ++ [.arrive .stop]

/-- The same run to its end, where the second in line ends while a record is buffered. -/
def rehearsalOfStop : List Action :=
  steps 5 1 ++ steps 4 1 ++ steps 3 2 ++ [.answer 2 (.granted "")] ++ steps 2 2 ++ steps 5 2 ++
  [.answer 3 (.refused .transport)] ++ steps 3 2 ++ steps 5 2

/-- In the rehearsal one publication is under way and one record is buffered when the workers are to be
stopped. -/
theorem stopping_works_off_buffer_in_rehearsal : ∃ queue early start relay later pool,
    Queue.create? 2 = some queue ∧
      (idle rehearsalConfig queue).run rehearsalOfBacklog = some early ∧
      early.startWorkers 3 = (start, [2, 3, 4]) ∧ start.run rehearsalToStop = some relay ∧
      CallsStop relay 5 pool ∧
      relay.queue.buffer = [rehearsalRecord "rand"] ∧ relay.outstanding.length = 1 ∧
      relay.run rehearsalOfStop = some later ∧ later.ending? 5 = some .stopped ∧
      later.queue.published = 1 ∧ later.queue.failed = 1 ∧
      (∃ since, WorkedOff [2, 3, 4] relay rehearsalOfStop later since) ∧
      ¬Overlooks [2, 3, 4] relay rehearsalOfStop := by
  -- The runs are evaluated first, and the theorem is applied to what came of them.
  obtain ⟨queue, early, start, relay, later, made, opened, started, ran, stops, buffered, outstanding,
      ranOn, stopped, published, failed⟩ : ∃ queue early start relay later,
      Queue.create? 2 = some queue ∧
        (idle rehearsalConfig queue).run rehearsalOfBacklog = some early ∧
        early.startWorkers 3 = (start, [2, 3, 4]) ∧ start.run rehearsalToStop = some relay ∧
        -- The sixth task is the caller, whose pool has the three workers.
        CallsStop relay 5 ⟨3, [2, 3, 4], false⟩ ∧
        relay.queue.buffer = [rehearsalRecord "rand"] ∧ relay.outstanding.length = 1 ∧
        relay.run rehearsalOfStop = some later ∧ later.stage? 5 = some (.ended .stopped) ∧
        later.queue.published = 1 ∧ later.queue.failed = 1 :=
    ⟨_, _, _, _, _, rfl, rfl, rfl, rfl, ⟨⟨false, rfl⟩, .head _⟩, rfl, rfl, rfl, rfl, rfl, rfl⟩
  obtain ⟨-, workedOff, attentive, -⟩ :=
    stopping_works_off_buffer made opened (by decide) started ran stops ranOn (by decide)
  have unhurried : ∀ worker, Action.look worker ∉ rehearsalToStop ++ rehearsalOfStop := by
    simp [rehearsalToStop, rehearsalOfStop, steps]
  exact ⟨queue, early, start, relay, later, _, made, opened, started, ran, stops, buffered, outstanding,
    ranOn, by simp [ending?, stopped, Stage.ending?], published, failed,
    workedOff ⟨_, stopped, rfl⟩, attentive unhurried⟩

/-- A run in which the one worker finds no record, and then one is queued by task 1 and task 2 comes to
stop the worker. -/
def rehearsalToMiss : List Action :=
  steps 0 1 ++ [.look 0, .arrive (.submit (rehearsalRecord "serde"))] ++ steps 1 3 ++
  [.arrive .stop]

/-- The same run to its end, where the worker looks at the signal next. -/
def rehearsalOfMiss : List Action :=
  steps 2 1 ++ steps 0 1 ++ steps 2 2

/-- A record that is queued after the only worker has looked for one, and before it looks at the signal,
is left when the worker has stopped, and another pool that starts later takes it. -/
theorem record_left_at_stop : ∃ queue early start relay later again last,
    Queue.create? 1 = some queue ∧
      (idle rehearsalConfig queue).run [.register globalKey "session-0"] = some early ∧
      early.startWorkers 1 = (start, [0]) ∧ start.run rehearsalToMiss = some relay ∧
      CallsStop relay 2 ⟨1, [0], false⟩ ∧
      relay.queue.buffer = [rehearsalRecord "serde"] ∧
      relay.run rehearsalOfMiss = some later ∧ later.ending? 2 = some .stopped ∧
      -- The record that was buffered has not been resolved.
      later.queue.buffer = [rehearsalRecord "serde"] ∧ later.queue.resolved = 0 ∧
      later.queue.pending = 1 ∧
      -- And it is dispatched after the workers were stopped.
      later.startWorkers 1 = (again, [3]) ∧ again.run (steps 3 3) = some last ∧
      again.dispatched (steps 3 3) = [(3, rehearsalRecord "serde")] :=
  ⟨_, _, _, _, _, _, _, rfl, rfl, rfl, rfl, ⟨⟨false, rfl⟩, .head _⟩, rfl, rfl, rfl, rfl, rfl, rfl, rfl,
    rfl, rfl⟩

end InsightRelay.Relay
