import InsightRelay.Proofs.Relay.Stopping
import Mathlib.Data.List.Nodup

/-! Breakdowns: a worker whose publication breaks down keeps its record for good, and every other record
is resolved all the same. -/

namespace InsightRelay

/-- Whether an exchange is a publication that broke down. -/
def Exchange.isBreakdown (exchange : Exchange) : Bool :=
  match exchange.call, exchange.reply with
  | .publish _, .crashed => true
  | _, _ => false

/-- The record that a worker broke down with. -/
def Stage.stranded? : Stage → Option PackageRecord
  | lost record => some record
  | _ => none

/-- Whoever broke down with a record is a worker. -/
theorem Stage.role_of_stranded? {stage : Stage} {record : PackageRecord}
    (has : stage.stranded? = some record) : stage.role = .worker := by
  cases stage <;> simp_all [stranded?, role]

namespace Relay

/-- How many publications broke down. -/
def breakdowns (relay : Relay) : Nat :=
  relay.journal.countP Exchange.isBreakdown

/-- The records whose workers broke down, with these workers. -/
def stranded (relay : Relay) : List (TaskId × PackageRecord) :=
  relay.holdings Stage.stranded?

/-- The accepted records that tasks have themselves. -/
def carried (relay : Relay) : List (TaskId × PackageRecord) :=
  relay.holdings fun stage => stage.cargo.record?

/-- Nothing is in line, buffered or under way: whoever still has a record broke down with it. -/
structure Calm (relay : Relay) : Prop where
  buffer : relay.queue.buffer = []
  submitters : relay.queue.submitters = []
  carried : ∀ task stage, relay.stage? task = some stage →
    stage.cargo.record? = none ∨ ∃ record, stage = .lost record

section Holdings

variable {α : Type} {look other : Stage → Option α} {relay : Relay}

/-- What tasks have is told by their stages alone. -/
theorem holdings_congr
    (same : ∀ task stage, relay.stage? task = some stage → look stage = other stage) :
    relay.holdings look = relay.holdings other := by
  refine List.filterMap_congr fun entry member => ?_
  rw [same entry.2 entry.1 (List.mk_mem_zipIdx_iff_getElem?.1 member)]

/-- How much tasks carry is counted by a tally. -/
theorem length_carried (relay : Relay) : relay.carried.length = relay.tally load :=
  length_holdings

/-- In a calm relay workers have only what they broke down with. -/
theorem Calm.inHand (calm : Calm relay) : relay.inHand = relay.stranded := by
  refine holdings_congr fun task stage at_ => ?_
  rcases calm.carried task stage at_ with none_ | ⟨record, rfl⟩
  · cases stage <;> simp_all [Stage.cargo, Stage.stranded?, Cargo.held?, Cargo.record?]
  · rfl

/-- In a calm relay tasks have only what workers broke down with. -/
theorem Calm.carried_eq (calm : Calm relay) : relay.carried = relay.stranded := by
  refine holdings_congr fun task stage at_ => ?_
  rcases calm.carried task stage at_ with none_ | ⟨record, rfl⟩
  · cases stage <;> simp_all [Stage.cargo, Stage.stranded?, Cargo.record?]
  · rfl

/-- A worker that broke down carries its record. -/
theorem length_stranded_le (relay : Relay) : relay.stranded.length ≤ relay.carried.length := by
  -- Names are used once on both sides, so it is enough to compare the entries as sets.
  refine ((List.Nodup.of_map _ nodup_holdings).subperm fun entry member => ?_).length_le
  obtain ⟨stage, at_, has⟩ := mem_holdings.1 member
  refine mem_holdings.2 ⟨stage, at_, ?_⟩
  cases stage <;> simp_all [Stage.cargo, Stage.stranded?, Cargo.record?]

end Holdings

section Runs

variable {start relay : Relay} {actions : List Action}

/-- A publication breaks down when its worker is lost, and at no other time. -/
theorem Move.breaks {shared : Relay} {task : TaskId} {before after : Stage}
    (move : Move relay task before after shared) :
    shared.breakdowns + pick (before.stranded?.isSome = true) =
      relay.breakdowns + pick (after.stranded?.isSome = true) := by
  -- Of all replies only this one is counted, and no other move leads to a lost worker.
  cases move with
  | crash => simp [breakdowns, Exchange.isBreakdown, Stage.stranded?, pick]
  | published | rejected | opened | unopened | completed | incomplete =>
    simp [breakdowns, Exchange.isBreakdown, Stage.stranded?]
  | @refuse record errand => cases errand <;> rfl
  | @place errand => cases errand <;> rfl
  | @pass finishing => cases finishing <;> rfl
  | @joined finishing => cases finishing <;> rfl
  | _ => rfl

/-- For each publication that breaks down a worker is lost with its record. -/
theorem breakdowns_of_run (ran : start.run actions = some relay) :
    relay.breakdowns + start.stranded.length = start.breakdowns + relay.stranded.length := by
  -- A move that breaks down loses one worker, and those that were lost before stay at their stages.
  simp only [stranded, length_holdings]
  refine run_induction (fun _ relay => relay.breakdowns + start.tally _ =
    start.breakdowns + relay.tally _) rfl ?arrive ?register ?move ran
  case arrive =>
    intro past relay demand _ ih
    -- Nobody comes in at the stage of a worker that was lost.
    have kept : (demand.stage relay.config).stranded? = none := by
      cases demand with
      | bring source => cases mode : relay.config.multiProject <;> simp [Demand.stage, mode] <;> rfl
      | _ => rfl
    simpa [breakdowns, journal_arrive, tally_arrive, kept, pick] using ih
  case register => exact fun past relay key session _ ih => ih
  case move =>
    intro past relay action task before after shared _ ih _ at_ move _
    have breaks := move.breaks
    have moved := tally_move move.tasks at_ after
      fun _ stage => pick (stage.stranded?.isSome = true)
    have same : (shared.withStage task after).breakdowns = shared.breakdowns := rfl
    omega

/-- Callers that wait until no record is pending stand at the barrier or are told so. -/
theorem waiting_of_run (ran : start.run actions = some relay) {caller : TaskId}
    (arrived : (Demand.waitDrained, caller) ∈ start.callers actions) :
    ∃ stage, relay.stage? caller = some stage ∧
      (stage = .draining false ∨ stage = .atBarrier false ∨ stage = .ended .drained) := by
  -- Such a caller starts on its way to the barrier, and only its own moves change its stage.
  refine run_induction (fun actions relay => (Demand.waitDrained, caller) ∈ start.callers actions →
    ∃ stage, relay.stage? caller = some stage ∧
      (stage = .draining false ∨ stage = .atBarrier false ∨ stage = .ended .drained))
    ?initial ?arrive ?register ?move ran arrived
  case initial => exact fun arrived => by simp [callers] at arrived
  case arrive =>
    intro past relay demand began ih arrived
    rw [callers_arrive began, List.mem_append, List.mem_singleton, Prod.mk.injEq] at arrived
    rcases arrived with earlier | ⟨rfl, rfl⟩
    · obtain ⟨stage, there, waits⟩ := ih earlier
      refine ⟨stage, ?_, waits⟩
      rw [stage?_arrive, if_neg (Nat.ne_of_lt (List.getElem?_eq_some_iff.1 there).1), there]
    · exact ⟨.draining false, by simp [stage?_arrive, Demand.stage], .inl rfl⟩
  case register =>
    intro past relay key session _ ih arrived
    exact ih (by rwa [callers_of_demand? rfl] at arrived)
  case move =>
    intro past relay action task before after shared _ ih acts at_ move _ arrived
    obtain ⟨stage, there, waits⟩ := ih (by rwa [callers_of_demand? (demand?_of_task? acts)] at arrived)
    rw [move.stage? at_]
    split
    · next same =>
      subst same
      obtain rfl : before = stage := Option.some.inj (at_.symm.trans there)
      refine ⟨after, rfl, ?_⟩
      -- Such a caller joins the barrier or passes it, and then makes no more moves.
      rcases waits with rfl | rfl | rfl <;> cases move <;> simp
    · exact ⟨stage, there, waits⟩

/-- Whoever is told that no record is pending is told so when none is. -/
theorem Move.drains {shared : Relay} {task : TaskId} {before after : Stage}
    (move : Move relay task before after shared) (drained : after = .ended .drained) :
    relay.queue.pending = 0 := by
  -- A barrier is the only stage from which somebody can be told so.
  cases move with
  | @pass finishing queue passed => exact (Queue.eq_of_pass? passed).1
  | @refuse record errand => cases errand <;> simp [Errand.refused] at drained
  | @place errand => cases errand <;> simp [Errand.placed] at drained
  | @joined finishing => cases finishing <;> simp at drained
  | @finish failure => cases failure <;> simp [Ending.ofFailure] at drained
  | _ => simp at drained

/-- Nobody is told that no record is pending while one is, however long the relay runs. -/
theorem undrained_of_run (pending : ∀ past moment, start.run past = some moment →
      0 < moment.queue.pending) (ran : start.run actions = some relay) {task : TaskId}
    (drained : relay.ending? task = some .drained) : start.ending? task = some .drained := by
  -- Nobody comes in with such an answer, and a move that gave it would need a queue without records.
  refine run_induction (fun _ relay => relay.ending? task = some .drained →
    start.ending? task = some .drained) id ?arrive ?register ?move ran drained
  case arrive =>
    intro past relay demand _ ih drained
    rw [ending?, stage?_arrive] at drained
    split at drained
    · cases demand with
      | bring source =>
        cases mode : relay.config.multiProject <;>
          simp [Demand.stage, mode, Stage.ending?] at drained
      | _ => simp [Demand.stage, Stage.ending?] at drained
    · exact ih drained
  case register => exact fun past relay key session _ ih => ih
  case move =>
    intro past relay action mover before after shared began ih _ at_ move _ drained
    rw [ending?, move.stage? at_] at drained
    split at drained
    · have ended : after = .ended .drained := by
        cases after <;> simp_all [Stage.ending?]
      -- Only an empty queue lets the mover be told so.
      have none_ := move.drains ended
      have positive := pending past relay began
      omega
    · exact ih drained

end Runs

/-- What is known of a relay before its workers start: no counter and no reply speaks of work, and all
pending records are in line, buffered or carried. -/
structure Unworked (relay : Relay) : Prop extends Vacant relay where
  published : relay.books.published = 0
  failed : relay.books.failed = 0
  granted : relay.books.granted = 0
  refused : relay.books.refused = 0
  breakdowns : relay.breakdowns = 0
  pending : relay.books.pending = relay.stock

/-- What has become of the records that workers took, whatever came of their publications. -/
structure Handled (start : Relay) (count : Nat) (past : List Action) (relay : Relay) : Prop
    extends Working start count past relay where
  /-- For each record that was taken a session was looked up once, or its worker is about to. -/
  routed : (start.dispatched past).Perm
    ((start.routed past).map (fun route => (route.worker, route.record)) ++ relay.unseen)
  /-- Each record with a session was published once. -/
  began : (start.calls past).filterMap publicationOf = (start.routed past).filterMap publication?
  published : relay.queue.published = relay.journal.countP Exchange.isPublished
  /-- Records fail by a refusal of the service or because they have no session. -/
  failed : relay.queue.failed = relay.journal.countP Exchange.isRejected +
    (start.routed past).countP fun route => route.session.isNone
  /-- For each publication that broke down one worker is lost with its record. -/
  broken : relay.stranded.length = relay.breakdowns
  few : relay.breakdowns ≤ count
  pending : relay.queue.pending =
    relay.queue.submitters.length + relay.queue.buffer.length + relay.carried.length

/-- What has become of all records when nothing is in line, buffered or under way. -/
structure Concluded (start : Relay) (past : List Action) (relay : Relay) : Prop where
  /-- Each record that was taken is resolved, or its publication broke down. -/
  resolved : (start.dispatched past).Perm (start.resolved past ++ relay.stranded)
  pending : relay.queue.pending = relay.breakdowns
  /-- Without a breakdown every record is resolved. -/
  unbroken : relay.breakdowns = 0 → (start.dispatched past).Perm (start.resolved past)
  /-- Without a breakdown whoever waits until no record is pending can go on. -/
  passes : relay.breakdowns = 0 → ∀ task finishing,
    relay.stage? task = some (.atBarrier finishing) → (relay.advance task).isSome = true

section Pools

variable {config : Config} {capacity count : Nat} {queue : Queue PackageRecord}
  {earlier actions : List Action} {early relay : Relay}

/-- Without workers no record is published, however callers come. -/
theorem unworked_of_run (made : Queue.create? capacity = some queue)
    (opened : (idle config queue).run earlier = some early) : Unworked early := by
  -- All counters start at zero, and each law of runs says that they stay in step with the replies.
  have vacant := (Vacant.idle made).run opened
  have lined : Lined (idle config queue) := (Vacant.idle made).lined
  obtain ⟨-, rfl⟩ := Queue.create?_eq_some_iff.1 made
  have free : early.stranded = [] := vacant.holdings_eq_nil fun _ _ => Stage.role_of_stranded?
  have broken := breakdowns_of_run opened
  have tallied := tallied_of_run lined opened
  have granted := tallied.granted
  have failed := tallied.failed
  have resolved := vacant.resolved
  have pending := pending_of_run lined rfl opened
  simp only [books, idle, breakdowns, List.countP_nil, Queue.empty, Queue.resolved, free,
    List.length_nil, Nat.add_zero] at broken granted failed resolved
  -- What is left of each law is a sum of zeros.
  refine ⟨vacant, ?_, ?_, ?_, ?_, broken, pending⟩ <;> simp only [books] <;> omega

/-- Whatever comes of publications, nothing but the records of breakdowns is lost. -/
theorem handled_of_run (unworked : Unworked early)
    (ran : (early.startWorkers count).1.run actions = some relay) :
    Handled (early.startWorkers count).1 count actions relay := by
  -- Workers that start bring nothing with them, so the laws of runs begin with what was there before.
  have vacant := unworked.toVacant
  have crew := vacant.crew count
  have books_eq : (early.startWorkers count).1.books = early.books := by
    rw [vacant.startWorkers_eq]
    rfl
  have fewest : (early.startWorkers count).1.breakdowns = 0 := by
    rw [vacant.startWorkers_eq]
    exact unworked.breakdowns
  have stocked : (early.startWorkers count).1.books.pending = (early.startWorkers count).1.stock := by
    have carried : (early.startWorkers count).1.carried = early.carried :=
      vacant.holdings_hired count rfl
    rw [stock, books_eq, ← length_carried, carried, length_carried]
    exact unworked.pending
  have free : (early.startWorkers count).1.unseen = [] :=
    vacant.holdings_startWorkers (fun _ _ => Stage.role_of_fetched?) rfl
  have sound : (early.startWorkers count).1.stranded = [] :=
    vacant.holdings_startWorkers (fun _ _ => Stage.role_of_stranded?) rfl
  have unseen := unseen_of_run crew.lined ran
  have tallied := tallied_of_run crew.lined ran
  have granted := tallied.granted
  have failed := tallied.failed
  have pending := pending_of_run crew.lined stocked ran
  have broken := breakdowns_of_run ran
  have kept := (crew.run ran).length_holdings_le fun _ _ => Stage.role_of_stranded?
  rw [books_eq, unworked.published, unworked.granted] at granted
  rw [books_eq, unworked.failed, unworked.refused] at failed
  rw [free, List.nil_append] at unseen
  rw [sound, fewest, List.length_nil] at broken
  -- From here on the laws are put together by counting.
  have stranded : relay.stranded.length = relay.breakdowns := by omega
  refine ⟨working_of_run vacant ran, unseen, publications_of_run ran, ?_, ?_, stranded, ?_, ?_⟩
  · simp only [books] at granted
    omega
  · simp only [books] at failed
    omega
  · rw [List.length_range'] at kept
    rw [← stranded]
    exact kept
  · rw [length_carried]
    exact pending

/-- Nobody stands in a line of a relay without tasks. -/
theorem standsIn_idle (made : Queue.create? capacity = some queue) (line : Line) :
    StandsIn (idle config queue) line := by
  obtain ⟨-, rfl⟩ := Queue.create?_eq_some_iff.1 made
  have empty : (idle config (Queue.empty capacity)).standing line = [] := by cases line <;> rfl
  refine ⟨by simp [empty], fun task => ?_⟩
  rw [empty]
  simp [stage?, idle]

/-- Workers that have just started stand in no line. -/
theorem Vacant.standsIn_hired (vacant : Vacant early) {line : Line} (stands : StandsIn early line) :
    StandsIn (early.startWorkers count).1 line := by
  have same : (early.startWorkers count).1.standing line = early.standing line := by
    rw [vacant.startWorkers_eq]
    cases line <;> rfl
  refine ⟨same ▸ stands.once, fun task => ?_⟩
  rw [same, stands.known, vacant.stage?_startWorkers]
  split
  · next hired =>
    -- The name of a worker was not in use before.
    have unused : early.stage? task = none := List.getElem?_eq_none (List.mem_range'_1.1 hired).1
    cases line <;> simp [unused, Stage.standsIn, Stage.hasBegun]
  · exact Iff.rfl

/-- In a line of the queue stands who belongs there, whatever has come of publications. -/
theorem standsIn_of_run (made : Queue.create? capacity = some queue)
    (opened : (idle config queue).run earlier = some early)
    (ran : (early.startWorkers count).1.run actions = some relay) {line : Line}
    (noDesk : line ≠ .desk) (noFinishers : line ≠ .finishers) : StandsIn relay line :=
  (((Vacant.idle made).run opened).standsIn_hired
    ((standsIn_idle made line).run noDesk noFinishers opened)).run noDesk noFinishers ran

/-- In a calm relay every record is resolved but those whose publications broke down. -/
theorem concluded_of_calm (handled : Handled (early.startWorkers count).1 count actions relay)
    (stands : StandsIn relay .barriers) (calm : Calm relay) :
    Concluded (early.startWorkers count).1 actions relay := by
  -- Where nothing is buffered, in line or carried, only those that broke down can still be pending.
  have pending : relay.queue.pending = relay.breakdowns := by
    rw [handled.pending, calm.buffer, calm.submitters, calm.carried_eq, handled.broken]
    simp
  have resolved := handled.taken
  rw [calm.inHand] at resolved
  refine ⟨resolved, pending, fun whole => ?_, fun whole task finishing at_ => ?_⟩
  · rwa [List.eq_nil_of_length_eq_zero (handled.broken.trans whole), List.append_nil] at resolved
  · have waits : task ∈ relay.queue.barriers := (stands.known task).2 ⟨_, at_, rfl⟩
    simp [advance, at_, Queue.pass?, pending.trans whole, waits]

/-- A worker is left where fewer publications broke down than there are workers, if none of them was told
to stop. -/
theorem exists_awake (handled : Handled (early.startWorkers count).1 count actions relay)
    {crew : List TaskId} (custody : Custody crew relay)
    (once : crew.Nodup) (fewer : relay.breakdowns < crew.length)
    (untold : ∀ entry ∈ relay.taken, entry.2.stopping = false) :
    ∃ worker ∈ crew, ¬relay.HasLeft worker := by
  by_contra! left
  -- If all had ended, each of them would have broken down with a record of its own.
  have broken : crew ⊆ relay.stranded.map Prod.fst := fun worker member => by
    obtain ⟨stage, at_, ended⟩ := left worker member
    cases stage with
    | rested =>
      obtain ⟨entry, owned, told⟩ := custody.rested worker at_
      simp [untold entry owned] at told
    | lost record =>
      -- One that was told nothing can only have been lost, and its record is held where it is.
      have entry : (worker, record) ∈ relay.stranded := mem_holdings.2 ⟨_, at_, rfl⟩
      exact List.mem_map_of_mem entry
    | _ => simp [Stage.hasLeft] at ended
  have enough := (once.subperm broken).length_le
  rw [List.length_map, handled.broken] at enough
  omega

/-- A relay at rest is calm as long as a worker is left. -/
theorem calm_of_rest {crew : List TaskId} (known : Crew crew relay)
    (submitters : StandsIn relay .submitters) (roomy : 0 < relay.queue.capacity)
    (rest : AtRest relay) (awake : ∃ worker ∈ crew, ¬relay.HasLeft worker) : Calm relay := by
  -- At rest a worker that is left can only wait in line.
  obtain ⟨worker, member, stays⟩ := awake
  obtain ⟨stage, at_⟩ := known.hired worker member
  have works := (known.workers worker stage at_).2 member
  have sound : ∀ record, stage ≠ .lost record := by
    rintro record rfl
    exact stays ⟨_, at_, rfl⟩
  obtain ⟨looked, rfl⟩ : ∃ looked, stage = .inLine looked := by
    rcases rest.worker at_ works sound with waits | rfl
    · exact waits
    · exact absurd ⟨_, at_, rfl⟩ stays
  -- The worker that is left would take whatever is buffered.
  have buffer : relay.queue.buffer = [] := by
    by_contra full
    simpa [Stage.standsIn] using known.takers.absent (rest.takers known.takers full) at_
  refine ⟨buffer, List.map_eq_nil_iff.1 (rest.submitters submitters roomy buffer),
    fun task stage there => ?_⟩
  have rests := rest.mayRest there
  cases stage <;> simp_all [Stage.mayRest, Stage.cargo, Cargo.record?]

/-- At rest and without breakdowns whoever came to wait until no record is pending is told so. -/
theorem drained_of_rest {start : Relay} (ran : start.run actions = some relay)
    (stands : StandsIn relay .barriers) (rest : AtRest relay) (none_ : relay.queue.pending = 0)
    {caller : TaskId} (arrived : (Demand.waitDrained, caller) ∈ start.callers actions) :
    relay.ending? caller = some .drained := by
  -- At rest it can only stand at the barrier, which is empty, or have its answer.
  obtain ⟨stage, at_, waits⟩ := waiting_of_run ran arrived
  have gone := stands.absent (rest.barriers stands none_) at_
  rcases waits with rfl | rfl | rfl
  · simpa [Stage.mayRest] using rest.mayRest at_
  · simp [Stage.standsIn] at gone
  · simp [ending?, at_, Stage.ending?]

end Pools

/-- Whatever comes of publications, each record that workers take is resolved once or stays with a worker
that broke down, and without new callers a pool with a worker left comes to rest with nothing else to do.

Only breakdowns keep anyone waiting: where there are none all records are resolved and everyone is told
so, and after one of them nobody is told so any more. -/
theorem only_breakdowns_stay_pending {config : Config} {capacity count : Nat}
    {queue : Queue PackageRecord} {earlier actions : List Action} {early start relay : Relay}
    (made : Queue.create? capacity = some queue)
    (opened : (idle config queue).run earlier = some early)
    (started : (early.startWorkers count).1 = start) (ran : start.run actions = some relay) :
    Handled start count actions relay ∧
    (Calm relay → Concluded start actions relay) ∧
    (relay.breakdowns < count → (∀ entry ∈ relay.taken, entry.2.stopping = false) →
      AtRest relay → Calm relay ∧ (relay.breakdowns = 0 →
        ∀ caller, (Demand.waitDrained, caller) ∈ start.callers actions →
          relay.ending? caller = some .drained)) ∧
    (∀ more last, relay.run more = some last → (∀ action ∈ more, action.task?.isSome = true) →
      more.length ≤ relay.effort) ∧
    (0 < relay.breakdowns → ∀ more last, relay.run more = some last →
      relay.breakdowns ≤ last.queue.pending ∧
        ∀ task, last.ending? task = some .drained → relay.ending? task = some .drained) := by
  subst started
  have unworked := unworked_of_run made opened
  have handled := handled_of_run unworked ran
  have vacant := unworked.toVacant
  have crew := (vacant.crew count).run ran
  have custody := (vacant.custody count).run ran
  have barriers : StandsIn relay .barriers := standsIn_of_run made opened ran (by simp) (by simp)
  refine ⟨handled, concluded_of_calm handled barriers, fun fewer untold rest => ?rest,
    fun more last ranOn alone => ?effort, fun broken => ?broken⟩
  case rest =>
    have roomy : 0 < relay.queue.capacity := by
      obtain ⟨positive, rfl⟩ := Queue.create?_eq_some_iff.1 made
      have same : (early.startWorkers count).1.queue = early.queue := by
        rw [vacant.startWorkers_eq]
      rw [capacity_of_run ran, same, capacity_of_run opened]
      exact positive.1
    -- A worker that is left works off the queue, so at rest only lost records are pending.
    have awake := exists_awake handled custody List.nodup_range'
      (by rwa [List.length_range']) untold
    have calm := calm_of_rest crew (standsIn_of_run made opened ran (by simp) (by simp)) roomy rest
      awake
    refine ⟨calm, fun whole caller arrived => ?_⟩
    exact drained_of_rest ran barriers rest
      ((concluded_of_calm handled barriers calm).pending.trans whole) arrived
  case effort =>
    have bounded := length_le_effort ranOn alone
    omega
  case broken =>
    -- A breakdown is never taken back, and its record is pending from then on.
    have kept : ∀ past moment, relay.run past = some moment →
        relay.breakdowns ≤ moment.queue.pending := by
      intro past moment ranOn
      have later := handled_of_run unworked ((run_append ran _).trans ranOn)
      obtain ⟨since, journal, -⟩ := journal_of_run ranOn
      have more : relay.breakdowns ≤ moment.breakdowns := by
        rw [breakdowns, breakdowns, journal, List.countP_append]
        exact Nat.le_add_right _ _
      have carried := length_stranded_le moment
      have broken := later.broken
      have pending := later.pending
      omega
    exact fun more last ranOn => ⟨kept more last ranOn, fun task drained =>
      undrained_of_run (fun past moment began => Nat.lt_of_lt_of_le broken (kept past moment began))
        ranOn drained⟩

/-- A run of two workers in which the publication of the first record breaks down and that of the second
is granted, and task 4 comes to wait until no record is pending. -/
def rehearsalOfBreakdown : List Action :=
  [.arrive (.submit (rehearsalRecord "serde"))] ++ steps 2 3 ++
  [.arrive (.submit (rehearsalRecord "rand"))] ++ steps 3 3 ++ steps 0 3 ++ [.answer 0 .crashed] ++
  steps 1 3 ++ [.answer 1 (.granted "")] ++ steps 1 1 ++ [.arrive .waitDrained] ++ steps 4 1

/-- The rehearsal can be run. -/
theorem exists_rehearsalOfBreakdown : ∃ queue early relay,
    Queue.create? 2 = some queue ∧
      (idle rehearsalConfig queue).run [.register globalKey "session-0"] = some early ∧
      (early.startWorkers 2).1.run rehearsalOfBreakdown = some relay :=
  ⟨_, _, _, rfl, rfl, rfl⟩

/-- In the rehearsal one record stays with the worker that broke down and the other one is resolved. -/
theorem only_breakdowns_stay_pending_in_rehearsal : ∃ queue early relay,
    Queue.create? 2 = some queue ∧
      (idle rehearsalConfig queue).run [.register globalKey "session-0"] = some early ∧
      (early.startWorkers 2).1.run rehearsalOfBreakdown = some relay ∧
      Handled (early.startWorkers 2).1 2 rehearsalOfBreakdown relay ∧ AtRest relay ∧
      relay.breakdowns = 1 ∧ Calm relay ∧
      Concluded (early.startWorkers 2).1 rehearsalOfBreakdown relay ∧
      relay.queue.resolved = 1 := by
  -- That the relay is at rest and broke down once is found by evaluation, and the rest from the theorem.
  obtain ⟨queue, early, relay, made, opened, ran⟩ := exists_rehearsalOfBreakdown
  have found : AtRest relay ∧ relay.breakdowns = 1 ∧
      (∀ entry ∈ relay.taken, entry.2.stopping = false) ∧ relay.queue.resolved = 1 := by
    cases made
    cases opened
    cases ran
    decide
  obtain ⟨rest, broken, untold, resolved⟩ := found
  -- One worker of two is left, which makes the relay calm.
  obtain ⟨handled, concluded, calm, -⟩ := only_breakdowns_stay_pending made opened rfl ran
  obtain ⟨calm, -⟩ := calm (by simp [broken]) untold rest
  exact ⟨queue, early, relay, made, opened, ran, handled, rest, broken, calm, concluded calm, resolved⟩

/-- A record whose publication breaks down is neither published nor failed, and whoever waits until no
record is pending waits for good, although nothing is in line, buffered or under way. -/
theorem breakdown_is_never_resolved : ∃ queue early relay,
    Queue.create? 2 = some queue ∧
      (idle rehearsalConfig queue).run [.register globalKey "session-0"] = some early ∧
      (early.startWorkers 2).1.run rehearsalOfBreakdown = some relay ∧ AtRest relay ∧
      relay.queue.buffer = [] ∧ relay.queue.submitters = [] ∧ relay.outstanding = [] ∧
      (early.startWorkers 2).1.dispatched rehearsalOfBreakdown =
        [(0, rehearsalRecord "serde"), (1, rehearsalRecord "rand")] ∧
      (early.startWorkers 2).1.resolved rehearsalOfBreakdown = [(1, rehearsalRecord "rand")] ∧
      relay.queue.failed = 0 ∧ relay.queue.pending = 1 ∧
      relay.stage? 4 = some (.atBarrier false) := by
  -- The run is evaluated: nothing is left to do, and the count of pending records is still one.
  obtain ⟨queue, early, relay, made, opened, ran⟩ := exists_rehearsalOfBreakdown
  refine ⟨queue, early, relay, made, opened, ran, ?_⟩
  cases made
  cases opened
  cases ran
  exact ⟨by decide, rfl, rfl, rfl, rfl, rfl, rfl, rfl, rfl⟩

end Relay

end InsightRelay
