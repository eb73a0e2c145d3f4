import InsightRelay.Proofs.Relay.Effort
import InsightRelay.Proofs.Relay.Lines
import InsightRelay.Proofs.Relay.Staff

/-! Progress: a relay that can do nothing more by itself has nothing left to do, and it always gets
there. -/

namespace InsightRelay

/-- Whether a task at a stage may have to wait for other tasks, or has ended. -/
def Stage.mayRest : Stage → Bool
  | inLine _ => true
  | placing _ => true
  | atDesk _ => true
  | inFinishLine => true
  | atBarrier _ => true
  | joining _ => true
  | atDeskToCollect => true
  | rested => true
  | lost _ => true
  | ended _ => true
  | _ => false

namespace Relay

/-- No task can take a step, and no call is under way. -/
structure AtRest (relay : Relay) : Prop where
  still : ∀ task, relay.advance task = none
  silent : ∀ task, relay.call? task = none

instance (relay : Relay) : Decidable (AtRest relay) :=
  decidable_of_iff (∀ task : Fin relay.tasks.length,
    (relay.advance task).isNone = true ∧ (relay.call? task).isNone = true) <| by
    constructor
    · intro all
      -- What is no task neither takes a step nor waits for a reply.
      have unused {task : TaskId} (out : ¬task < relay.tasks.length) : relay.stage? task = none :=
        List.getElem?_eq_none (Nat.le_of_not_lt out)
      refine ⟨fun task => ?_, fun task => ?_⟩ <;> by_cases inside : task < relay.tasks.length
      · exact Option.isNone_iff_eq_none.1 (all ⟨task, inside⟩).1
      · simp [advance, unused inside]
      · exact Option.isNone_iff_eq_none.1 (all ⟨task, inside⟩).2
      · simp [call?, unused inside]
    · exact fun rest task => by simp [rest.still, rest.silent]

/-- Nothing is left to do. -/
structure Done (start : Relay) (actions : List Action) (relay : Relay) : Prop where
  buffer : relay.queue.buffer = []
  submitters : relay.queue.submitters = []
  pending : relay.queue.pending = 0
  /-- All callers have their answers. -/
  answered : ∀ entry ∈ start.callers actions, (relay.ending? entry.2).isSome = true

/-- A relay that was launched has room for at least one record. -/
theorem capacity_of_launch {σ : Type} {config : Config} {service : Service σ} {state : σ}
    {start : Relay} (launched : launch config service state = .ok start) :
    0 < config.queueCapacity := by
  -- The check of the configuration comes first.
  refine capacity_of_validate ?_
  cases valid : config.validate with
  | error problem => simp [launch, prepare, valid, Except.map] at launched
  | ok passed =>
    cases found : config.fault? <;> simp_all [Config.validate]

/-- No move changes how many records there is room for. -/
theorem Move.capacity {relay shared : Relay} {task : TaskId} {before after : Stage}
    (move : Move relay task before after shared) :
    shared.queue.capacity = relay.queue.capacity := by
  -- Three moves change the buffer or a line of the queue, and none its capacity.
  cases move with
  | take taken =>
    -- Each of the three leaves the queue with other lists and the same bound.
    obtain ⟨takers, buffer, -, -, rfl⟩ := Queue.eq_of_take? taken
    rfl
  | place placed =>
    obtain ⟨record, -, rfl⟩ := Queue.eq_of_place? placed
    rfl
  | pass passed =>
    obtain ⟨-, rfl⟩ := Queue.eq_of_pass? passed
    rfl
  | _ => rfl

/-- No run changes how many records there is room for. -/
theorem capacity_of_run {start relay : Relay} {actions : List Action}
    (ran : start.run actions = some relay) :
    relay.queue.capacity = start.queue.capacity := by
  -- Nobody but the movers comes near the queue.
  refine run_induction (fun _ relay => relay.queue.capacity = start.queue.capacity) rfl
    ?arrive ?register ?move ran
  case arrive => exact fun past relay demand _ ih => by rw [queue_arrive, ih]
  case register => exact fun past relay key session _ ih => ih
  case move =>
    exact fun past relay action task before after shared _ ih _ _ move _ => move.capacity.trans ih

namespace StandsIn

variable {relay : Relay} {line : Line}

/-- A line is empty if nobody can be its first. -/
theorem eq_nil (stands : StandsIn relay line) (noFront : ∀ task stage,
    (relay.standing line).head? = some task → relay.stage? task = some stage →
      stage.standsIn line = false) : relay.standing line = [] := by
  cases inLine : relay.standing line with
  | nil => rfl
  | cons first others =>
    -- The first in line is at a stage that belongs there.
    obtain ⟨stage, at_, there⟩ := (stands.known first).1 (by simp [inLine])
    simp [noFront first stage (by simp [inLine]) at_] at there

/-- Nobody waits in a line that is empty. -/
theorem absent (stands : StandsIn relay line) (empty : relay.standing line = []) {task : TaskId}
    {stage : Stage} (at_ : relay.stage? task = some stage) : stage.standsIn line = false := by
  refine Bool.eq_false_iff.2 fun there => ?_
  have member := (stands.known task).2 ⟨stage, at_, there⟩
  simp [empty] at member

end StandsIn

namespace AtRest

variable {relay : Relay} {task : TaskId} {stage : Stage}

/-- At rest all tasks wait for others or have ended. -/
theorem mayRest (rest : AtRest relay) (at_ : relay.stage? task = some stage) :
    stage.mayRest = true := by
  -- All other stages take a step by themselves or wait for a reply.
  have still := rest.still task
  have silent := rest.silent task
  simp only [advance, at_] at still
  simp only [call?, at_] at silent
  cases stage <;> simp_all [Stage.mayRest, Stage.call?]

/-- At rest nobody is at the session desk. -/
theorem desk (rest : AtRest relay) (stands : StandsIn relay .desk) : relay.standing .desk = [] := by
  -- The first at the desk could go on.
  refine stands.eq_nil fun task stage first at_ => ?_
  have first : relay.desk.head? = some task := first
  have rests := rest.mayRest at_
  have still := rest.still task
  simp only [advance, at_] at still
  cases stage <;> simp_all [Stage.standsIn, Stage.mayRest, collectIn]

/-- At rest no task has a record, unless a worker is lost with one. -/
theorem load_eq_zero (rest : AtRest relay)
    (sound : ∀ task record, relay.stage? task ≠ some (.lost record)) : relay.tally load = 0 := by
  refine tally_eq_zero fun task stage at_ => ?_
  have rests := rest.mayRest at_
  cases stage with
  | lost record => exact absurd at_ (sound task record)
  | _ => simp_all [Stage.mayRest, load, pick, Stage.cargo, Cargo.record?]

/-- At rest no worker waits for a record that is there. -/
theorem takers (rest : AtRest relay) (stands : StandsIn relay .takers) (full : relay.queue.buffer ≠ []) :
    relay.standing .takers = [] := by
  refine stands.eq_nil fun task stage first at_ => ?_
  -- The first taker would take the first record.
  obtain ⟨others, line⟩ := List.head?_eq_some_iff.1 first
  obtain ⟨record, records, buffer⟩ := List.exists_cons_of_ne_nil full
  have line : relay.queue.takers = task :: others := line
  have still := rest.still task
  simp only [advance, at_] at still
  obtain ⟨looked, rfl⟩ | other : (∃ looked, stage = .inLine looked) ∨ stage.standsIn .takers = false := by
    cases stage <;> simp [Stage.standsIn]
  · cases told : relay.mustStop task <;> cases looked <;>
      simp [heed, take, Queue.take?, line, buffer, told] at still
  · exact other

/-- At rest no submitter waits for a place in an empty buffer. -/
theorem submitters (rest : AtRest relay) (stands : StandsIn relay .submitters)
    (roomy : 0 < relay.queue.capacity) (empty : relay.queue.buffer = []) :
    relay.standing .submitters = [] := by
  refine stands.eq_nil fun task stage first at_ => ?_
  -- The first in line owns the first free place.
  obtain ⟨others, line⟩ := List.head?_eq_some_iff.1 first
  obtain ⟨⟨owner, record⟩, entries, queue, same, -⟩ := List.map_eq_cons_iff.1 line
  obtain rfl : owner = task := same
  have owned : relay.queue.owned? owner = some record := by
    obtain ⟨places, room⟩ := Nat.exists_eq_succ_of_ne_zero (Nat.ne_of_gt roomy)
    simp [Queue.owned?, Queue.room, queue, empty, room]
  have still := rest.still owner
  simp only [advance, at_] at still
  cases stage <;> simp_all [Stage.standsIn, place, Queue.place?_eq]

/-- At rest nobody waits until no record is pending when none is. -/
theorem barriers (rest : AtRest relay) (stands : StandsIn relay .barriers)
    (none_ : relay.queue.pending = 0) : relay.standing .barriers = [] := by
  refine stands.eq_nil fun task stage first at_ => ?_
  -- Whoever waits there could pass.
  have waits : task ∈ relay.queue.barriers := List.mem_of_mem_head? first
  have still := rest.still task
  simp only [advance, at_] at still
  cases stage <;> simp_all [Stage.standsIn, Queue.pass?]

/-- A caller waits for a worker to end only while one has not ended. -/
theorem of_joining (rest : AtRest relay) {finishing : Bool}
    (at_ : relay.stage? task = some (.joining finishing)) :
    ∃ worker ∈ relay.workersTakenBy task, relay.stage? worker ≠ some .rested := by
  have still := rest.still task
  -- It would let go of one that has ended, and go on if there were none left.
  simp only [advance, at_, join] at still
  split at still
  · simp at still
  · next none_ =>
    split at still
    · simp at still
    · next some_ =>
      obtain ⟨worker, others, taken⟩ := List.exists_cons_of_ne_nil
        (fun empty => some_ (List.isEmpty_iff.2 empty))
      refine ⟨worker, by simp [taken], fun rested => ?_⟩
      -- The search for one that has ended has found none.
      have awake := List.find?_eq_none.1 none_ worker (by simp [taken])
      simp [rested] at awake

/-- At rest no worker in line has been told to stop. -/
theorem untold {looked : Bool} (rest : AtRest relay)
    (at_ : relay.stage? task = some (.inLine looked)) : relay.mustStop task = false := by
  -- It would take a record or stop.
  have still := rest.still task
  simp only [advance, at_, heed, take] at still
  cases told : relay.mustStop task with
  | false => rfl
  | true => cases looked <;> cases taken : relay.queue.take? task <;> simp [told, taken] at still

/-- At rest a worker waits in line or has ended, unless it is lost. -/
theorem worker (rest : AtRest relay) (at_ : relay.stage? task = some stage)
    (worker : stage.role = .worker) (sound : ∀ record, stage ≠ .lost record) :
    (∃ looked, stage = .inLine looked) ∨ stage = .rested := by
  have rests := rest.mayRest at_
  -- All others that wait or have ended are callers.
  cases stage with
  | inLine looked => exact .inl ⟨looked, rfl⟩
  | rested => exact .inr rfl
  | lost record => exact absurd rfl (sound record)
  -- These stages are those of callers, whatever they wait for.
  | placing errand => cases errand <;> simp [Stage.role, Errand.role] at worker
  | atBarrier finishing | joining finishing => cases finishing <;> simp [Stage.role] at worker
  | ended ending =>
    cases ending with
    | failed problem =>
      cases completion : problem.isCompletion <;>
        simp [Stage.role, Ending.role, completion] at worker
    | _ => simp [Stage.role, Ending.role] at worker
  | _ => simp_all [Stage.role, Stage.mayRest]

/-- At rest no record is in the buffer, as a worker that has ended would have left none. -/
theorem buffer {config : Config} (rest : AtRest relay) (stands : StandsIn relay .takers)
    (staffed : Staffed config relay)
    (hired : (∃ looked, relay.stage? task = some (.inLine looked)) ∨
      relay.stage? task = some .rested)
    (stock : relay.queue.buffer.length ≤ relay.queue.pending) : relay.queue.buffer = [] := by
  by_contra full
  -- A worker in line would take the record, and one that has ended has seen all drained.
  rcases hired with ⟨looked, at_⟩ | at_
  · simpa [Stage.standsIn] using stands.absent (rest.takers stands full) at_
  · have drained := (staffed.rested task at_).pending
    exact full (List.eq_nil_of_length_eq_zero (by omega))

/-- At rest nobody waits for workers to end, as all of them have been told to. -/
theorem not_joining {config : Config} (rest : AtRest relay) (staffed : Staffed config relay)
    (hired : ∀ worker, worker < config.effectiveWorkerCount →
      (∃ looked, relay.stage? worker = some (.inLine looked)) ∨ relay.stage? worker = some .rested)
    (finishing : Bool) : relay.stage? task ≠ some (.joining finishing) := by
  intro at_
  -- One of its workers has not ended, so it stands in line and was told to stop.
  obtain ⟨worker, waited, awake⟩ := rest.of_joining at_
  obtain ⟨⟨owner, pool⟩, member, inside⟩ := List.mem_flatMap.1 waited
  obtain ⟨taken, owns⟩ := List.mem_filter.1 member
  have stopping : pool.stopping = true :=
    staffed.joining task finishing at_ _ taken (by simpa using owns)
  have known : pool ∈ relay.pools := List.mem_append_right _ (List.mem_map_of_mem taken)
  obtain ⟨looked, inLine⟩ := (hired worker (staffed.workers pool known worker inside)).resolve_right awake
  have told : relay.mustStop worker = true :=
    List.any_eq_true.2 ⟨_, taken, by simpa [stopping] using inside⟩
  -- At rest no worker in line has been told to stop.
  simp [rest.untold inLine] at told

/-- At rest nobody waits to finish when nobody waits for anything else. -/
theorem finishers (rest : AtRest relay) (stands : Stands relay)
    (barriers : relay.standing .barriers = [])
    (ended : ∀ task finishing, relay.stage? task ≠ some (.joining finishing)) :
    relay.standing .finishers = [] := by
  refine (stands .finishers).eq_nil fun task stage first at_ => ?_
  -- The first in line would begin, or it is the one that finishes and has nothing to wait for.
  have first : relay.finishers.head? = some task := first
  have rests := rest.mayRest at_
  have noDesk := (stands .desk).absent (rest.desk (stands .desk)) at_
  have noBarrier := (stands .barriers).absent barriers at_
  have noWorker := ended task
  have still := rest.still task
  simp only [advance, at_] at still
  cases stage <;> simp_all [Stage.standsIn, Stage.mayRest, Stage.hasBegun]

/-- At rest a caller that is in no line and waits for no worker has its answer. -/
theorem answered (rest : AtRest relay) (stands : Stands relay)
    (empty : ∀ line, line ≠ .takers → relay.standing line = [])
    (ended : ∀ task finishing, relay.stage? task ≠ some (.joining finishing))
    (at_ : relay.stage? task = some stage) (caller : stage.role ≠ .worker) :
    stage.ending?.isSome = true := by
  -- A caller that rests stands in one of these lines, waits for workers to end, or has ended.
  have rests := rest.mayRest at_
  have noSubmitter := (stands .submitters).absent (empty .submitters (by simp)) at_
  have noBarrier := (stands .barriers).absent (empty .barriers (by simp)) at_
  have noDesk := (stands .desk).absent (empty .desk (by simp)) at_
  have noFinisher := (stands .finishers).absent (empty .finishers (by simp)) at_
  have noWorker := ended task
  cases stage <;>
    simp_all [Stage.standsIn, Stage.mayRest, Stage.role, Stage.hasBegun, Stage.ending?]

end AtRest

section Rest

variable {config : Config} {start relay : Relay} {actions : List Action}

/-- At rest every worker waits in line or has ended. -/
theorem hired_of_rest (fresh : Fresh config start) (ran : start.run actions = some relay)
    (unbroken : Unbroken actions) (rest : AtRest relay) {worker : TaskId}
    (hired : worker < config.effectiveWorkerCount) :
    (∃ looked, relay.stage? worker = some (.inLine looked)) ∨ relay.stage? worker = some .rested := by
  -- A worker at rest is in line or has ended, and without breakdowns none has ended with a record.
  obtain ⟨stage, at_, works⟩ := worker_of_run fresh ran hired
  have sound (record : PackageRecord) : stage ≠ .lost record := fun lost =>
    ne_lost_of_run fresh ran unbroken (lost ▸ at_)
  rcases rest.worker at_ works sound with ⟨looked, rfl⟩ | rfl
  · exact .inl ⟨looked, at_⟩
  · exact .inr at_

/-- A relay at rest has nothing left to do. -/
theorem done_of_rest {σ : Type} {service : Service σ} {state : σ}
    (launched : launch config service state = .ok start) (ran : start.run actions = some relay)
    (whole : WholeDemands actions) (unbroken : Unbroken actions) (rest : AtRest relay) :
    Done start actions relay := by
  have fresh := fresh_of_launch launched
  have stands := stands_of_run fresh ran whole
  have staffed := staffed_of_run launched ran whole
  have hired (worker : TaskId) (inside : worker < config.effectiveWorkerCount) :=
    hired_of_rest fresh ran unbroken rest inside
  -- What is pending is in line or in the buffer, and there is nothing in either.
  have stock : relay.queue.pending =
      relay.queue.submitters.length + relay.queue.buffer.length := by
    have counted := (counted_of_run fresh ran).stock
    rwa [rest.load_eq_zero fun _ _ => ne_lost_of_run fresh ran unbroken, Nat.add_zero] at counted
  have buffer : relay.queue.buffer = [] :=
    rest.buffer (stands .takers) staffed (hired 0 (effectiveWorkerCount_pos config)) (by omega)
  -- The buffer is empty and has room, so nobody waits for a place.
  have roomy : 0 < relay.queue.capacity := by
    rw [capacity_of_run ran, fresh.queue]
    exact capacity_of_launch launched
  have submitters := rest.submitters (stands .submitters) roomy buffer
  have noSubmitter : relay.queue.submitters = [] := List.map_eq_nil_iff.1 submitters
  have pending : relay.queue.pending = 0 := by simp [stock, buffer, noSubmitter]
  -- Then nobody waits in any other line either.
  have barriers := rest.barriers (stands .barriers) pending
  have joining (task : TaskId) (finishing : Bool) :
      relay.stage? task ≠ some (.joining finishing) := rest.not_joining staffed hired finishing
  have empty (line : Line) (other : line ≠ .takers) : relay.standing line = [] := by
    cases line with
    | takers => exact absurd rfl other
    | submitters => exact submitters
    | barriers => exact barriers
    | desk => exact rest.desk (stands .desk)
    | finishers => exact rest.finishers stands barriers joining
  refine ⟨buffer, noSubmitter, pending, fun entry arrived => ?_⟩
  obtain ⟨stage, at_, role⟩ := stage_of_caller fresh ran arrived
  have caller : stage.role ≠ .worker := role ▸ entry.1.role_ne_worker
  simpa [ending?, at_] using rest.answered stands empty joining at_ caller

end Rest

/-- No pipeline is stuck: a relay that can do nothing more by itself has nothing left to do, and it
comes to that, as without new callers it takes no more steps and replies than its effort tells. -/
theorem never_stuck {σ : Type} {config : Config} {service : Service σ} {state : σ}
    {start relay : Relay} {actions : List Action}
    (launched : launch config service state = .ok start) (ran : start.run actions = some relay)
    (whole : WholeDemands actions) (unbroken : Unbroken actions) :
    (AtRest relay → Done start actions relay) ∧
      ∀ more last, relay.run more = some last → (∀ action ∈ more, action.task?.isSome = true) →
        more.length ≤ relay.effort := by
  -- The bound counts the effort of the whole relay, of which every move takes something away.
  refine ⟨done_of_rest launched ran whole unbroken, fun more last ranOn alone => ?_⟩
  have bounded := length_le_effort ranOn alone
  omega

/-- The rehearsal comes to rest with nothing left to do, and the way there from the moment when all
is drained is no longer than the effort that is left then. -/
theorem never_stuck_in_rehearsal : ∃ start middle last,
    launch rehearsalConfig Script.smooth.service 0 = .ok start ∧
      start.run rehearsalToDrain = some middle ∧ start.run rehearsal = some last ∧
      AtRest last ∧ Done start rehearsal last ∧
      (rehearsal.drop rehearsalToDrain.length).length ≤ middle.effort := by
  -- The rehearsal is cut where all is drained, and its second part is bounded by what is left there.
  obtain ⟨start, last, launched, ran⟩ := exists_rehearsal
  obtain ⟨middle, ranTo⟩ : ∃ middle, start.run rehearsalToDrain = some middle := by
    cases launched
    exact ⟨_, rfl⟩
  have ranOn : middle.run (rehearsal.drop rehearsalToDrain.length) = some last := by
    rw [← run_append ranTo, ← ran]
    rfl
  -- The state is a concrete one here, so that it is at rest can be checked.
  have rest : AtRest last := by
    cases launched
    cases ran
    decide
  exact ⟨start, middle, last, launched, ranTo, ran, rest,
    (never_stuck launched ran (by decide) (by decide)).1 rest,
    (never_stuck launched ranTo (by decide) (by decide)).2 _ _ ranOn (by decide)⟩

end Relay

end InsightRelay
