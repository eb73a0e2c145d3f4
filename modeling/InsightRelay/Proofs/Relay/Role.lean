import InsightRelay.Proofs.Relay.History

/-! Roles: a task keeps to the work that it began with, so its stage tells what it is there for. -/

namespace InsightRelay

/-- What a task is there for. -/
inductive Role
  | worker
  | submitter
  | bringer
  | finisher
  /-- It looks after a queue or its workers alone. -/
  | keeper
deriving DecidableEq

/-- Whether an error says that a session was not completed. -/
def RelayError.isCompletion : RelayError → Bool
  | sessionCompletionFailed .. => true
  | _ => false

/-- What a caller with an errand is there for. -/
def Errand.role : Errand → Role
  | single => .submitter
  | batch _ => .bringer

/-- What a caller is there for, told by its ending. -/
def Ending.role : Ending → Role
  | accepted => .submitter
  | queued _ => .bringer
  | finished => .finisher
  | failed problem => if problem.isCompletion then .finisher else .submitter
  | drained => .keeper
  | stopped => .keeper

/-- What a task at a stage is there for. -/
def Stage.role : Stage → Role
  | seeking => .worker
  | inLine _ => .worker
  | dispatching _ => .worker
  | publishing .. => .worker
  | rested => .worker
  | lost _ => .worker
  | offering _ errand => errand.role
  | counted _ errand => errand.role
  | placing errand => errand.role
  | queueing _ => .bringer
  | arriving _ => .bringer
  | atDesk _ => .bringer
  | checking _ => .bringer
  | opening .. => .bringer
  | toFinish => .finisher
  | inFinishLine => .finisher
  | draining finishing => if finishing then .finisher else .keeper
  | atBarrier finishing => if finishing then .finisher else .keeper
  | stopping finishing => if finishing then .finisher else .keeper
  | joining finishing => if finishing then .finisher else .keeper
  | collecting => .finisher
  | atDeskToCollect => .finisher
  | closing _ failure => (Ending.ofFailure failure).role
  | completing _ _ failure => (Ending.ofFailure failure).role
  | ended ending => ending.role

/-- What a caller with a demand is there for. -/
def Demand.role : Demand → Role
  | submit _ => .submitter
  | bring _ => .bringer
  | finish => .finisher
  | waitDrained => .keeper
  | stop => .keeper

/-- No caller is there to work for others. -/
theorem Demand.role_ne_worker (demand : Demand) : demand.role ≠ .worker := by
  cases demand <;> simp [role]

/-- A demand starts at a stage of its own role. -/
@[simp] theorem Demand.role_stage (demand : Demand) (config : Config) :
    (demand.stage config).role = demand.role := by
  cases demand with
  | bring source => cases mode : config.multiProject <;> simp [stage, mode, Stage.role, role]
  | _ => rfl

/-- A caller that has just arrived is at no stage of a worker. -/
theorem Demand.stage_ne_of_worker (demand : Demand) (config : Config) {stage : Stage}
    (worker : stage.role = .worker) : demand.stage config ≠ stage := fun same =>
  demand.role_ne_worker (by rw [← demand.role_stage config, same, worker])

@[simp] theorem Errand.role_placed (errand : Errand) : errand.placed.role = errand.role := by
  cases errand <;> rfl

@[simp] theorem Errand.role_refused (errand : Errand) : errand.refused.role = errand.role := by
  cases errand <;> rfl

namespace Relay

/-- No move changes what a task is there for. -/
theorem Move.role {relay shared : Relay} {task : TaskId} {before after : Stage}
    (move : Move relay task before after shared) : after.role = before.role := by
  -- Most moves name both stages; the others depend on the errand or on what was asked for.
  cases move with
  | @refuse record errand => exact errand.role_refused
  | @place errand => exact errand.role_placed
  | @pass finishing => cases finishing <;> rfl
  | @joined finishing => cases finishing <;> rfl
  | @incomplete session remaining failure => cases failure <;> rfl
  | _ => rfl

/-- The tasks of a relay are its workers and the callers that have arrived, each in its role. -/
theorem roles_of_run {config : Config} {start relay : Relay} {actions : List Action}
    (fresh : Fresh config start) (ran : start.run actions = some relay) :
    relay.tasks.map Stage.role =
      List.replicate config.effectiveWorkerCount .worker ++
        (actions.filterMap Action.demand?).map Demand.role := by
  -- Arrivals add a role at the end, and everything else leaves the list of roles alone.
  refine run_induction (fun actions relay => relay.tasks.map Stage.role =
      List.replicate config.effectiveWorkerCount .worker ++
        (actions.filterMap Action.demand?).map Demand.role) ?initial ?arrive ?register ?move ran
  case initial => simp [fresh.tasks, Stage.role]
  case arrive =>
    intro past relay demand _ ih
    simp [tasks_arrive, ih, Action.demand?]
  case register =>
    intro past relay key session _ ih
    have quiet : (Action.register key session).demand? = none := rfl
    simpa [register, quiet] using ih
  case move =>
    intro past relay action task before after shared _ ih acts at_ move _
    have quiet := demand?_of_task? acts
    -- The role that is written over is the role that is there.
    have same : (relay.tasks.map Stage.role)[task]? = some after.role := by
      rw [move.role, List.getElem?_map]
      exact congrArg (Option.map Stage.role) at_
    obtain ⟨inside, there⟩ := List.getElem?_eq_some_iff.1 same
    have kept : (shared.withStage task after).tasks.map Stage.role = relay.tasks.map Stage.role := by
      rw [withStage, move.tasks, List.map_set, ← there, List.set_getElem_self]
    simp [kept, ih, quiet]

section Callers

variable {config : Config} {start relay : Relay} {actions : List Action}

/-- Tasks are named in the order in which they begin. -/
theorem length_of_run (ran : start.run actions = some relay) :
    relay.tasks.length = start.tasks.length + (actions.filterMap Action.demand?).length := by
  -- Only an arrival adds a task.
  refine run_induction (fun actions relay => relay.tasks.length =
    start.tasks.length + (actions.filterMap Action.demand?).length) rfl ?arrive ?register ?move ran
  case arrive =>
    intro past relay demand _ ih
    simp [tasks_arrive, ih, Action.demand?, Nat.add_assoc]
  case register =>
    intro past relay key session _ ih
    have quiet : (Action.register key session).demand? = none := rfl
    simpa [register, quiet] using ih
  case move =>
    intro past relay action task before after shared _ ih acts _ move _
    -- A move writes over a stage and adds none.
    simp [withStage, move.tasks, ih, demand?_of_task? acts]

/-- A caller that arrives is the last one. -/
theorem callers_arrive (ran : start.run actions = some relay) (demand : Demand) :
    start.callers (actions ++ [.arrive demand]) =
      start.callers actions ++ [(demand, relay.tasks.length)] := by
  simp [callers, Action.demand?, List.zipIdx_append, length_of_run ran]

/-- Callers come by arrivals only. -/
theorem callers_of_demand? {action : Action} (silent : action.demand? = none) :
    start.callers (actions ++ [action]) = start.callers actions := by
  simp [callers, silent]

/-- A task that is no worker is a caller that has arrived. -/
theorem caller_of_stage (fresh : Fresh config start) (ran : start.run actions = some relay)
    {task : TaskId} {stage : Stage} (at_ : relay.stage? task = some stage) :
    (task < config.effectiveWorkerCount ∧ stage.role = .worker) ∨
      ∃ demand, (demand, task) ∈ start.callers actions ∧ stage.role = demand.role := by
  -- Both sides of the list of roles are read at the place of the task.
  have roles := congrArg (·[task]?) (roles_of_run fresh ran)
  have here : (relay.tasks.map Stage.role)[task]? = some stage.role := by
    rw [List.getElem?_map]
    exact congrArg (Option.map Stage.role) at_
  simp only [here] at roles
  -- The workers come first, and callers are found behind them in the order of their demands.
  rcases Nat.lt_or_ge task config.effectiveWorkerCount with worker | caller
  · rw [List.getElem?_append_left (by simpa using worker), List.getElem?_replicate_of_lt worker]
      at roles
    exact .inl ⟨worker, Option.some.inj roles⟩
  · rw [List.getElem?_append_right (by simpa using caller), List.getElem?_map,
      List.length_replicate] at roles
    obtain ⟨demand, found, same⟩ := Option.map_eq_some_iff.1 roles.symm
    refine .inr ⟨demand, ?_, same.symm⟩
    rw [callers, List.mk_mem_zipIdx_iff_le_and_getElem?_sub, fresh.tasks, List.length_replicate]
    exact ⟨caller, found⟩

/-- All workers that a configuration calls for are there. -/
theorem worker_of_run (fresh : Fresh config start) (ran : start.run actions = some relay)
    {worker : TaskId} (hired : worker < config.effectiveWorkerCount) :
    ∃ stage, relay.stage? worker = some stage ∧ stage.role = .worker := by
  -- The workers come first in the list of roles.
  have roles := congrArg (·[worker]?) (roles_of_run fresh ran)
  rw [List.getElem?_append_left (by simpa using hired), List.getElem?_replicate_of_lt hired,
    List.getElem?_map] at roles
  exact Option.map_eq_some_iff.1 roles

/-- A caller that has arrived is at a stage of its role. -/
theorem stage_of_caller (fresh : Fresh config start) (ran : start.run actions = some relay)
    {demand : Demand} {caller : TaskId} (arrived : (demand, caller) ∈ start.callers actions) :
    ∃ stage, relay.stage? caller = some stage ∧ stage.role = demand.role := by
  rw [callers, List.mk_mem_zipIdx_iff_le_and_getElem?_sub, fresh.tasks,
    List.length_replicate] at arrived
  obtain ⟨late, found⟩ := arrived
  -- Behind the workers the list of roles is that of the demands.
  have roles := congrArg (·[caller]?) (roles_of_run fresh ran)
  rw [List.getElem?_append_right (by simpa using late), List.getElem?_map, List.getElem?_map,
    List.length_replicate, found] at roles
  obtain ⟨stage, here, same⟩ := Option.map_eq_some_iff.1 roles
  exact ⟨stage, here, same⟩

/-- What holds of a caller when it comes, and outlasts its own moves and all that others do, holds of
it after every run. -/
theorem caller_induction (fresh : Fresh config start) {demand : Demand} {caller : TaskId}
    (Holds : List Action → Relay → Stage → Prop)
    (come : ∀ past relay, start.run past = some relay → caller = relay.tasks.length →
      Holds (past ++ [.arrive demand]) (relay.arrive demand).1 (demand.stage relay.config))
    (arrive : ∀ past relay other stage, start.run past = some relay →
      relay.stage? caller = some stage → Holds past relay stage →
      Holds (past ++ [.arrive other]) (relay.arrive other).1 stage)
    (register : ∀ past relay key session stage, start.run past = some relay →
      relay.stage? caller = some stage → Holds past relay stage →
      Holds (past ++ [.register key session]) (relay.register key session) stage)
    (own : ∀ past relay action before after shared, start.run past = some relay →
      (demand, caller) ∈ start.callers past → Holds past relay before →
      action.task? = some caller → relay.stage? caller = some before →
      Move relay caller before after shared →
      relay.step action = some (shared.withStage caller after) →
      Holds (past ++ [action]) (shared.withStage caller after) after)
    (others : ∀ past relay action task before after shared stage, start.run past = some relay →
      relay.stage? caller = some stage → Holds past relay stage → caller ≠ task →
      action.task? = some task → relay.stage? task = some before →
      Move relay task before after shared →
      relay.step action = some (shared.withStage task after) →
      Holds (past ++ [action]) (shared.withStage task after) stage)
    (ran : start.run actions = some relay) (arrived : (demand, caller) ∈ start.callers actions)
    {stage : Stage} (at_ : relay.stage? caller = some stage) : Holds actions relay stage := by
  -- The induction is on the run; a caller keeps its name, and one that comes takes a new one.
  refine run_induction (fun actions relay => (demand, caller) ∈ start.callers actions →
    ∀ stage, relay.stage? caller = some stage → Holds actions relay stage)
    ?initial ?arrive ?register ?move ran arrived stage at_
  case initial => exact fun arrived => by simp [callers] at arrived
  case arrive =>
    intro past relay newcomer began ih arrived stage there
    rw [callers_arrive began, List.mem_append, List.mem_singleton, Prod.mk.injEq] at arrived
    rw [stage?_arrive] at there
    rcases arrived with earlier | ⟨rfl, rfl⟩
    · -- One that came earlier has a name already, which is not that of the newcomer.
      obtain ⟨stage', known, -⟩ := stage_of_caller fresh began earlier
      rw [if_neg (Nat.ne_of_lt (List.getElem?_eq_some_iff.1 known).1)] at there
      exact arrive past relay newcomer stage began there (ih earlier stage there)
    · obtain rfl := Option.some.inj (by simpa using there : some _ = some stage)
      exact come past relay began rfl
  case register =>
    intro past relay key session began ih arrived stage there
    rw [callers_of_demand? rfl] at arrived
    exact register past relay key session stage began there (ih arrived stage there)
  case move =>
    intro past relay action task before after shared began ih acts at_ move stepped arrived stage there
    rw [callers_of_demand? (demand?_of_task? acts)] at arrived
    rw [move.stage? at_] at there
    split at there
    · next same =>
      subst same
      obtain rfl := Option.some.inj there
      exact own past relay action before after shared began arrived (ih arrived before at_) acts at_
        move stepped
    · next differ =>
      exact others past relay action task before after shared stage began there
        (ih arrived stage there) differ acts at_ move stepped

/-- In a whole relay nobody looks after the queue or the workers alone. -/
theorem role_ne_keeper (fresh : Fresh config start) (ran : start.run actions = some relay)
    (whole : WholeDemands actions) {task : TaskId} {stage : Stage}
    (at_ : relay.stage? task = some stage) : stage.role ≠ .keeper := by
  -- Every task is a worker or came with a demand, and no demand of a whole relay makes a keeper.
  rcases caller_of_stage fresh ran at_ with ⟨-, worker⟩ | ⟨demand, arrived, role⟩
  · simp [worker]
  · obtain ⟨action, member, brings⟩ := List.mem_filterMap.1 (demand_of_callers arrived)
    obtain rfl : action = .arrive demand := by cases action <;> simp_all [Action.demand?]
    have whole := whole demand member
    rw [role]
    cases demand <;> simp [Demand.role, Demand.isWhole] at whole ⊢

/-- The answer of one that wanted to finish is that of a finisher. -/
theorem ended_of_finish (fresh : Fresh config start) (ran : start.run actions = some relay)
    {caller : TaskId} {ending : Ending} (arrived : (Demand.finish, caller) ∈ start.callers actions)
    (ended : relay.ending? caller = some ending) :
    relay.stage? caller = some (.ended ending) ∧ ending.role = .finisher := by
  obtain ⟨stage, at_, role⟩ := stage_of_caller fresh ran arrived
  rw [ending?, at_, Option.bind_some] at ended
  -- Only the last stage has an ending.
  cases stage with
  | ended found =>
    obtain rfl : found = ending := by simpa [Stage.ending?] using ended
    exact ⟨at_, role⟩
  | _ => simp [Stage.ending?] at ended

end Callers

end Relay

end InsightRelay
