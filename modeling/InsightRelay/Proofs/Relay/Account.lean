import InsightRelay.Proofs.Relay.Finish

/-! Accounts: what each caller brings, what is counted of it, and what the caller is told of that. -/

namespace InsightRelay

/-- The records of a source, without the entries that give none. -/
def Source.goods (source : Source) : List PackageRecord :=
  source.records.filterMap Except.toOption

/-- The records that a demand brings. -/
def Demand.records : Demand → List PackageRecord
  | submit record => [record]
  | bring source => source.goods
  | finish => []
  | waitDrained => []
  | stop => []

/-- The records of an errand that come after the one at hand. -/
def Errand.upcoming : Errand → List PackageRecord
  | single => []
  | batch records => records.remaining.filterMap Except.toOption

/-- The records that a caller at a stage has still to offer. -/
def Stage.upcoming : Stage → List PackageRecord
  | offering record errand => record :: errand.upcoming
  | counted _ errand => errand.upcoming
  | placing errand => errand.upcoming
  | queueing batch => batch.remaining.filterMap Except.toOption
  | arriving source => source.goods
  | atDesk source => source.goods
  | checking source => source.goods
  | opening source _ => source.goods
  | _ => []

/-- How many records a caller with a source was told of as accepted. -/
def Ending.queued? : Ending → Option Nat
  | queued count => some count
  | _ => none

@[simp] theorem queued?_queued (count : Nat) : (Ending.queued count).queued? = some count := rfl

@[simp] theorem upcoming_placed (errand : Errand) : errand.placed.upcoming = errand.upcoming := by
  cases errand <;> rfl

@[simp] theorem upcoming_refused (errand : Errand) : errand.refused.upcoming = errand.upcoming := by
  cases errand <;> rfl

/-- A caller that has just arrived has to offer what it brings. -/
@[simp] theorem upcoming_stage (demand : Demand) (config : Config) :
    (demand.stage config).upcoming = demand.records := by
  cases demand with
  | bring source => cases mode : config.multiProject <;> simp [Demand.stage, mode] <;> rfl
  | _ => rfl

/-- A worker is not told of accepted records. -/
theorem credit_of_worker {stage : Stage} (worker : stage.role = .worker) : stage.credit = 0 := by
  -- Every stage that gives credit is that of a caller.
  cases stage with
  | offering record errand => cases errand <;> simp [Stage.role, Errand.role] at worker
  | counted record errand => cases errand <;> simp [Stage.role, Errand.role] at worker
  | placing errand => cases errand <;> simp [Stage.role, Errand.role] at worker
  | queueing batch => simp [Stage.role] at worker
  | ended ending =>
    cases ending with
    | failed problem =>
      -- An error is told to one that brings or to one that finishes.
      cases problem <;> simp [Stage.role, Ending.role, RelayError.isCompletion] at worker
    | _ => simp [Stage.role, Ending.role] at worker
  | _ => rfl

/-- A caller that has its answer is told of its records in that answer. -/
theorem credit_of_ending? {stage : Stage} {ending : Ending}
    (ended : stage.ending? = some ending) : stage.credit = ending.credit := by
  cases stage with
  | ended found =>
    obtain rfl : found = ending := by simpa [Stage.ending?] using ended
    rfl
  | _ => simp [Stage.ending?] at ended

/-- Callers that have their answers are told of their records in the answers. -/
theorem sum_credit_of_ended {stages : List Stage}
    (ended : ∀ stage ∈ stages, stage.ending?.isSome = true) :
    (stages.map Stage.credit).sum = ((stages.filterMap Stage.ending?).map Ending.credit).sum := by
  -- The induction adds up one answer at a time.
  induction stages with
  | nil => rfl
  | cons stage rest ih =>
    obtain ⟨ending, told⟩ := Option.isSome_iff_exists.1 (ended stage List.mem_cons_self)
    simp [told, credit_of_ending? told, ih fun other member => ended other (.tail _ member)]

/-- All that callers are told adds up from single records and from whole sources. -/
theorem sum_credit (endings : List Ending) : (endings.map Ending.credit).sum =
    endings.count .accepted + (endings.filterMap Ending.queued?).sum := by
  induction endings with
  | nil => rfl
  | cons ending rest ih =>
    cases ending <;> simp [ih, List.filterMap_cons, Ending.credit, Ending.queued?] <;> omega

namespace Relay

/-- The records of one caller that are counted during a run. -/
def acceptedBy (start : Relay) (actions : List Action) (caller : TaskId) : List PackageRecord :=
  ((start.accepted actions).filter fun entry => entry.1 == caller).map Prod.snd

/-- What the callers that have arrived are told in the end. -/
def answers (start : Relay) (actions : List Action) (relay : Relay) : List Ending :=
  (start.callers actions).filterMap fun entry => relay.ending? entry.2

/-- A caller offers its records in turn, and none is counted once the queue is closed. -/
theorem Move.upcoming {relay shared : Relay} {task : TaskId} {before after : Stage}
    (move : Move relay task before after shared) :
    (relay.seeAccepted task before after).map Prod.snd ++ after.upcoming = before.upcoming ∨
      relay.queue.closed = true ∧ relay.seeAccepted task before after = [] ∧
        after.upcoming.Sublist before.upcoming := by
  -- What a caller has still to offer changes when it is counted or refused, and only then.
  cases move with
  | @refuse record errand closed =>
    refine .inr ⟨closed, by cases errand <;> rfl, ?_⟩
    rw [upcoming_refused]
    exact List.sublist_cons_self record errand.upcoming
  | place => exact .inl (upcoming_placed _)
  | @pass finishing => cases finishing <;> exact .inl rfl
  | @joined finishing => cases finishing <;> exact .inl rfl
  | accept => exact .inl rfl
  | _ => exact .inl rfl

/-- What an action shows of accepted records concerns the task that acts. -/
theorem seeAccepted_other {relay : Relay} {task caller : TaskId} {before after : Stage}
    (other : caller ≠ task) :
    (relay.seeAccepted task before after).filter (fun entry => entry.1 == caller) = [] := by
  -- A move counts a record for the mover, if for anybody.
  unfold seeAccepted
  split
  · simp [Ne.symm other]
  · rfl

/-- All that a task shows of accepted records concerns itself. -/
theorem seeAccepted_own {relay : Relay} {task : TaskId} {before after : Stage} :
    (relay.seeAccepted task before after).filter (fun entry => entry.1 == task) =
      relay.seeAccepted task before after := by
  unfold seeAccepted
  split <;> simp

section Runs

variable {config : Config} {start relay : Relay} {actions : List Action}

/-- A move of one caller counts records of that caller only. -/
theorem acceptedBy_move {action : Action} {task : TaskId} {before after : Stage} {shared : Relay}
    (ran : start.run actions = some relay) (acts : action.task? = some task)
    (at_ : relay.stage? task = some before) (move : Move relay task before after shared)
    (stepped : relay.step action = some (shared.withStage task after)) (caller : TaskId) :
    start.acceptedBy (actions ++ [action]) caller = start.acceptedBy actions caller ++
      if caller = task then (relay.seeAccepted task before after).map Prod.snd else [] := by
  -- What is seen accepted is entered under the mover, so that only its own account grows.
  simp only [acceptedBy, accepted, watch_move ran acts at_ move stepped, List.filter_append,
    List.map_append]
  split
  · next same => rw [same, seeAccepted_own]
  · next other => rw [seeAccepted_other other, List.map_nil]

/-- Every caller is told of exactly the records of its own that are counted. -/
theorem credited_of_run (fresh : Fresh config start) (ran : start.run actions = some relay)
    (caller : TaskId) :
    (start.acceptedBy actions caller).length = (relay.stage? caller).elim 0 Stage.credit := by
  -- A ledger for each caller, kept in step with its stage by every action.
  refine run_induction (fun actions relay => (start.acceptedBy actions caller).length =
    (relay.stage? caller).elim 0 Stage.credit) ?initial ?arrive ?register ?move ran
  case initial =>
    rw [stage?, fresh.tasks, List.getElem?_replicate]
    split <;> rfl
  case arrive =>
    intro past relay demand ran ih
    rw [acceptedBy, accepted, watch_arrive ran, stage?_arrive]
    split
    · next last =>
      -- Before the caller came there was no task of its name.
      rw [last, stage?, List.getElem?_eq_none (Nat.le_refl _)] at ih
      simpa [last, acceptedBy, accepted] using ih
    · exact ih
  case register =>
    intro past relay key session ran ih
    rw [acceptedBy, accepted, watch_register ran]
    exact ih
  case move =>
    intro past relay action task before after shared ran ih acts at_ move stepped
    rw [acceptedBy_move ran acts at_ move stepped, move.stage? at_]
    split
    · next same =>
      -- The credit of the mover grows by what its move shows.
      rw [same, at_] at ih
      have flow := ((lined_of_run fresh ran).flow at_ move).credit
      simp only [Option.elim_some, List.length_append, List.length_map] at ih ⊢
      rw [same]
      omega
    · simpa using ih

/-- An arrival counts no record. -/
theorem acceptedBy_arrive (ran : start.run actions = some relay) (demand : Demand)
    (caller : TaskId) : start.acceptedBy (actions ++ [.arrive demand]) caller =
      start.acceptedBy actions caller := by
  simp only [acceptedBy, accepted, watch_arrive ran]

/-- Records are counted for those that bring them, and in the order in which they bring them. -/
theorem brought_of_run (fresh : Fresh config start) (ran : start.run actions = some relay)
    {demand : Demand} {caller : TaskId} (arrived : (demand, caller) ∈ start.callers actions)
    {stage : Stage} (at_ : relay.stage? caller = some stage) :
    (start.acceptedBy actions caller ++ stage.upcoming).Sublist demand.records := by
  -- Only the caller itself changes what it has still to offer.
  refine caller_induction fresh (fun actions _ stage =>
    (start.acceptedBy actions caller ++ stage.upcoming).Sublist demand.records)
    ?come ?arrive ?register ?own ?others ran arrived at_
  case come =>
    -- The new caller has all records before it, and none of them is counted.
    rintro past relay ran rfl
    have none_ := credited_of_run fresh ran relay.tasks.length
    rw [stage?, List.getElem?_eq_none (Nat.le_refl _)] at none_
    simp [acceptedBy_arrive ran, List.eq_nil_of_length_eq_zero none_]
  case arrive =>
    intro past relay other stage ran _ ih
    rw [acceptedBy_arrive ran]
    exact ih
  case register =>
    intro past relay key session stage ran _ ih
    simpa only [acceptedBy, accepted, watch_register ran] using ih
  case own =>
    intro past relay action before after shared ran _ ih acts at_ move stepped
    rw [acceptedBy_move ran acts at_ move stepped, if_pos rfl]
    rcases move.upcoming with offered | ⟨-, none_, fewer⟩
    · -- A record goes from those that are to come to those that are counted.
      rw [List.append_assoc, offered]
      exact ih
    · -- A record that is refused falls out of both.
      rw [none_, List.map_nil, List.append_nil]
      exact (List.Sublist.append_left fewer _).trans ih
  case others =>
    intro past relay action task before after shared stage ran _ ih other acts at_ move stepped
    rw [acceptedBy_move ran acts at_ move stepped, if_neg other, List.append_nil]
    exact ih

/-- The callers stand behind the workers among the tasks, in the order in which they arrived. -/
private theorem answers_eq (fresh : Fresh config start) (ran : start.run actions = some relay) :
    start.answers actions relay =
      (relay.tasks.drop config.effectiveWorkerCount).filterMap Stage.ending? := by
  have length := length_of_run ran
  -- A caller at some place among the callers is at the same place behind the workers.
  have stages : (start.callers actions).map (fun entry => relay.ending? entry.2) =
      (relay.tasks.drop config.effectiveWorkerCount).map Stage.ending? := by
    simp only [fresh.tasks, List.length_replicate] at length
    refine List.ext_getElem (by simp [callers, length]) fun position inside _ => ?_
    -- The task at that place is there, since all callers are tasks.
    have below : config.effectiveWorkerCount + position < relay.tasks.length := by
      simp only [callers, List.length_map, List.length_zipIdx] at inside
      omega
    simp [callers, fresh.tasks, ending?, stage?, List.getElem?_eq_getElem below]
  have found := congrArg (List.filterMap id) stages
  rwa [List.filterMap_map, List.filterMap_map] at found

/-- Once all callers have their answers, they were told of exactly the records that are counted. -/
theorem submitted_of_answers (fresh : Fresh config start) (ran : start.run actions = some relay)
    (answered : ∀ entry ∈ start.callers actions, (relay.ending? entry.2).isSome = true) :
    relay.queue.submitted = (start.answers actions relay).count .accepted +
      ((start.answers actions relay).filterMap Ending.queued?).sum := by
  have credited : relay.queue.submitted = relay.tally fun _ stage => stage.credit :=
    (counted_of_run fresh ran).credited
  -- The workers come first and are told of nothing.
  have tasks := roles_of_run fresh ran
  have idle : ((relay.tasks.take config.effectiveWorkerCount).map Stage.credit).sum = 0 := by
    refine List.sum_eq_zero_iff_forall_eq_nat.2 fun value member => ?_
    obtain ⟨stage, inside, rfl⟩ := List.mem_map.1 member
    refine credit_of_worker (List.eq_of_mem_replicate (n := config.effectiveWorkerCount) ?_)
    have role := List.mem_map_of_mem (f := Stage.role) inside
    rwa [List.map_take, tasks, List.take_left' (by simp)] at role
  -- Behind them come the callers, and all of these have their answers.
  have ended : ∀ stage ∈ relay.tasks.drop config.effectiveWorkerCount,
      stage.ending?.isSome = true := by
    intro stage member
    obtain ⟨position, there⟩ := List.mem_iff_getElem?.1 member
    rw [List.getElem?_drop] at there
    have at_ : relay.stage? (config.effectiveWorkerCount + position) = some stage := there
    rcases caller_of_stage fresh ran at_ with ⟨worker, -⟩ | ⟨demand, arrived, -⟩
    · exact absurd worker (Nat.not_lt_of_le (Nat.le_add_right _ _))
    · simpa [ending?, at_] using answered _ arrived
  -- The tally is the sum over both parts of the tasks.
  have tally_eq : relay.tally (fun _ stage => stage.credit) = (relay.tasks.map Stage.credit).sum :=
    congrArg List.sum (List.mapIdx_eq_iff.2 fun _ => List.getElem?_map)
  rw [credited, ← sum_credit, answers_eq fresh ran, ← sum_credit_of_ended ended, tally_eq,
    ← List.take_append_drop config.effectiveWorkerCount (relay.tasks.map Stage.credit),
    List.sum_append, ← List.map_take, idle, ← List.map_drop, Nat.zero_add]

end Runs

end Relay

end InsightRelay
