import InsightRelay.Proofs.Relay.Crew

/-! Custody: who has charge of the workers of a pool, what that caller has told them, and which of them
have ended. -/

namespace InsightRelay

/-- Whether a worker at a stage has ended. -/
def Stage.hasLeft : Stage → Bool
  | rested => true
  | lost _ => true
  | _ => false

/-- Whether a caller at a stage has taken workers and waits until the queue is drained. -/
def Stage.isWaiting : Stage → Bool
  | draining finishing => finishing
  | atBarrier finishing => finishing
  | _ => false

/-- Whether a caller at a stage is at work on the end of its workers. -/
def Stage.isStopping : Stage → Bool
  | stopping _ => true
  | joining _ => true
  | _ => false

/-- What the stage of a caller says of the workers that it has taken. -/
structure Stage.Keeps (stage : Stage) (pool : Pool) : Prop where
  waiting : stage.isWaiting = true → pool.stopping = false
  stopping : ∀ finishing, stage = .stopping finishing → pool.stopping = false
  joining : ∀ finishing, stage = .joining finishing → pool.stopping = true
  through : stage.isWaiting = false → stage.isStopping = false → pool.workers = []

/-- A stage tells the same of a pool when some of its workers are seen to have ended. -/
theorem Stage.Keeps.fewer {stage : Stage} {pool later : Pool} (keeps : stage.Keeps pool)
    (fewer : later.workers ⊆ pool.workers) (same : later.stopping = pool.stopping) :
    stage.Keeps later where
  waiting waits := same.trans (keeps.waiting waits)
  stopping finishing stops := same.trans (keeps.stopping finishing stops)
  joining finishing joins := same.trans (keeps.joining finishing joins)
  through idle ended := List.eq_nil_of_subset_nil (keeps.through idle ended ▸ fewer)

namespace Relay

/-- A worker has ended. -/
def HasLeft (relay : Relay) (worker : TaskId) : Prop :=
  ∃ stage, relay.stage? worker = some stage ∧ stage.hasLeft = true

/-- What is known of a pool and of the one that has charge of it. -/
structure Custody (crew : List TaskId) (relay : Relay) : Prop where
  single : relay.pools.length = 1
  members : ∀ pool ∈ relay.pools, pool.workers ⊆ crew
  ready : ∀ pool, relay.pool = some pool → pool.stopping = false
  owned : ∀ entry ∈ relay.taken, ∃ stage, relay.stage? entry.1 = some stage ∧ stage.Keeps entry.2
  /-- Each worker is in the pool until it is seen to have ended. -/
  kept : ∀ worker ∈ crew, (∃ pool ∈ relay.pools, worker ∈ pool.workers) ∨ relay.HasLeft worker
  /-- A worker rests when it was told to stop. -/
  rested : ∀ task, relay.stage? task = some .rested → ∃ entry ∈ relay.taken, entry.2.stopping = true

section Moves

variable {relay shared : Relay} {task : TaskId} {before after : Stage}

/-- A worker that has ended makes no move. -/
theorem Move.awake (move : Move relay task before after shared) : before.hasLeft = false := by
  cases move <;> rfl

/-- A worker that has ended stays at its stage. -/
theorem HasLeft.move {worker : TaskId} (left : relay.HasLeft worker)
    (at_ : relay.stage? task = some before) (move : Move relay task before after shared) :
    (shared.withStage task after).HasLeft worker := by
  -- Only a task that is awake can move, so the mover is another one.
  obtain ⟨stage, there, ended⟩ := left
  refine ⟨stage, ?_, ended⟩
  rw [move.stage? at_, if_neg, there]
  rintro rfl
  obtain rfl : before = stage := Option.some.inj (at_.symm.trans there)
  simp [move.awake] at ended

/-- A caller that waits for the queue to be drained did so before, or takes the workers at hand. -/
theorem Move.waits (move : Move relay task before after shared) (waits : after.isWaiting = true) :
    before.isWaiting = true ∨ relay.pool.isSome = true := by
  -- A caller comes to wait only by beginning to finish, for which the workers have to be at hand.
  cases move with
  | begin first ready => exact .inr ready
  | @wait finishing => exact .inl waits
  | @refuse record errand => cases errand <;> simp [Errand.refused, Stage.isWaiting] at waits
  | @place errand => cases errand <;> simp [Errand.placed, Stage.isWaiting] at waits
  | @pass finishing => cases finishing <;> simp [Stage.isWaiting] at waits
  | @joined finishing => cases finishing <;> simp [Stage.isWaiting] at waits
  | _ => simp [Stage.isWaiting] at waits

/-- Whoever calls for the end of its workers has waited for the queue to be drained. -/
theorem Move.stops (move : Move relay task before after shared) {finishing : Bool}
    (stops : after = .stopping finishing) : before.isWaiting = true := by
  cases move with
  | @pass finishing => cases finishing <;> simp_all [Stage.isWaiting]
  | @refuse record errand => cases errand <;> simp [Errand.refused] at stops
  | @place errand => cases errand <;> simp [Errand.placed] at stops
  | @joined finishing => cases finishing <;> simp at stops
  | _ => simp at stops

/-- A caller has charge of its workers until none is left. -/
theorem Move.releases (move : Move relay task before after shared)
    (had : before.isWaiting = true ∨ before.isStopping = true) :
    (after.isWaiting = true ∨ after.isStopping = true) ∨ relay.workersTakenBy task = [] := by
  -- From waiting a caller goes on to stop the workers, and from that it goes only when all have left.
  cases move with
  | joined alone => exact .inr alone
  | wait => exact .inl had
  | @pass finishing => cases finishing <;> simp_all [Stage.isWaiting, Stage.isStopping]
  | stop | join => exact .inl (.inr rfl)
  | _ => simp [Stage.isWaiting, Stage.isStopping] at had

/-- The pools are as many as they were. -/
theorem Move.length_pools (move : Move relay task before after shared) :
    shared.pools.length = relay.pools.length := by
  cases move with
  | begin => simp [pools, takePool]; omega
  | stop | join => simp [pools, changeTaken]
  | _ => rfl

/-- After a change to the pools of one caller each pool is still there, changed or not. -/
private theorem mem_pools_changeTaken (task : TaskId) (change : Pool → Pool) {pool : Pool}
    (member : pool ∈ relay.pools) : ∃ later ∈ (relay.changeTaken task change).pools,
      later = pool ∨ later = change pool := by
  -- The pool at hand is left alone, and those of other callers are, too.
  rcases List.mem_append.1 member with ready | taken
  · exact ⟨pool, List.mem_append_left _ ready, .inl rfl⟩
  · obtain ⟨⟨owner, found⟩, there, rfl⟩ := List.mem_map.1 taken
    refine ⟨if owner = task then change found else found, List.mem_append_right _ ?_, ?_⟩
    · exact List.mem_map.2 ⟨_, List.mem_map_of_mem there, rfl⟩
    · split
      · exact .inr rfl
      · exact .inl rfl

/-- A worker is in its pool until it is seen to have ended. -/
theorem Move.keeps (move : Move relay task before after shared) {worker : TaskId}
    (inside : ∃ pool ∈ relay.pools, worker ∈ pool.workers) :
    (∃ pool ∈ shared.pools, worker ∈ pool.workers) ∨ relay.HasLeft worker := by
  obtain ⟨pool, member, works⟩ := inside
  cases move with
  | begin =>
    -- The pool changes its place and nothing else.
    refine .inl ⟨pool, ?_, works⟩
    simpa [pools, takePool, or_comm] using member
  | stop =>
    obtain ⟨later, there, same⟩ :=
      mem_pools_changeTaken task (fun pool => { pool with stopping := true }) member
    exact .inl ⟨later, there, by rcases same with rfl | rfl <;> exact works⟩
  | @join _ seen _ _ gone =>
    -- Only the worker that was seen to have ended is let go.
    by_cases same : worker = seen
    · subst same
      rcases gone with ⟨rested, -⟩ | ⟨record, lost, -⟩
      · exact .inr ⟨_, rested, rfl⟩
      · exact .inr ⟨_, lost, rfl⟩
    · obtain ⟨later, there, kept⟩ := mem_pools_changeTaken task
        (fun pool => { pool with workers := pool.workers.filter (· != seen) }) member
      refine .inl ⟨later, there, ?_⟩
      rcases kept with rfl | rfl
      · exact works
      · exact List.mem_filter.2 ⟨works, by simpa using same⟩
  | _ => exact .inl ⟨pool, member, works⟩

/-- Workers that were told to stop stay told. -/
theorem Move.told (move : Move relay task before after shared)
    (told : ∃ entry ∈ relay.taken, entry.2.stopping = true) :
    ∃ entry ∈ shared.taken, entry.2.stopping = true := by
  -- Pools are only ever told to stop, never to go on.
  obtain ⟨⟨owner, pool⟩, member, stopping⟩ := told
  cases move with
  | begin => exact ⟨_, List.mem_append_left _ member, stopping⟩
  | stop | join =>
    refine ⟨_, List.mem_map_of_mem member, ?_⟩
    dsimp only
    split
    · first | rfl | exact stopping
    · exact stopping
  | _ => exact ⟨_, member, stopping⟩

namespace Custody

variable {crew : List TaskId}

/-- Where a caller has taken the workers, none are at hand and nobody else has taken any. -/
theorem alone (custody : Custody crew relay) {entry : TaskId × Pool}
    (member : entry ∈ relay.taken) : relay.pool = none ∧ relay.taken = [entry] := by
  -- There is one pool at most, and this is it.
  have single := custody.single
  simp only [pools, List.length_append, List.length_map] at single
  have some_ := List.length_pos_of_mem member
  obtain ⟨only, same⟩ := List.length_eq_one_iff.1 (by omega : relay.taken.length = 1)
  rw [same, List.mem_singleton] at member
  have none_ : relay.pool.toList = [] := List.eq_nil_of_length_eq_zero (by omega)
  exact ⟨by simpa using none_, by rw [same, member]⟩

/-- Whatever move is made, the stage of a caller tells of its workers. -/
private theorem keeps_move {pool later : Pool} (custody : Custody crew relay)
    (taken : (task, pool) ∈ relay.taken) (keeps : before.Keeps pool)
    (move : Move relay task before after shared) (fewer : later.workers ⊆ pool.workers)
    (told : later.stopping = true ↔
      pool.stopping = true ∨ ∃ finishing, before = .stopping finishing) : after.Keeps later := by
  obtain ⟨pool_none, -⟩ := custody.alone taken
  -- One that still waits has told its workers nothing.
  have untold (waits : before.isWaiting = true) : later.stopping = false := by
    refine Bool.eq_false_iff.2 fun stopping => ?_
    rcases told.1 stopping with before_ | ⟨finishing, rfl⟩
    · simp [keeps.waiting waits] at before_
    · simp [Stage.isWaiting] at waits
  refine ⟨fun waits => ?_, fun finishing stops => untold (move.stops stops), fun finishing joins => ?_,
    fun idle ended => ?_⟩
  · rcases move.waits waits with waited | ready
    · exact untold waited
    · simp [pool_none] at ready
  · rcases move.joins joins with stopping | joining
    · exact told.2 (.inr ⟨finishing, stopping⟩)
    · exact told.2 (.inl (keeps.joining finishing joining))
  · refine List.eq_nil_of_subset_nil (List.Subset.trans fewer ?_)
    -- After its last move a caller keeps no workers.
    by_cases had : before.isWaiting = true ∨ before.isStopping = true
    · -- It has let go of its workers only when none was left.
      rcases move.releases had with still | none_
      · simp [idle, ended] at still
      · intro worker inside
        rw [← none_]
        exact List.mem_flatMap.2 ⟨_, List.mem_filter.2 ⟨taken, by simp⟩, inside⟩
    · obtain ⟨idle, ended⟩ := not_or.1 had
      rw [keeps.through (by simpa using idle) (by simpa using ended)]
      exact List.Subset.refl _

/-- Whatever move is made, the same is known of the pool. -/
theorem move (custody : Custody crew relay) (at_ : relay.stage? task = some before)
    (move : Move relay task before after shared) : Custody crew (shared.withStage task after) where
  single := move.length_pools.trans custody.single
  members pool member := by
    obtain ⟨earlier, there, fewer⟩ := move.members member
    exact List.Subset.trans fewer (custody.members earlier there)
  ready pool ready := custody.ready pool (move.ready ready)
  owned := by
    rintro ⟨owner, pool⟩ taken
    simp only [move.stage? at_]
    rcases move.handed taken with ⟨earlier, there, fewer, told⟩ | ⟨ready, rfl, rfl⟩
    · obtain ⟨stage, known, keeps⟩ := custody.owned _ there
      by_cases same : owner = task
      · subst same
        obtain rfl : before = stage := Option.some.inj (at_.symm.trans known)
        exact ⟨after, by simp, custody.keeps_move there keeps move fewer (by simpa using told)⟩
      · -- The caller itself stays where it is, and so do its workers but for some that have ended.
        have silent : pool.stopping = earlier.stopping :=
          Bool.eq_iff_iff.2 (told.trans (or_iff_left fun own => same own.1))
        exact ⟨stage, by rw [if_neg same, known], keeps.fewer fewer silent⟩
    · exact ⟨_, if_pos rfl, fun _ => custody.ready pool ready, by simp, by simp, by
        simp [Stage.isWaiting]⟩
  kept worker member := by
    rcases custody.kept worker member with inside | left
    · -- A worker that has left stays away, whoever moves.
      rcases move.keeps inside with still | left
      · exact .inl still
      · exact .inr (left.move at_ move)
    · exact .inr (left.move at_ move)
  rested other there := by
    rw [move.stage? at_] at there
    split at there
    · exact move.told (move.rests (Option.some.inj there))
    · exact move.told (custody.rested other there)

end Custody

end Moves

/-- An arrival leaves workers where they are. -/
theorem HasLeft.arrive {relay : Relay} {worker : TaskId} (left : relay.HasLeft worker)
    (demand : Demand) : (relay.arrive demand).1.HasLeft worker := by
  obtain ⟨stage, there, ended⟩ := left
  refine ⟨stage, ?_, ended⟩
  rw [stage?_arrive, if_neg (Nat.ne_of_lt (List.getElem?_eq_some_iff.1 there).1), there]

/-- After an arrival the pools are those that were there before. -/
theorem mem_pools_arrive {relay : Relay} {demand : Demand} {pool : Pool} :
    pool ∈ (relay.arrive demand).1.pools ↔ pool ∈ relay.pools := by
  cases demand with
  | stop => simp [pools, Relay.arrive, takePool, or_comm]
  | _ => exact Iff.rfl

/-- One that comes to stop the workers takes those at hand, and nobody else takes any. -/
theorem taken_arrive {relay : Relay} {demand : Demand} {entry : TaskId × Pool}
    (taken : entry ∈ (relay.arrive demand).1.taken) : entry ∈ relay.taken ∨
      demand = .stop ∧ entry.1 = relay.tasks.length ∧ relay.pool = some entry.2 := by
  -- Only one that comes to stop the workers takes any, and they were at hand.
  cases demand with
  | stop =>
    rcases List.mem_append.1 taken with old | new
    · exact .inl old
    · obtain ⟨pool, ready, rfl⟩ := List.mem_map.1 new
      exact .inr ⟨rfl, rfl, by simpa using ready⟩
  | _ => exact .inl taken

/-- Whoever arrives, the same is known of the pool. -/
theorem Custody.arrive {crew : List TaskId} {relay : Relay} (custody : Custody crew relay)
    (demand : Demand) : Custody crew (relay.arrive demand).1 where
  single := by
    refine Eq.trans ?_ custody.single
    cases demand with
    | stop => simp [pools, Relay.arrive, takePool]; omega
    | _ => rfl
  members pool member := custody.members pool (mem_pools_arrive.1 member)
  ready pool ready := by
    cases demand with
    -- The pool has been taken away, if there was one.
    | stop => simp [Relay.arrive, takePool] at ready
    | _ => exact custody.ready pool ready
  owned entry taken := by
    rcases taken_arrive taken with old | ⟨rfl, owner, ready⟩
    · obtain ⟨stage, there, keeps⟩ := custody.owned entry old
      refine ⟨stage, ?_, keeps⟩
      rw [stage?_arrive, if_neg (Nat.ne_of_lt (List.getElem?_eq_some_iff.1 there).1), there]
    · -- The newcomer has not told its workers to stop, as nobody has before.
      refine ⟨.stopping false, by simp [stage?_arrive, owner, Demand.stage], ?_⟩
      exact ⟨by simp [Stage.isWaiting], fun _ _ => custody.ready _ ready, by simp,
        by simp [Stage.isStopping]⟩
  kept worker member := by
    simp only [mem_pools_arrive]
    exact (custody.kept worker member).imp_right fun left => left.arrive demand
  rested task there := by
    have told : ∀ task stage, (relay.arrive demand).1.stage? task = some stage → stage = .rested →
        ∃ entry ∈ relay.taken, entry.2.stopping = true :=
      stages_arrive (fun task stage at_ rests => custody.rested task (rests ▸ at_))
        fun rests => absurd rests (demand.stage_ne_of_worker relay.config rfl)
    obtain ⟨entry, member, stopping⟩ := told task _ there rfl
    refine ⟨entry, ?_, stopping⟩
    cases demand with
    | stop => exact List.mem_append_left _ member
    | _ => exact member

section Runs

variable {crew : List TaskId} {relay later : Relay} {actions : List Action}

/-- However a relay runs on, the same is known of its pool. -/
theorem Custody.run (custody : Custody crew relay) (ran : relay.run actions = some later) :
    Custody crew later := by
  -- Sessions have nothing to do with the pools.
  refine run_induction (fun _ later => Custody crew later) custody ?arrive ?register ?move ran
  case arrive => exact fun past later demand _ custody => custody.arrive demand
  case register =>
    exact fun past later key session _ custody => ⟨custody.single, custody.members, custody.ready,
      custody.owned, custody.kept, custody.rested⟩
  case move =>
    exact fun past later action task before after shared _ custody _ at_ move _ =>
      custody.move at_ move

/-- A worker that has ended never comes back. -/
theorem HasLeft.run {worker : TaskId} (left : relay.HasLeft worker)
    (ran : relay.run actions = some later) : later.HasLeft worker := by
  refine run_induction (fun _ later => later.HasLeft worker) left ?arrive ?register ?move ran
  case arrive => exact fun past later demand _ left => left.arrive demand
  case register => exact fun past later key session _ left => left
  case move =>
    exact fun past later action task before after shared _ left _ at_ move _ => left.move at_ move

/-- Workers that have just started are all at hand. -/
theorem Vacant.custody (vacant : Vacant relay) (count : Nat) :
    Custody (List.range' relay.tasks.length count) (relay.startWorkers count).1 := by
  have pools : (relay.startWorkers count).1.pools =
      [⟨count, List.range' relay.tasks.length count, false⟩] := by
    simp [vacant.startWorkers_eq, Relay.pools, vacant.taken]
  have taken : (relay.startWorkers count).1.taken = [] := by
    rw [vacant.startWorkers_eq, vacant.taken]
  refine ⟨by rw [pools]; rfl, ?_, ?_, by simp [taken], ?_, fun task there => ?_⟩
  · rw [pools]
    simp
  · intro pool ready
    rw [vacant.startWorkers_eq] at ready
    obtain rfl := Option.some.inj ready
    rfl
  · -- Every new worker is in the one pool.
    exact fun worker member => .inl ⟨_, by rw [pools]; exact List.mem_singleton_self _, member⟩
  · -- Nobody was a worker before, and those that start are only about to ask for a record.
    rw [vacant.stage?_startWorkers] at there
    split at there
    · simp at there
    · exact absurd rfl (vacant.callers task _ there)

end Runs

end Relay

end InsightRelay
