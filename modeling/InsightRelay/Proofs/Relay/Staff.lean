import InsightRelay.Proofs.Relay.Finish

/-! The staff: the workers that a relay starts with, who may let them end, and that none of them
ends before everything is drained. -/

namespace InsightRelay.Relay

/-- A configuration calls for at least one worker. -/
theorem effectiveWorkerCount_pos (config : Config) : 0 < config.effectiveWorkerCount := by
  unfold Config.effectiveWorkerCount
  split
  · decide
  · omega

/-- A configuration without faults asks for room. -/
theorem capacity_of_validate {config : Config} (valid : config.validate = .ok config) :
    0 < config.queueCapacity := by
  refine Nat.pos_of_ne_zero fun roomless => ?_
  have faultless := (Config.validate_eq_ok_iff.1 valid).1
  simp only [Config.fault?, roomless, if_true] at faultless
  repeat' split at faultless
  all_goals simp at faultless

/-- A relay that was launched has all its workers at hand, and they have not been told to stop. -/
theorem pool_of_launch {σ : Type} {config : Config} {service : Service σ} {state : σ}
    {start : Relay} (launched : launch config service state = .ok start) :
    start.pool = some ⟨config.effectiveWorkerCount,
      List.range' 0 config.effectiveWorkerCount, false⟩ := by
  have tasks := (fresh_of_launch launched).tasks
  -- The workers are started last of all.
  unfold launch at launched
  cases prepared : (prepare config service state).1 with
  | error fault => simp [prepared, Except.map] at launched
  | ok relay =>
    obtain rfl : (relay.startWorkers config.effectiveWorkerCount).1 = start := by
      simpa [prepared, Except.map] using launched
    -- The workers are all tasks there are, so nobody was there before them.
    have lengths := congrArg List.length tasks
    simp only [startWorkers, List.length_append, List.length_replicate] at lengths ⊢
    rw [Nat.add_eq_right.1 lengths]

/-- No worker breaks down. -/
def Unbroken (actions : List Action) : Prop :=
  ∀ task, .answer task .crashed ∉ actions

/-- Whether an action is that a worker breaks down. -/
def Action.isBreakdown : Action → Bool
  | answer _ .crashed => true
  | _ => false

instance (actions : List Action) : Decidable (Unbroken actions) :=
  decidable_of_iff (∀ action ∈ actions, action.isBreakdown = false) <| by
    constructor
    · exact fun sound task member => by simpa [Action.isBreakdown] using sound _ member
    · intro unbroken action member
      cases action with
      | answer task reply =>
        cases reply with
        | crashed => exact absurd member (unbroken task)
        | _ => rfl
      | _ => rfl

/-- Where no worker breaks down none did so at first. -/
theorem Unbroken.earlier {past : List Action} {action : Action}
    (unbroken : Unbroken (past ++ [action])) : Unbroken past :=
  fun task member => unbroken task (List.mem_append_left _ member)

/-- No worker is lost. -/
def Sound (relay : Relay) : Prop :=
  ∀ task stage, relay.stage? task = some stage → ∀ record, stage ≠ .lost record

/-- All pools of a relay: the one at hand and those that callers have taken. -/
def pools (relay : Relay) : List Pool :=
  relay.pool.toList ++ relay.taken.map Prod.snd

/-- What is known of the workers: who they are, and that none ends before all is drained. -/
structure Staffed (config : Config) (relay : Relay) : Prop where
  workers : ∀ pool ∈ relay.pools, ∀ worker ∈ pool.workers, worker < config.effectiveWorkerCount
  /-- The workers at hand have not been told to stop. -/
  ready : ∀ pool, relay.pool = some pool → pool.stopping = false
  told : ∀ entry ∈ relay.taken, entry.2.stopping = true → Drained relay
  /-- A caller that waits for its workers to end has told them to stop. -/
  joining : ∀ task finishing, relay.stage? task = some (.joining finishing) →
    ∀ entry ∈ relay.taken, entry.1 = task → entry.2.stopping = true
  rested : ∀ task, relay.stage? task = some .rested → Drained relay

section Moves

variable {relay shared : Relay} {task : TaskId} {before after : Stage}

/-- A pool after a change to the pools of one caller was there before, and is changed if it is one
of them. -/
theorem mem_changeTaken {owner : TaskId} {pool : Pool} {change : Pool → Pool}
    (member : (owner, pool) ∈ (relay.changeTaken task change).taken) :
    ∃ earlier, (owner, earlier) ∈ relay.taken ∧
      pool = if owner = task then change earlier else earlier := by
  obtain ⟨⟨_, earlier⟩, there, same⟩ := List.mem_map.1 member
  obtain ⟨rfl, rfl⟩ := Prod.mk.inj same
  exact ⟨earlier, there, rfl⟩

/-- Nobody puts workers at hand that were not. -/
theorem Move.ready (move : Move relay task before after shared) {pool : Pool}
    (ready : shared.pool = some pool) : relay.pool = some pool := by
  cases move with
  | begin => simp [takePool] at ready
  | _ => exact ready

/-- A pool that a caller has taken was taken before, when it had the same workers or more, or it was
the one at hand. -/
theorem Move.handed (move : Move relay task before after shared) {owner : TaskId} {pool : Pool}
    (taken : (owner, pool) ∈ shared.taken) :
    (∃ earlier, (owner, earlier) ∈ relay.taken ∧ pool.workers ⊆ earlier.workers ∧
      (pool.stopping = true ↔ earlier.stopping = true ∨
        owner = task ∧ ∃ finishing, before = .stopping finishing)) ∨
    relay.pool = some pool ∧ owner = task ∧ after = .draining true := by
  -- The workers are taken once, told to stop once, and then seen to end one by one.
  cases move with
  | begin first ready =>
    rcases List.mem_append.1 taken with earlier | new
    · exact .inl ⟨pool, earlier, List.Subset.refl _, by simp⟩
    · obtain ⟨found, member, same⟩ := List.mem_map.1 new
      obtain ⟨rfl, rfl⟩ := Prod.mk.inj same
      exact .inr ⟨by simpa using member, rfl, rfl⟩
  | stop =>
    obtain ⟨earlier, there, rfl⟩ := mem_changeTaken taken
    refine .inl ⟨earlier, there, ?_, ?_⟩ <;> split <;> simp_all
  | @join _ worker =>
    have taken : (owner, pool) ∈ (relay.changeTaken task fun pool =>
      { pool with workers := pool.workers.filter (· != worker) }).taken := taken
    obtain ⟨earlier, there, rfl⟩ := mem_changeTaken taken
    refine .inl ⟨earlier, there, ?_, ?_⟩
    · split
      · -- One worker fewer in the pool of the mover, and no change in any other.
        exact List.filter_sublist.subset
      · exact List.Subset.refl _
    · split <;> simp
  | _ => exact .inl ⟨pool, taken, List.Subset.refl _, by simp⟩

/-- The workers of a pool were in a pool before. -/
theorem Move.members (move : Move relay task before after shared) {pool : Pool}
    (member : pool ∈ shared.pools) : ∃ earlier ∈ relay.pools, pool.workers ⊆ earlier.workers := by
  -- The pool at hand stays as it is, and one that is taken was taken before or has been at hand.
  rcases List.mem_append.1 member with ready | taken
  · have ready := move.ready (Option.mem_toList.1 ready)
    exact ⟨pool, by simp [pools, ready], List.Subset.refl _⟩
  · obtain ⟨⟨owner, found⟩, held, same⟩ := List.mem_map.1 taken
    obtain rfl : found = pool := same
    rcases move.handed held with ⟨earlier, there, fewer, -⟩ | ⟨ready, -, -⟩
    · exact ⟨earlier, List.mem_append_right _ (List.mem_map_of_mem there), fewer⟩
    · exact ⟨found, by simp [pools, ready], List.Subset.refl _⟩

/-- Whoever waits for workers to end has just told them to stop, or waited before. -/
theorem Move.joins (move : Move relay task before after shared) {finishing : Bool}
    (joins : after = .joining finishing) :
    before = .stopping finishing ∨ before = .joining finishing := by
  -- Only the moves that stop the workers and that see one of them end lead there.
  cases move with
  | stop => exact .inl (by simpa using joins)
  | join => exact .inr joins
  | @refuse record errand => cases errand <;> simp [Errand.refused] at joins
  | @place errand => cases errand <;> simp [Errand.placed] at joins
  | @pass finishing => cases finishing <;> simp at joins
  | @joined finishing => cases finishing <;> simp at joins
  | _ => simp at joins

/-- A worker ends when it was told to stop. -/
theorem Move.rests (move : Move relay task before after shared) (ended : after = .rested) :
    ∃ entry ∈ relay.taken, entry.2.stopping = true := by
  -- A worker in line ends only when a pool that it belongs to was told to stop.
  cases move with
  | rest idle told =>
    obtain ⟨entry, member, stopping⟩ := List.any_eq_true.1 told
    exact ⟨entry, member, (Bool.and_eq_true_iff.1 stopping).1⟩
  | @refuse record errand => cases errand <;> simp [Errand.refused] at ended
  | @place errand => cases errand <;> simp [Errand.placed] at ended
  | @pass finishing => cases finishing <;> simp at ended
  | @joined finishing => cases finishing <;> simp at ended
  | _ => simp at ended

/-- A worker is lost only when it breaks down. -/
theorem Move.loses {action : Action} {record : PackageRecord}
    (move : Move relay task before after shared) (at_ : relay.stage? task = some before)
    (acts : action.task? = some task)
    (stepped : relay.step action = some (shared.withStage task after))
    (lost : after = .lost record) : action = .answer task .crashed := by
  cases move with
  | crash =>
    -- The worker waits for a reply, and the journal tells which one it got.
    rcases Action.eq_of_task? acts with rfl | rfl | ⟨order, rfl⟩ | ⟨reply, rfl⟩
    · simp [step, advance, at_] at stepped
    · simp [step, Relay.look, at_] at stepped
    · simp [step, Relay.collect, at_] at stepped
    · cases reply with
      | crashed => rfl
      | _ =>
        -- Any other reply would have left another trace.
        have journal := congrArg (Option.map Relay.journal) stepped
        simp [step, answer, call?, at_, settleCall, Stage.call?, withStage, resolve, report]
          at journal
  | @refuse record errand => cases errand <;> simp [Errand.refused] at lost
  | @place errand => cases errand <;> simp [Errand.placed] at lost
  | @pass finishing => cases finishing <;> simp at lost
  | @joined finishing => cases finishing <;> simp at lost
  | _ => simp at lost

variable {config : Config}

/-- Whatever move is made, no worker ends before all is drained. -/
theorem Staffed.move (staffed : Staffed config relay) (lined : Lined relay)
    (steered : Steered relay) (at_ : relay.stage? task = some before)
    (sincere : before.role ≠ .keeper) (move : Move relay task before after shared) :
    Staffed config (shared.withStage task after) where
  workers pool member worker inside := by
    obtain ⟨earlier, there, fewer⟩ := move.members member
    exact staffed.workers earlier there worker (fewer inside)
  ready pool ready := staffed.ready pool (move.ready ready)
  told entry taken stopping := by
    -- The caller that tells the workers to stop has seen all drained.
    suffices drained : Drained relay from drained.move lined at_ move
    rcases move.handed taken with ⟨earlier, there, -, same⟩ | ⟨ready, -, -⟩
    · rcases same.1 stopping with already | ⟨-, finishing, rfl⟩
      · exact staffed.told _ there already
      · refine steered.past task _ at_ ?_
        -- The one that stops them on its way to finish has come past the barrier.
        cases finishing <;> simp_all [Stage.role, Stage.isPast]
    · simp [staffed.ready _ ready] at stopping
  joining other finishing there entry taken owns := by
    rw [move.stage? at_] at there
    rcases move.handed taken with ⟨earlier, known, -, same⟩ | ⟨-, mover, rfl⟩
    · -- The pool has been told before, unless it is told now.
      refine same.2 ?_
      split at there
      · next mover =>
        rcases move.joins (Option.some.inj there) with telling | rfl
        · exact .inr ⟨owns.trans mover, finishing, telling⟩
        · exact .inl (staffed.joining task finishing at_ _ known (owns.trans mover))
      · exact .inl (staffed.joining other finishing there _ known owns)
    · simp [owns.symm.trans mover] at there
  rested other there := by
    suffices drained : Drained relay from drained.move lined at_ move
    rw [move.stage? at_] at there
    split at there
    · obtain ⟨entry, taken, stopping⟩ := move.rests (Option.some.inj there)
      exact staffed.told entry taken stopping
    · exact staffed.rested other there

end Moves

/-- A caller of a whole relay that has just arrived does not wait for workers to end. -/
theorem ne_joining_stage {demand : Demand} (whole : demand.isWhole = true) (config : Config)
    (finishing : Bool) : demand.stage config ≠ .joining finishing := by
  cases demand with
  | bring source => cases mode : config.multiProject <;> simp [Demand.stage, mode]
  | submit | finish => simp [Demand.stage]
  | waitDrained | stop => simp [Demand.isWhole] at whole

/-- A caller of a whole relay that arrives leaves the workers to themselves. -/
theorem Staffed.arrive {config : Config} {relay : Relay} (staffed : Staffed config relay)
    {demand : Demand} (whole : demand.isWhole = true) : Staffed config (relay.arrive demand).1 := by
  -- The newcomer is no worker and does not wait for one, and the pools are as they were.
  have same := arrive_of_isWhole whole relay
  have pool : (relay.arrive demand).1.pool = relay.pool := by rw [same]
  have taken : (relay.arrive demand).1.taken = relay.taken := by rw [same]
  have joining : ∀ task stage, (relay.arrive demand).1.stage? task = some stage →
      ∀ finishing, stage = .joining finishing → ∀ entry ∈ relay.taken, entry.1 = task →
        entry.2.stopping = true :=
    stages_arrive (fun task stage at_ finishing joins =>
      staffed.joining task finishing (joins ▸ at_)) fun finishing joins =>
        absurd joins (ne_joining_stage whole relay.config finishing)
  have rested : ∀ task stage, (relay.arrive demand).1.stage? task = some stage →
      stage = .rested → Drained relay :=
    stages_arrive (fun task stage at_ ended => staffed.rested task (ended ▸ at_)) fun ended =>
      absurd ended (demand.stage_ne_of_worker relay.config rfl)
  -- In terms of the relay before, each part is what it was.
  refine ⟨?workers, ?ready, ?told, ?joining, ?rested⟩
  case workers => simpa only [pools, pool, taken] using staffed.workers
  case ready => simpa only [pool] using staffed.ready
  case told =>
    exact fun entry member stopping => (staffed.told entry (taken ▸ member) stopping).arrive demand
  case joining =>
    exact fun task finishing at_ entry member =>
      joining task _ at_ finishing rfl entry (taken ▸ member)
  case rested => exact fun task at_ => (rested task _ at_ rfl).arrive demand

section Runs

variable {config : Config} {start relay : Relay} {actions : List Action}

/-- Where no worker breaks down, none is lost that was not before. -/
theorem Sound.run (sound : Sound start) (ran : start.run actions = some relay)
    (unbroken : Unbroken actions) : Sound relay := by
  -- The one move that leads to this stage is that of a worker that breaks down.
  refine run_induction (fun actions relay => Unbroken actions → Sound relay) (fun _ => sound)
    ?arrive ?register ?move ran unbroken
  case arrive =>
    intro past relay demand _ ih unbroken
    exact stages_arrive (ih unbroken.earlier) fun record =>
      demand.stage_ne_of_worker relay.config rfl
  case register =>
    exact fun past relay key session _ ih unbroken => ih unbroken.earlier
  case move =>
    intro past relay action task before after shared _ ih acts at_ move stepped unbroken other
      stage there record lost
    rw [move.stage? at_] at there
    split at there
    · -- The worker would have broken down just now.
      obtain rfl := move.loses at_ acts stepped ((Option.some.inj there).trans lost)
      exact unbroken task (by simp)
    · exact ih unbroken.earlier other stage there record lost

/-- Where no worker breaks down none is lost. -/
theorem ne_lost_of_run (fresh : Fresh config start) (ran : start.run actions = some relay)
    (unbroken : Unbroken actions) {task : TaskId} {record : PackageRecord} :
    relay.stage? task ≠ some (.lost record) := by
  have sound : Sound start := fun task stage at_ record lost => by simp [fresh.seeking at_] at lost
  exact fun at_ => sound.run ran unbroken task _ at_ record rfl

/-- However a whole relay is used, no worker ends before all is drained. -/
theorem staffed_of_run {σ : Type} {service : Service σ} {state : σ}
    (launched : launch config service state = .ok start) (ran : start.run actions = some relay)
    (whole : WholeDemands actions) : Staffed config relay := by
  have fresh := fresh_of_launch launched
  refine run_induction (fun actions relay => WholeDemands actions → Staffed config relay)
    ?initial ?arrive ?register ?move ran whole
  case initial =>
    -- All workers are at hand, and no caller has taken any.
    intro _
    have pool := pool_of_launch launched
    refine ⟨by simp [pools, pool, fresh.taken], by simp [pool], by simp [fresh.taken],
      by simp [fresh.taken], fun task at_ => ?_⟩
    simpa using fresh.seeking at_
  case arrive =>
    -- Whoever comes leaves the pools as they are.
    exact fun past relay demand _ ih whole => (ih whole.earlier).arrive (whole demand (by simp))
  case register =>
    intro past relay key session _ ih whole
    have staffed := ih whole.earlier
    exact ⟨staffed.workers, staffed.ready,
      fun entry taken stopping => (staffed.told entry taken stopping).register key session,
      staffed.joining, fun task at_ => (staffed.rested task at_).register key session⟩
  case move =>
    intro past relay action task before after shared ran ih _ at_ move _ whole
    exact (ih whole.earlier).move (lined_of_run fresh ran)
      (steered_of_run fresh ran whole.earlier) at_ (role_ne_keeper fresh ran whole.earlier at_) move

end Runs

end InsightRelay.Relay
