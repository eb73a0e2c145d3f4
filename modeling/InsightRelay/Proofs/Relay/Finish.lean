import InsightRelay.Proofs.Relay.Desk

/-! Finishing: one caller takes the workers, closes the queue, waits until it is drained, lets the
workers end and completes the sessions, and no other caller is told that all is finished before. -/

namespace InsightRelay

/-- Whether a task is the caller that finishes, from the moment when it has the workers. -/
def Stage.hasBegun : Stage → Bool
  | draining finishing => finishing
  | atBarrier finishing => finishing
  | stopping finishing => finishing
  | joining finishing => finishing
  | collecting => true
  | atDeskToCollect => true
  | closing .. => true
  | completing .. => true
  | _ => false

/-- Whether a task is the caller that finishes and has seen the queue drained. -/
def Stage.isPast : Stage → Bool
  | stopping finishing => finishing
  | joining finishing => finishing
  | collecting => true
  | atDeskToCollect => true
  | closing .. => true
  | completing .. => true
  | _ => false

/-- Whether a task is the caller that finishes and has looked up the open sessions. -/
def Stage.isClosing : Stage → Bool
  | closing .. => true
  | completing .. => true
  | _ => false

/-- Whether a task wanted to finish and has its answer. -/
def Stage.isThrough : Stage → Bool
  | ended ending => ending.role == .finisher
  | _ => false

namespace Relay

/-- How the callers that want to finish stand to the workers, the queue and each other. -/
structure Steered (relay : Relay) : Prop where
  /-- While the workers are at hand nobody has begun to finish. -/
  waiting : relay.pool.isSome = true → relay.taken = [] ∧ ∀ task stage,
    relay.stage? task = some stage → stage.hasBegun = false ∧ stage.isThrough = false
  /-- The workers are in the hands of one that finishes or has finished. -/
  claimed : relay.pool = none → ∃ closer stage, relay.taken.map Prod.fst = [closer] ∧
    relay.stage? closer = some stage ∧ (stage.hasBegun = true ∨ stage.isThrough = true)
  /-- One that finishes has the workers, and all others wait behind it. -/
  begun : ∀ task stage, relay.stage? task = some stage → stage.hasBegun = true →
    stage.role = .finisher ∧ relay.finishers.head? = some task ∧ relay.queue.closed = true ∧
      relay.taken.map Prod.fst = [task]
  past : ∀ task stage, relay.stage? task = some stage → stage.isPast = true → Drained relay
  closing : ∀ task stage, relay.stage? task = some stage → stage.isClosing = true → Quiet relay
  /-- Nobody is told that all is finished before it is. -/
  through : ∀ task stage, relay.stage? task = some stage → stage.isThrough = true →
    Quiet relay ∧ relay.pool = none ∧
      ∀ other stage, relay.stage? other = some stage → stage.hasBegun = false

section Moves

variable {relay shared : Relay} {task : TaskId} {before after : Stage}

/-- Nobody finishes without having begun, and the line is as it was while one does. -/
theorem Move.begun (move : Move relay task before after shared) (begun : after.hasBegun = true) :
    shared.finishers = relay.finishers ∧
      (before.hasBegun = true ∨ relay.pool.isSome = true ∧ shared.pool = none) := by
  -- The way of one that finishes is followed from stage to stage, and all other stages are not on it.
  cases move with
  | begin first ready => exact ⟨rfl, .inr ⟨ready, rfl⟩⟩
  | @refuse record errand => cases errand <;> simp [Errand.refused, Stage.hasBegun] at begun
  | @place errand => cases errand <;> simp [Errand.placed, Stage.hasBegun] at begun
  | @pass finishing queue passed =>
    obtain ⟨-, rfl⟩ := Queue.eq_of_pass? passed
    cases finishing <;> simp [Stage.hasBegun] at begun ⊢
  | @joined finishing => cases finishing <;> simp [Stage.hasBegun] at begun ⊢
  -- These moves are made by other callers too, and their stages tell who makes them on its way to finish.
  | wait | stop | join => exact ⟨rfl, .inl begun⟩
  | gather | collect | complete | completed | incomplete => exact ⟨rfl, .inl rfl⟩
  | _ => simp [Stage.hasBegun] at begun

/-- Only the caller that begins to finish takes the workers. -/
theorem Move.hands (move : Move relay task before after shared) :
    (shared.pool = relay.pool ∧ shared.taken.map Prod.fst = relay.taken.map Prod.fst) ∨
      (before = .inFinishLine ∧ after = .draining true ∧ relay.finishers.head? = some task ∧
        relay.pool.isSome = true ∧
        shared = { relay.takePool task with queue := relay.queue.close }) := by
  -- The workers change hands once, when the first to finish begins.
  cases move with
  | begin first ready => exact .inr ⟨rfl, rfl, first, ready, rfl⟩
  | stop | join => exact .inl ⟨rfl, by simp [changeTaken, Function.comp_def]⟩
  | _ => exact .inl ⟨rfl, rfl⟩

/-- One that finishes goes on until it has its answer. -/
theorem Move.lasting (move : Move relay task before after shared) (begun : before.hasBegun = true)
    (role : before.role = .finisher) : after.hasBegun = true ∨ after.isThrough = true := by
  -- Each stage of one that finishes leads to another one or to the answer.
  cases move with
  | wait | stop | join => exact .inl begun
  | @pass finishing => cases finishing <;> simp [Stage.hasBegun] at begun ⊢
  | @joined finishing => cases finishing <;> simp [Stage.hasBegun] at begun ⊢
  | gather | collect | complete | completed | incomplete => exact .inl rfl
  | finish => exact .inr (by simpa [Stage.isThrough, Stage.role] using role)
  | _ => simp [Stage.hasBegun] at begun

/-- The queue was seen drained by one that finishes. -/
theorem Move.past (move : Move relay task before after shared) (past : after.isPast = true) :
    before.isPast = true ∨ before.hasBegun = true ∧ relay.queue.pending = 0 := by
  -- The barrier is the one place where a caller comes past the drained queue.
  cases move with
  | @refuse record errand => cases errand <;> simp [Errand.refused, Stage.isPast] at past
  | @place errand => cases errand <;> simp [Errand.placed, Stage.isPast] at past
  | @pass finishing queue passed =>
    cases finishing with
    -- One that finishes is let through when nothing is pending.
    | true => exact .inr ⟨rfl, (Queue.eq_of_pass? passed).1⟩
    | false => simp [Stage.isPast] at past
  | @joined finishing => cases finishing <;> simp [Stage.isPast] at past ⊢
  | stop | join => exact .inl past
  | gather | collect | complete | completed | incomplete => exact .inl rfl
  | _ => simp [Stage.isPast] at past

/-- The sessions are completed by one that has looked them up at the desk. -/
theorem Move.closing (move : Move relay task before after shared)
    (closing : after.isClosing = true) :
    before.isClosing = true ∨
      before = .atDeskToCollect ∧ relay.desk.head? = some task := by
  -- The sessions are looked up once, and then each completion leads back to the next one.
  cases move with
  | collect first => exact .inr ⟨rfl, first⟩
  | complete | completed | incomplete => exact .inl rfl
  | @refuse record errand => cases errand <;> simp [Errand.refused, Stage.isClosing] at closing
  | @place errand => cases errand <;> simp [Errand.placed, Stage.isClosing] at closing
  | @pass finishing => cases finishing <;> simp [Stage.isClosing] at closing
  | @joined finishing => cases finishing <;> simp [Stage.isClosing] at closing
  | _ => simp [Stage.isClosing] at closing

/-- One that wanted to finish has its answer after all sessions, or because it came too late. -/
theorem Move.through (move : Move relay task before after shared)
    (through : after.isThrough = true) :
    before.isClosing = true ∨
      before = .inFinishLine ∧ relay.finishers.head? = some task ∧ relay.pool = none := by
  cases move with
  | late first done => exact .inr ⟨rfl, first, done⟩
  | finish => exact .inl rfl
  -- The answers to all others are of other kinds, errors too.
  | @refuse record errand =>
    cases errand <;>
      simp [Errand.refused, Stage.isThrough, Ending.role, RelayError.isCompletion] at through
  | @place errand => cases errand <;> simp [Errand.placed, Stage.isThrough, Ending.role] at through
  | @pass finishing => cases finishing <;> simp [Stage.isThrough, Ending.role] at through
  | @joined finishing => cases finishing <;> simp [Stage.isThrough, Ending.role] at through
  | count => simp [Stage.isThrough, Ending.role] at through
  | _ => simp [Stage.isThrough] at through

/-- The line of those that want to finish grows at its end, and only its first can leave it. -/
theorem Move.finishers (move : Move relay task before after shared) :
    (∃ joining, shared.finishers = relay.finishers ++ joining) ∨
      (before.isClosing = true ∨ relay.finishers.head? = some task) := by
  -- Others queue up behind; whoever leaves the line has got to its head.
  cases move with
  | queueUp => exact .inl ⟨[task], rfl⟩
  | late first => exact .inr (.inr first)
  | finish => exact .inr (.inl rfl)
  | _ => exact .inl ⟨[], (List.append_nil _).symm⟩

/-- An answer is the end of a task. -/
theorem Move.notThrough (move : Move relay task before after shared) : before.isThrough = false := by
  cases move <;> rfl

end Moves

/-- Whoever has looked up the sessions has seen the queue drained. -/
theorem isPast_of_isClosing {stage : Stage} (closing : stage.isClosing = true) :
    stage.isPast = true := by
  cases stage <;> simp_all [Stage.isClosing, Stage.isPast]

/-- Whoever has seen the queue drained has begun to finish. -/
theorem hasBegun_of_isPast {stage : Stage} (past : stage.isPast = true) :
    stage.hasBegun = true := by
  cases stage <;> simp_all [Stage.hasBegun, Stage.isPast]

/-- A caller of a whole relay that has just arrived has not begun to finish. -/
theorem idle_stage {demand : Demand} (whole : demand.isWhole = true) (config : Config) :
    (demand.stage config).hasBegun = false ∧ (demand.stage config).isPast = false ∧
      (demand.stage config).isClosing = false ∧ (demand.stage config).isThrough = false := by
  -- All of them start at the front of their ways.
  cases demand with
  | bring source =>
    simp only [Demand.stage]
    split <;> exact ⟨rfl, rfl, rfl, rfl⟩
  | submit | finish => exact ⟨rfl, rfl, rfl, rfl⟩
  | waitDrained | stop => simp [Demand.isWhole] at whole

namespace Steered

variable {relay shared : Relay} {task : TaskId} {before after : Stage}

/-- While one finishes the workers are not at hand. -/
theorem pool_eq_none (steered : Steered relay) (at_ : relay.stage? task = some before)
    (begun : before.hasBegun = true ∨ before.isThrough = true) : relay.pool = none := by
  cases pool : relay.pool with
  | none => rfl
  | some workers =>
    -- With the workers at hand nobody would have begun.
    have idle := (steered.waiting (by simp [pool])).2 task before at_
    simp [idle] at begun

/-- Only one caller finishes. -/
theorem unique (steered : Steered relay) {other : TaskId} {stage : Stage}
    (at_ : relay.stage? task = some before) (begun : before.hasBegun = true)
    (there : relay.stage? other = some stage) (too : stage.hasBegun = true) : other = task := by
  -- Both are at the front of the one line.
  have first := (steered.begun task before at_ begun).2.1
  have second := (steered.begun other stage there too).2.1
  exact Option.some.inj (second.symm.trans first)

/-- Whoever was behind in the line and comes to its front finds that all is over. -/
theorem quiet_of_late (steered : Steered relay) (at_ : relay.stage? task = some .inFinishLine)
    (first : relay.finishers.head? = some task) (done : relay.pool = none) : Quiet relay := by
  -- Somebody has the workers, and it is either still at work or through.
  obtain ⟨closer, stage, -, there, begun | through⟩ := steered.claimed done
  · -- The one that finishes would be at the front of the line itself.
    have front := (steered.begun closer stage there begun).2.1
    obtain rfl : closer = task := Option.some.inj (front.symm.trans first)
    obtain rfl : stage = .inFinishLine := Option.some.inj (there.symm.trans at_)
    simp [Stage.hasBegun] at begun
  · exact (steered.through closer stage there through).1

/-- When the front of the line at the desk looks up the sessions, nobody is at work at the desk. -/
theorem quiet_of_collect (steered : Steered relay) (attended : Attended relay)
    (at_ : relay.stage? task = some .atDeskToCollect) (first : relay.desk.head? = some task) :
    Quiet relay := by
  refine ⟨steered.past task _ at_ rfl, fun other stage there => ?_⟩
  refine Bool.eq_false_iff.2 fun busy => ?_
  -- One at work at the desk would be at its front, where the caller is that looks the sessions up.
  have front := attended other stage there busy
  obtain rfl : other = task := Option.some.inj (front.symm.trans first)
  obtain rfl : stage = .atDeskToCollect := Option.some.inj (there.symm.trans at_)
  simp [Stage.isBusy] at busy

private theorem waiting_move (steered : Steered relay) (at_ : relay.stage? task = some before)
    (move : Move relay task before after shared)
    (ready : (shared.withStage task after).pool.isSome = true) :
    (shared.withStage task after).taken = [] ∧ ∀ other stage,
      (shared.withStage task after).stage? other = some stage →
        stage.hasBegun = false ∧ stage.isThrough = false := by
  rcases move.hands with ⟨pool, taken⟩ | ⟨-, -, -, -, rfl⟩
  · -- The workers were at hand before, so nobody had begun, and to begin takes them away.
    have ready : relay.pool.isSome = true := pool ▸ ready
    obtain ⟨empty, idle⟩ := steered.waiting ready
    refine ⟨by simpa [empty, withStage] using taken, fun other stage there => ?_⟩
    rw [move.stage? at_] at there
    split at there
    · obtain rfl : after = stage := Option.some.inj there
      refine ⟨Bool.eq_false_iff.2 fun begun => ?_, Bool.eq_false_iff.2 fun through => ?_⟩
      · rcases (move.begun begun).2 with earlier | ⟨-, done⟩
        · simp [(idle task before at_).1] at earlier
        · simp [pool ▸ done] at ready
      · rcases move.through through with closing | ⟨-, -, done⟩
        · have begun := hasBegun_of_isPast (isPast_of_isClosing closing)
          simp [(idle task before at_).1] at begun
        · simp [done] at ready
    · exact idle other stage there
  · -- Whoever began has taken the workers away.
    simp [withStage, takePool] at ready

private theorem claimed_move (steered : Steered relay) (at_ : relay.stage? task = some before)
    (move : Move relay task before after shared)
    (done : (shared.withStage task after).pool = none) :
    ∃ closer stage, (shared.withStage task after).taken.map Prod.fst = [closer] ∧
      (shared.withStage task after).stage? closer = some stage ∧
        (stage.hasBegun = true ∨ stage.isThrough = true) := by
  rcases move.hands with ⟨pool, taken⟩ | ⟨-, rfl, -, ready, rfl⟩
  · obtain ⟨closer, stage, owner, there, busy⟩ := steered.claimed (pool ▸ done)
    by_cases same : closer = task
    · -- The one that finishes has moved itself, and it goes on or is through.
      obtain rfl : stage = before := by simpa [same, at_] using there.symm
      have begun : stage.hasBegun = true := by simpa [move.notThrough] using busy
      refine ⟨closer, after, taken.trans owner, by rw [move.stage? at_, if_pos same], ?_⟩
      exact move.lasting begun (steered.begun task stage at_ begun).1
    · exact ⟨closer, stage, taken.trans owner, by rw [move.stage? at_, if_neg same, there], busy⟩
  · -- The mover has just taken the workers.
    obtain ⟨workers, pool⟩ := Option.isSome_iff_exists.1 ready
    have empty := (steered.waiting ready).1
    refine ⟨task, .draining true, ?_, by rw [move.stage? at_, if_pos rfl], .inl rfl⟩
    simp [withStage, takePool, pool, empty]

private theorem begun_move (steered : Steered relay) (at_ : relay.stage? task = some before)
    (move : Move relay task before after shared) {other : TaskId} {stage : Stage}
    (there : (shared.withStage task after).stage? other = some stage)
    (begun : stage.hasBegun = true) :
    stage.role = .finisher ∧ shared.finishers.head? = some other ∧ shared.queue.closed = true ∧
      shared.taken.map Prod.fst = [other] := by
  rw [move.stage? at_] at there
  rcases move.hands with ⟨pool, taken⟩ | ⟨rfl, rfl, first, ready, rfl⟩
  · split at there
    · next same =>
      obtain rfl : after = stage := Option.some.inj there
      obtain ⟨line, earlier | ⟨ready, done⟩⟩ := move.begun begun
      · -- The mover had begun before, and what is known of it stays.
        obtain ⟨role, front, closed, owner⟩ := steered.begun task before at_ earlier
        exact same ▸ ⟨move.role.trans role, line ▸ front, move.closed closed, taken.trans owner⟩
      · simp [← pool, done] at ready
    · next differ =>
      -- Another one finishes, and the mover cannot push it from the front of the line.
      obtain ⟨role, front, closed, owner⟩ := steered.begun other stage there begun
      refine ⟨role, ?_, move.closed closed, taken.trans owner⟩
      rcases move.finishers with ⟨joining, line⟩ | closing | mover
      · simp [line, List.head?_append, front]
      · have begun := hasBegun_of_isPast (isPast_of_isClosing closing)
        have mover := (steered.begun task before at_ begun).2.1
        exact absurd (Option.some.inj (front.symm.trans mover)) differ
      · exact absurd (Option.some.inj (front.symm.trans mover)) differ
  · -- The workers were at hand, so the mover is the only one that has begun.
    obtain ⟨workers, pool⟩ := Option.isSome_iff_exists.1 ready
    obtain ⟨empty, idle⟩ := steered.waiting ready
    split at there
    · next same =>
      obtain rfl : Stage.draining true = stage := Option.some.inj there
      exact ⟨rfl, same ▸ first, rfl, by simp [takePool, pool, empty, same]⟩
    · simp [(idle other stage there).1] at begun

private theorem through_move (steered : Steered relay) (lined : Lined relay)
    (at_ : relay.stage? task = some before) (move : Move relay task before after shared)
    {other : TaskId} {stage : Stage}
    (there : (shared.withStage task after).stage? other = some stage)
    (through : stage.isThrough = true) :
    Quiet (shared.withStage task after) ∧ (shared.withStage task after).pool = none ∧
      ∀ third stage, (shared.withStage task after).stage? third = some stage →
        stage.hasBegun = false := by
  rw [move.stage? at_] at there
  -- At first nobody has begun to finish, apart from one that is just through with it.
  obtain ⟨quiet, done, others⟩ : Quiet relay ∧ relay.pool = none ∧ ∀ third stage,
      third ≠ task → relay.stage? third = some stage → stage.hasBegun = false := by
    split at there
    · obtain rfl : after = stage := Option.some.inj there
      rcases move.through through with closing | ⟨rfl, first, done⟩
      · -- It has completed all sessions itself, and nobody else can have begun.
        have begun := hasBegun_of_isPast (isPast_of_isClosing closing)
        refine ⟨steered.closing task before at_ closing, steered.pool_eq_none at_ (.inl begun), ?_⟩
        exact fun third stage differ there => Bool.eq_false_iff.2 fun too =>
          differ (steered.unique at_ begun there too)
      · -- It came too late, and what it finds tells that all is quiet.
        have quiet := steered.quiet_of_late at_ first done
        refine ⟨quiet, done, fun third stage differ there => Bool.eq_false_iff.2 fun too => ?_⟩
        have front := (steered.begun third stage there too).2.1
        exact differ (Option.some.inj (front.symm.trans first))
    · obtain ⟨quiet, done, others⟩ := steered.through other stage there through
      exact ⟨quiet, done, fun third stage _ => others third stage⟩
  -- The mover does not begin now either, as the workers are gone.
  have idle : after.hasBegun = false := by
    refine Bool.eq_false_iff.2 fun begun => ?_
    rcases (move.begun begun).2 with earlier | ⟨ready, -⟩
    · split at there
      · obtain rfl : after = stage := Option.some.inj there
        cases after <;> simp_all [Stage.hasBegun, Stage.isThrough]
      · simp [(steered.through other stage there through).2.2 task before at_] at earlier
    · simp [done] at ready
  refine ⟨quiet.move lined at_ move, ?_, fun third stage here => ?_⟩
  · rcases move.hands with ⟨pool, -⟩ | ⟨-, -, -, ready, -⟩
    · exact pool.trans done
    · simp [done] at ready
  · rw [move.stage? at_] at here
    split at here
    · obtain rfl : after = stage := Option.some.inj here
      exact idle
    · next differ => exact others third stage differ here

/-- Whatever move is made, the callers that want to finish keep to their order. -/
theorem move (steered : Steered relay) (lined : Lined relay) (attended : Attended relay)
    (at_ : relay.stage? task = some before) (move : Move relay task before after shared) :
    Steered (shared.withStage task after) where
  waiting := steered.waiting_move at_ move
  claimed := steered.claimed_move at_ move
  begun other stage there begun := steered.begun_move at_ move there begun
  past other stage there past := by
    -- What was drained stays so, and a caller comes past the barrier only where nothing is pending.
    suffices drained : Drained relay from drained.move lined at_ move
    rw [move.stage? at_] at there
    split at there
    · obtain rfl : after = stage := Option.some.inj there
      rcases move.past past with earlier | ⟨begun, pending⟩
      · exact steered.past task before at_ earlier
      · exact ⟨(steered.begun task before at_ begun).2.2.1, pending⟩
    · exact steered.past other stage there past
  closing other stage there closing := by
    -- Whoever looks up the sessions has its turn at the desk, so nobody is opening one.
    suffices quiet : Quiet relay from quiet.move lined at_ move
    rw [move.stage? at_] at there
    split at there
    · obtain rfl : after = stage := Option.some.inj there
      rcases move.closing closing with earlier | ⟨rfl, first⟩
      · exact steered.closing task before at_ earlier
      · exact steered.quiet_of_collect attended at_ first
    · exact steered.closing other stage there closing
  through other stage there through := steered.through_move lined at_ move there through

/-- A caller of a whole relay that arrives waits like all that came before it. -/
theorem arrive (steered : Steered relay) {demand : Demand} (whole : demand.isWhole = true) :
    Steered (relay.arrive demand).1 := by
  -- The newcomer has not begun, so each claim is about those that were there before.
  obtain ⟨notBegun, notPast, notClosing, notThrough⟩ := idle_stage whole relay.config
  have same := arrive_of_isWhole whole relay
  constructor
  · intro ready
    rw [same] at ready ⊢
    obtain ⟨empty, idle⟩ := steered.waiting ready
    exact ⟨empty, same ▸ stages_arrive idle ⟨notBegun, notThrough⟩⟩
  · intro done
    rw [same] at done ⊢
    -- The one that took the workers is still where it was.
    obtain ⟨closer, stage, owner, there, busy⟩ := steered.claimed done
    have inside := (List.getElem?_eq_some_iff.1 there).1
    exact ⟨closer, stage, owner, (List.getElem?_append_left inside).trans there, busy⟩
  · refine stages_arrive (fun task stage at_ begun => ?_) fun begun => by simp [notBegun] at begun
    rw [same]
    exact steered.begun task stage at_ begun
  · refine stages_arrive (fun task stage at_ past => ?_) fun past => by simp [notPast] at past
    exact (steered.past task stage at_ past).arrive demand
  · refine stages_arrive (fun task stage at_ closing => ?_) fun closing => by
      simp [notClosing] at closing
    exact (steered.closing task stage at_ closing).arrive demand
  · refine stages_arrive (fun task stage at_ through => ?_) fun through => by
      simp [notThrough] at through
    obtain ⟨quiet, done, idle⟩ := steered.through task stage at_ through
    exact ⟨quiet.arrive demand, by rw [same]; exact done, stages_arrive idle notBegun⟩

end Steered

section Runs

variable {config : Config} {start relay : Relay} {actions : List Action}

/-- However a whole relay is used, the callers that want to finish keep to their order. -/
theorem steered_of_run (fresh : Fresh config start) (ran : start.run actions = some relay)
    (whole : WholeDemands actions) : Steered relay := by
  -- In a fresh relay all tasks look for records and the workers are at hand.
  refine run_induction (fun actions relay => WholeDemands actions → Steered relay)
    ?initial ?arrive ?register ?move ran whole
  case initial =>
    intro _
    constructor
    · refine fun _ => ⟨fresh.taken, fun task stage at_ => ?_⟩
      obtain rfl := fresh.seeking at_
      exact ⟨rfl, rfl⟩
    · intro done
      simpa [done] using fresh.pool
    all_goals
      intro task stage at_ claim
      obtain rfl := fresh.seeking at_
      simp [Stage.hasBegun, Stage.isPast, Stage.isClosing, Stage.isThrough] at claim
  case arrive =>
    intro past relay demand _ ih whole
    exact (ih whole.earlier).arrive (whole demand (by simp))
  case register =>
    -- A session that is registered from outside touches neither workers nor lines.
    intro past relay key session _ ih whole
    have steered := ih whole.earlier
    exact ⟨steered.waiting, steered.claimed, steered.begun,
      fun task stage at_ past => (steered.past task stage at_ past).register key session,
      fun task stage at_ closing => (steered.closing task stage at_ closing).register key session,
      fun task stage at_ through => (steered.through task stage at_ through).imp_left
        fun quiet => quiet.register key session⟩
  case move =>
    intro past relay action task before after shared ran ih _ at_ move _ whole
    have steered := ih whole.earlier
    exact steered.move (lined_of_run fresh ran) (attended_of_run fresh ran) at_ move

end Runs

end Relay

end InsightRelay
