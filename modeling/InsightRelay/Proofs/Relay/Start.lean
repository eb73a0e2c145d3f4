import InsightRelay.Proofs.Relay.Sessions
import InsightRelay.Proofs.Relay.Staff

/-! Starts: a configuration without faults starts a relay, or it is refused and nothing is left open. -/

namespace InsightRelay

namespace Relay

/-- Nobody arrives, and no session comes from elsewhere. -/
def Undisturbed (actions : List Action) : Prop :=
  ∀ action ∈ actions, action.task?.isSome = true

/-- Two lists of actions without arrivals make another one. -/
theorem Undisturbed.append {past more : List Action} (before : Undisturbed past)
    (after : Undisturbed more) : Undisturbed (past ++ more) :=
  fun action member => (List.mem_append.1 member).elim (before action) (after action)

/-- Where nobody arrives there are no demands. -/
theorem Undisturbed.demands {actions : List Action} (undisturbed : Undisturbed actions) :
    actions.filterMap Action.demand? = [] :=
  List.filterMap_eq_nil_iff.2 fun action member => by
    obtain ⟨task, acts⟩ := Option.isSome_iff_exists.1 (undisturbed action member)
    exact demand?_of_task? acts

end Relay

namespace Workshop

open Relay

variable {σ : Type}

/-- A turn is a step of the relay, or it leaves the relay as it is. -/
theorem exists_run_of_turn (workshop : Workshop σ) :
    ∃ actions, Undisturbed actions ∧ workshop.relay.run actions = some workshop.turn.relay := by
  have single (action : Action) {next : Relay} (acts : action.task?.isSome = true)
      (stepped : workshop.relay.step action = some next) :
      ∃ actions, Undisturbed actions ∧ workshop.relay.run actions = some next :=
    ⟨[action], fun other member => by rwa [List.mem_singleton.1 member], by simp [run, stepped]⟩
  have still : ∃ actions, Undisturbed actions ∧
      workshop.relay.run actions = some workshop.relay :=
    ⟨[], fun _ member => absurd member List.not_mem_nil, rfl⟩
  -- The running task takes a step, or it gets a reply, or it only stops running.
  unfold turn
  split
  · exact still
  · -- The first of those that run gets the turn.
    next task rest _ =>
    split
    · next next told advanced => exact single (.advance task) rfl (by simp [step, advanced])
    · split
      · exact still
      · next call _ =>
        split
        · split
          next reply state _ =>
            dsimp only
            split
            · next next told answered =>
              exact single (.answer task reply) rfl (by simp [step, answered])
            · exact still
        · exact still

/-- Turns are a run of the relay in which nobody arrives. -/
theorem exists_run_of_turns (workshop : Workshop σ) (count : Nat) :
    ∃ actions, Undisturbed actions ∧
      workshop.relay.run actions = some (workshop.turns count).relay := by
  -- Turn by turn, up to the first one that finds nothing to do.
  induction count generalizing workshop with
  | zero => exact ⟨[], fun _ member => absurd member List.not_mem_nil, rfl⟩
  | succ count ih =>
    unfold turns
    split
    · exact ⟨[], fun _ member => absurd member List.not_mem_nil, rfl⟩
    · obtain ⟨first, alone, began⟩ := exists_run_of_turn workshop
      obtain ⟨rest, others, ran⟩ := ih workshop.turn
      exact ⟨first ++ rest, alone.append others, by rw [run_append began, ran]⟩

/-- Workers start and settle down in a run in which nobody arrives. -/
theorem exists_run_of_startWorkers (workshop : Workshop σ) (count : Nat) :
    ∃ actions, Undisturbed actions ∧ (workshop.relay.startWorkers count).1.run actions =
      some (workshop.startWorkers count).relay := by
  unfold Workshop.startWorkers settle
  -- The workers are added first, and then turns are all that happens.
  rcases workshop.relay.startWorkers count with ⟨relay, workers⟩
  exact exists_run_of_turns ⟨relay, _, _, _, _⟩ _

end Workshop

namespace Relay

section Starting

variable {σ : Type} {config : Config} {service : Service σ} {state : σ}

/-- A relay is furnished for every capacity that a queue can have, with the session that is given. -/
theorem furnish_of_fits (positive : 0 < config.queueCapacity)
    (fits : config.queueCapacity ≤ Queue.greatestCapacity) (session : Option String)
    (journal : List Exchange) :
    ∃ relay, furnish config session journal = .ok relay ∧ relay.pool = none ∧
      relay.sessions = session.toList := by
  -- The capacity is one that a queue can have, so nothing fails.
  have created : Queue.create? config.queueCapacity =
      some (Queue.empty config.queueCapacity : Queue PackageRecord) :=
    Queue.create?_eq_some_iff.2 ⟨⟨positive, fits⟩, rfl⟩
  unfold furnish
  rw [created]
  cases session with
  | none => exact ⟨_, rfl, rfl, rfl⟩
  | some session => exact ⟨_, rfl, rfl, rfl⟩

/-- A valid configuration is prepared with the sessions that were opened for it, or it is refused and
none was opened. -/
theorem prepare_cases (valid : config.validate = .ok config)
    (fits : config.queueCapacity ≤ Queue.greatestCapacity)
    (sound : ∀ request, (service.reply state (.create request)).1 ≠ .crashed) :
    (∃ relay, (prepare config service state).1 = .ok relay ∧ relay.pool = none ∧
      relay.sessions = (prepare config service state).2.1.filterMap Exchange.opened?) ∨
    ∃ problem, (prepare config service state).1 = .error (.refused problem) ∧
      (prepare config service state).2.1.filterMap Exchange.opened? = [] := by
  have positive := capacity_of_validate valid
  unfold prepare
  rw [valid]
  cases multi : config.multiProject with
  | true =>
    -- Manifests will bring their own sessions, so no call is made.
    obtain ⟨relay, furnished, pool, sessions⟩ := furnish_of_fits positive fits none []
    exact .inl ⟨relay, by simpa [multi] using furnished, pool, by simpa [multi] using sessions⟩
  | false =>
    -- One session for the whole project is asked for before anything is made.
    cases written : config.sessionRequest config.projectName with
    | error problem => exact .inr ⟨problem, by simp [multi, written]⟩
    | ok request =>
      rcases answered : service.reply state (.create request) with ⟨reply, later⟩
      cases reply with
      | granted session =>
        obtain ⟨relay, furnished, pool, sessions⟩ := furnish_of_fits positive fits (some session)
          [⟨none, .create request, .granted session⟩]
        exact .inl ⟨relay, by simpa [multi, written, answered] using furnished, pool, by
          simpa [multi, written, answered, Exchange.opened?] using sessions⟩
      | refused problem =>
        -- The one call that was made has opened nothing.
        exact .inr ⟨.sessionCreationFailed config.projectName problem,
          by simp [multi, written, answered, Exchange.opened?]⟩
      | crashed => exact absurd (congrArg Prod.fst answered) (sound request)

/-- A relay starts when it is prepared and its workers begin. -/
theorem start_eq : (start config service state).1 = (prepare config service state).1.map fun relay =>
    Workshop.startWorkers ⟨relay, service, (prepare config service state).2.2, Gate.allOpen, []⟩
      config.effectiveWorkerCount := rfl

/-- A workshop that has started is at a relay that was launched, after a run in which nobody arrived. -/
theorem exists_run_of_start {workshop : Workshop σ}
    (started : (start config service state).1 = .ok workshop) :
    ∃ relay actions, launch config service state = .ok relay ∧ Undisturbed actions ∧
      relay.run actions = some workshop.relay := by
  -- What is prepared is launched, and then its workers get their turns.
  rw [start_eq] at started
  unfold launch
  cases prepared : (prepare config service state).1 with
  | error fault => simp [prepared, Except.map] at started
  | ok relay =>
    simp only [prepared, Except.map, Except.ok.injEq] at started
    -- The start of the workers is a row of turns.
    subst started
    obtain ⟨actions, alone, ran⟩ := Workshop.exists_run_of_startWorkers
      ⟨relay, service, (prepare config service state).2.2, Gate.allOpen, []⟩
      config.effectiveWorkerCount
    exact ⟨_, actions, rfl, alone, ran⟩

end Starting

section Idling

variable {config : Config} {start relay : Relay} {actions : List Action}

/-- Where nobody arrives all tasks are workers. -/
theorem role_of_undisturbed (fresh : Fresh config start) (ran : start.run actions = some relay)
    (undisturbed : Undisturbed actions) {task : TaskId} {stage : Stage}
    (at_ : relay.stage? task = some stage) : stage.role = .worker := by
  rcases caller_of_stage fresh ran at_ with ⟨-, worker⟩ | ⟨demand, arrived, -⟩
  · exact worker
  · have brought := demand_of_callers arrived
    simp [undisturbed.demands] at brought

/-- While nobody arrives, the sessions and the pool stay as they were, and the queue stays open. -/
theorem idle_of_undisturbed (fresh : Fresh config start) (ran : start.run actions = some relay)
    (undisturbed : Undisturbed actions) :
    relay.registry = start.registry ∧ relay.opened = start.opened ∧ relay.pool = start.pool ∧
      relay.queue.closed = false := by
  refine run_induction (fun actions relay => Undisturbed actions →
    relay.registry = start.registry ∧ relay.opened = start.opened ∧ relay.pool = start.pool ∧
      relay.queue.closed = false) ?initial ?arrive ?register ?move ran undisturbed
  case initial => exact fun _ => ⟨rfl, rfl, rfl, by simp [fresh.queue, Queue.empty]⟩
  case arrive =>
    exact fun past relay demand _ _ alone => by simpa [Action.task?] using alone (.arrive demand)
  case register =>
    exact fun past relay key session _ _ alone => by
      simpa [Action.task?] using alone (.register key session)
  case move =>
    intro past relay action task before after shared began ih _ at_ move _ alone
    -- All tasks are workers as long as nobody comes.
    have earlier : Undisturbed past := fun other member => alone other (List.mem_append_left _ member)
    obtain ⟨registry, opened, pool, open_⟩ := ih earlier
    -- A worker registers no session, does not finish, and leaves the lock of the queue alone.
    have worker := role_of_undisturbed fresh began earlier at_
    have kept : shared.registry = relay.registry ∧ shared.opened = relay.opened := by
      rcases move.registers with same | ⟨source, request, session, rfl, -⟩
      · exact same
      · simp [Stage.role] at worker
    have staffed : shared.pool = relay.pool := by
      rcases move.hands with ⟨same, -⟩ | ⟨rfl, -⟩
      · exact same
      · simp [Stage.role] at worker
    have unlocked : shared.queue.closed = relay.queue.closed := by
      rcases move.lock with same | ⟨finisher, -⟩
      · exact same
      · simp [worker] at finisher
    exact ⟨kept.1.trans registry, kept.2.trans opened, staffed.trans pool, unlocked.trans open_⟩

end Idling

/-- A relay is at work for a configuration, and it has every session that was opened for it. -/
structure AtWork {σ : Type} (config : Config) (journal : List Exchange) (workshop : Workshop σ) :
    Prop where
  config_eq : workshop.relay.config = config
  open_ : workshop.relay.queue.closed = false
  /-- All its workers are at hand, and none has been told to stop. -/
  staffed : workshop.relay.pool = some ⟨config.effectiveWorkerCount,
    List.range' 0 config.effectiveWorkerCount, false⟩
  manned : 0 < config.effectiveWorkerCount
  /-- Whatever was opened is registered, and so it will be completed by the one that finishes. -/
  owned : workshop.relay.sessions = journal.filterMap Exchange.opened?

/-- Every configuration without faults whose queue can be made starts a relay that owns all sessions
that were opened, or it is refused and none was opened, whatever the service replies. -/
theorem valid_config_starts {σ : Type} {config : Config} {service : Service σ} {state : σ}
    (valid : config.validate = .ok config)
    (sound : ∀ request, (service.reply state (.create request)).1 ≠ .crashed)
    (fits : config.queueCapacity ≤ Queue.greatestCapacity) :
    (∃ workshop, (start config service state).1 = .ok workshop ∧
      AtWork config (start config service state).2.1 workshop) ∨
    ∃ problem, (start config service state).1 = .error (.refused problem) ∧
      (start config service state).2.1.filterMap Exchange.opened? = [] := by
  -- Only the preparation asks the service, and the workers that begin after it open nothing.
  have journal : (start config service state).2.1 = (prepare config service state).2.1 := rfl
  rw [journal]
  rcases prepare_cases valid fits sound with
    ⟨relay, prepared, idle, sessions⟩ | ⟨problem, refused, none_⟩
  · obtain ⟨workshop, started⟩ : ∃ workshop, (start config service state).1 = .ok workshop :=
      ⟨_, by rw [start_eq, prepared]; rfl⟩
    obtain ⟨begun, actions, launched, alone, ran⟩ := exists_run_of_start started
    obtain ⟨registry, -, pool, open_⟩ := idle_of_undisturbed (fresh_of_launch launched) ran alone
    refine .inl ⟨workshop, started, ?_, open_, ?_, effectiveWorkerCount_pos config, ?_⟩
    · rw [config_of_run ran, (fresh_of_launch launched).config_eq]
    · rw [pool, pool_of_launch launched]
    · -- Workers begin without a change to what is registered.
      obtain rfl : (relay.startWorkers config.effectiveWorkerCount).1 = begun := by
        simpa [launch, prepared, Except.map] using launched
      rw [← sessions, Relay.sessions, registry]
      simp [startWorkers, idle, Relay.sessions]
  · exact .inr ⟨problem, by rw [start_eq, refused]; rfl, none_⟩

/-- A configuration to rehearse with: one session for all manifests, and some capacity. -/
def sharedConfig (capacity : Nat) : Config :=
  { rehearsalConfig with multiProject := false, queueCapacity := capacity }

/-- A configuration with the greatest capacity starts a relay, which has the session that was opened. -/
theorem valid_config_starts_at_greatest_capacity :
    ∃ workshop : Workshop Nat,
      (start (sharedConfig Queue.greatestCapacity) Script.smooth.service 0).1 = .ok workshop ∧
      AtWork (sharedConfig Queue.greatestCapacity)
        (start (sharedConfig Queue.greatestCapacity) Script.smooth.service 0).2.1 workshop ∧
      workshop.relay.sessions = ["session-1"] := by
  -- The service never breaks down and never refuses, so only the first of the two outcomes remains.
  have valid : (sharedConfig Queue.greatestCapacity).validate =
      .ok (sharedConfig Queue.greatestCapacity) := rfl
  have sound (request : Message.CreateToolSessionRequest) :
      (Script.smooth.service.reply 0 (.create request)).1 ≠ .crashed := nofun
  rcases valid_config_starts valid sound (Nat.le_refl _) with
    ⟨workshop, started, working⟩ | ⟨problem, refused, -⟩
  · exact ⟨workshop, started, working, working.owned⟩
  · exact nomatch refused

/-- A configuration without faults whose queue cannot be made does not start, and the session that was
opened for it is left behind. -/
theorem valid_config_leaves_session_open :
    (sharedConfig (Queue.greatestCapacity + 1)).validate =
        .ok (sharedConfig (Queue.greatestCapacity + 1)) ∧
      (start (sharedConfig (Queue.greatestCapacity + 1)) Script.smooth.service 0).1.map (fun _ => ()) =
        .error .capacity ∧
      (start (sharedConfig (Queue.greatestCapacity + 1)) Script.smooth.service 0).2.1.filterMap
        Exchange.opened? = ["session-1"] :=
  ⟨rfl, rfl, rfl⟩

end Relay

end InsightRelay
