import InsightRelay.Proofs.Relay.Ownership
import InsightRelay.Proofs.Relay.Start

/-! Visits to the session desk: whoever finds the queue open and no session there asks for one, and
whoever asks for a session has a request to ask with. -/

namespace InsightRelay

/-- What a caller finds at the session desk. -/
inductive Finding
  /-- The queue takes no more records. -/
  | closed
  /-- The queue is open, and there is a session for the path. -/
  | served
  /-- The queue is open, and there is no session for the path. -/
  | missing
deriving DecidableEq, Repr

/-- What one caller finds for its source. -/
structure Visit where
  caller : TaskId
  source : Source
  finding : Finding

/-- Whether a session is missing. -/
def Visit.isMissing (visit : Visit) : Bool :=
  visit.finding == .missing

/-- The source for which a caller at a stage has still to look at the session desk. -/
def Stage.looking : Stage → List Source
  | arriving source => [source]
  | atDesk source => [source]
  | checking source => [source]
  | _ => []

/-- A request for a session says what a configuration says, and the project it is for. -/
structure Config.Requests (config : Config) (project : String)
    (request : Message.CreateToolSessionRequest) : Prop where
  tool : request.toolName = config.toolName ∧ request.toolVersion = config.toolVersion
  project : request.projectName = project ∧ request.projectVersion = some config.projectVersion
  trigger : ∃ trigger, config.toolTrigger = .ok trigger ∧ request.trigger = some trigger.code
  /-- A revision is named if and only if the configuration names some part of one. -/
  revision : request.gitRef.isSome = true ↔ config.gitRef.isSome = true ∨
    config.gitRefName.isSome = true ∨ config.gitRefType.isSome = true ∨ config.gitSha.isSome = true
  parts : ∀ revision ∈ request.gitRef, revision =
    ⟨config.gitRef, config.gitRefName, config.gitRefType, config.gitSha⟩

namespace Config

variable {config : Config} {project : String} {request : Message.CreateToolSessionRequest}

/-- A revision is found where some part of one is named. -/
theorem isSome_revision? : config.revision?.isSome = true ↔ config.gitRef.isSome = true ∨
    config.gitRefName.isSome = true ∨ config.gitRefType.isSome = true ∨
      config.gitSha.isSome = true := by
  -- The definition asks for each of the four parts in turn.
  unfold revision?
  extract_lets given
  have named : given = true ↔ config.gitRef.isSome = true ∨ config.gitRefName.isSome = true ∨
      config.gitRefType.isSome = true ∨ config.gitSha.isSome = true := by
    simp only [given, Bool.or_eq_true, or_assoc]
  rw [← named]
  cases given <;> simp

/-- Whatever request is written says what the configuration says. -/
theorem requests_of_sessionRequest (written : config.sessionRequest project = .ok request) :
    config.Requests project request := by
  -- A request is written only with a trigger that has a name; its parts are read off the definition.
  cases named : config.toolTrigger with
  | error fault => simp [sessionRequest, named, Except.mapError, bind, Except.bind] at written
  | ok trigger =>
    simp only [sessionRequest, named, Except.mapError, bind, Except.bind, pure, Except.pure,
      Except.ok.injEq] at written
    subst written
    refine ⟨⟨rfl, rfl⟩, ⟨rfl, rfl⟩, ⟨trigger, named, rfl⟩, isSome_revision?, ?_⟩
    intro revision found
    -- A revision that is sent is the one that is set.
    unfold revision? at found
    simp only [Option.mem_def, Option.ite_some_none_eq_some] at found
    exact found.2.symm

end Config

namespace Relay

/-- A caller whose turn it is looks whether the queue is open, and then for a session. -/
def seeVisit (relay : Relay) (task : TaskId) (before _ : Stage) : List Visit :=
  match before with
  -- One that finds the queue open has still to look for a session.
  | .atDesk source => if relay.queue.closed then [⟨task, source, .closed⟩] else []
  | .checking source =>
    [⟨task, source, if relay.registry.contains source.origin.path then .served else .missing⟩]
  | _ => []

/-- What all callers find at the session desk during a run. -/
def visits (start : Relay) (actions : List Action) : List Visit :=
  start.watch seeVisit actions

/-- What one caller finds at the session desk during a run. -/
def visitsOf (start : Relay) (actions : List Action) (caller : TaskId) : List Visit :=
  (start.visits actions).filter fun visit => visit.caller == caller

section Moves

variable {start relay shared : Relay} {past : List Action} {action : Action}
  {task caller : TaskId} {before after : Stage}

/-- A caller looks once for the source that it has to look for. -/
theorem Move.looks (move : Move relay task before after shared) :
    (relay.seeVisit task before after).map Visit.source ++ after.looking = before.looking := by
  -- Only the way through the desk ends in a finding, and nobody else has to look.
  cases move with
  | shut first closed => simp [seeVisit, closed, Stage.looking]
  | enter first open_ => simp [seeVisit, open_, Stage.looking]
  | @refuse record errand => cases errand <;> rfl
  | @place errand => cases errand <;> rfl
  | @pass finishing => cases finishing <;> rfl
  | @joined finishing => cases finishing <;> rfl
  | _ => rfl

/-- A caller finds things for itself. -/
theorem caller_of_seeVisit : ∀ visit ∈ relay.seeVisit task before after, visit.caller = task := by
  -- Only at the desk and when checking is something found, and it is entered under who is there.
  intro visit member
  cases before with
  | atDesk source =>
    simp only [seeVisit] at member
    split at member
    · exact congrArg Visit.caller (List.mem_singleton.1 member)
    · exact absurd member List.not_mem_nil
  | checking source => exact congrArg Visit.caller (List.mem_singleton.1 member)
  | _ => exact absurd member List.not_mem_nil

/-- Whoever finds no session asks for one, unless there is no request to ask with. -/
theorem Move.asksFor (move : Move relay task before after shared)
    (askable : ∀ project, ∃ request, relay.config.sessionRequest project = .ok request) :
    List.Forall₂ (fun visit request => relay.config.Requests visit.source.origin.shownPath request)
      ((relay.seeVisit task before after).filter Visit.isMissing) after.asking := by
  cases move with
  | shut first closed => simp [seeVisit, closed, Visit.isMissing, Stage.asking]
  | enter first open_ => simp [seeVisit, open_, Stage.asking]
  | known served => simp [seeVisit, served, Visit.isMissing, Stage.asking]
  | @unasked source problem refused =>
    -- There is a request for every project.
    obtain ⟨request, written⟩ := askable source.origin.shownPath
    simp [written] at refused
  -- The call that begins is the request that was written.
  | ask fresh written =>
    have asks := Config.requests_of_sessionRequest written
    simpa [seeVisit, fresh, Visit.isMissing, Stage.asking] using asks
  | @refuse record errand => cases errand <;> exact .nil
  | @place errand => cases errand <;> exact .nil
  | @pass finishing => cases finishing <;> exact .nil
  | @joined finishing => cases finishing <;> exact .nil
  | _ => exact .nil

/-- A move of one caller adds to what that caller finds, and to nothing else. -/
theorem visitsOf_move (ran : start.run past = some relay) (acts : action.task? = some task)
    (at_ : relay.stage? task = some before) (move : Move relay task before after shared)
    (stepped : relay.step action = some (shared.withStage task after)) (caller : TaskId) :
    start.visitsOf (past ++ [action]) caller = start.visitsOf past caller ++
      if caller = task then relay.seeVisit task before after else [] := by
  -- What a move shows is entered under the mover, so that nobody else finds anything.
  have own : (relay.seeVisit task before after).filter (fun visit => visit.caller == caller) =
      if caller = task then relay.seeVisit task before after else [] := by
    split
    · next same =>
      refine List.filter_eq_self.2 fun visit member => ?_
      simp [caller_of_seeVisit visit member, same]
    · next differ =>
      refine List.filter_eq_nil_iff.2 fun visit member same => differ ?_
      rw [← eq_of_beq same, caller_of_seeVisit visit member]
  rw [visitsOf, visits, watch_move ran acts at_ move stepped, List.filter_append, own]
  rfl

end Moves

section Runs

variable {config : Config} {start relay : Relay} {actions : List Action}

/-- Nobody has found anything before it is there. -/
theorem visitsOf_of_absent (ran : start.run actions = some relay) {caller : TaskId}
    (absent : relay.stage? caller = none) : start.visitsOf actions caller = [] := by
  -- Names are given out in turn, so a name that is not in use has not been in use.
  refine run_induction (fun actions relay => relay.stage? caller = none →
    start.visitsOf actions caller = []) (fun _ => rfl) ?arrive ?register ?move ran absent
  case arrive =>
    intro past relay demand began ih absent
    rw [stage?_arrive] at absent
    split at absent
    · exact nomatch absent
    · rw [visitsOf, visits, watch_arrive began]
      exact ih absent
  case register =>
    intro past relay key session began ih absent
    rw [visitsOf, visits, watch_register began]
    exact ih absent
  case move =>
    intro past relay action task before after shared began ih acts at_ move stepped absent
    -- One that moves is there, so the mover is another task.
    rw [move.stage? at_] at absent
    split at absent
    · exact nomatch absent
    · next differ =>
      rw [visitsOf_move began acts at_ move stepped, if_neg differ, List.append_nil]
      exact ih absent

/-- What a caller has found, and what it has still to look for, is what it came with. -/
theorem looked_of_run (fresh : Fresh config start) (ran : start.run actions = some relay)
    {demand : Demand} {caller : TaskId} (arrived : (demand, caller) ∈ start.callers actions)
    {stage : Stage} (at_ : relay.stage? caller = some stage) :
    (start.visitsOf actions caller).map Visit.source ++ stage.looking =
      (demand.stage config).looking := by
  -- Only the moves of the caller itself take it along.
  refine caller_induction fresh (fun actions _ stage =>
    (start.visitsOf actions caller).map Visit.source ++ stage.looking =
      (demand.stage config).looking) ?come ?arrive ?register ?own ?others ran arrived at_
  case come =>
    intro past relay began name
    -- At its arrival it has found nothing and has all of its sources before it.
    have none_ : start.visitsOf (past ++ [.arrive demand]) caller = [] := by
      rw [visitsOf, visits, watch_arrive began]
      exact visitsOf_of_absent began (List.getElem?_eq_none (Nat.le_of_eq name.symm))
    rw [none_, config_of_run began, fresh.config_eq]
    rfl
  case arrive =>
    intro past relay other stage began _ ih
    rwa [visitsOf, visits, watch_arrive began]
  case register =>
    intro past relay key session stage began _ ih
    rwa [visitsOf, visits, watch_register began]
  case own =>
    intro past relay action before after shared began _ ih acts at_ move stepped
    rw [visitsOf_move began acts at_ move stepped, if_pos rfl, List.map_append, List.append_assoc,
      move.looks, ih]
  case others =>
    intro past relay action task before after shared stage began _ ih differ acts at_ move stepped
    rwa [visitsOf_move began acts at_ move stepped, if_neg differ, List.append_nil]

/-- A session is asked for once for each time that one is found missing. -/
theorem asked_of_run
    (askable : ∀ project, ∃ request, start.config.sessionRequest project = .ok request)
    (ran : start.run actions = some relay) (caller : TaskId) :
    List.Forall₂ (fun visit request => start.config.Requests visit.source.origin.shownPath request)
      ((start.visitsOf actions caller).filter Visit.isMissing) (start.asksOf actions caller) := by
  -- Both lists grow with the moves of the caller only, and together.
  refine run_induction (fun actions _ => List.Forall₂ (fun visit request =>
      start.config.Requests visit.source.origin.shownPath request)
    ((start.visitsOf actions caller).filter Visit.isMissing) (start.asksOf actions caller))
    .nil ?arrive ?register ?move ran
  case arrive =>
    intro past relay demand began ih
    rwa [visitsOf, visits, watch_arrive began, asksOf, calls, watch_arrive began]
  case register =>
    intro past relay key session began ih
    rwa [visitsOf, visits, watch_register began, asksOf, calls, watch_register began]
  case move =>
    intro past relay action task before after shared began ih acts at_ move stepped
    -- The configuration is the same at every moment.
    have same := config_of_run began
    have now := move.asksFor (same ▸ askable)
    rw [same] at now
    rw [visitsOf_move began acts at_ move stepped, asksOf_move began acts at_ move stepped,
      List.filter_append]
    refine List.rel_append ih ?_
    split
    · exact now
    · exact .nil

end Runs

/-- What one that brings a source does about a session for it. -/
structure AsksOnce (config : Config) (start : Relay) (actions : List Action) (relay : Relay)
    (source : Source) (caller : TaskId) : Prop where
  /-- It looks at the session desk at most once. -/
  once : start.visitsOf actions caller = [] ∨
    ∃ finding, start.visitsOf actions caller = [⟨caller, source, finding⟩]
  /-- Where each source needs a session, it has looked before it turns to its records. -/
  looked : config.multiProject = true → ∀ stage, relay.stage? caller = some stage →
    stage.awaiting = [] → start.visitsOf actions caller ≠ []
  /-- One that finds the queue open and no session makes one call for a session. -/
  asks : start.visitsOf actions caller = [⟨caller, source, .missing⟩] →
    ∃ request, config.Requests source.origin.shownPath request ∧
      start.asksOf actions caller = [request]
  /-- All others make none. -/
  rests : start.visitsOf actions caller ≠ [⟨caller, source, .missing⟩] →
    start.asksOf actions caller = []

/-- Nothing that happens keeps a caller from asking for the session that it needs. -/
structure AlwaysAsks (config : Config) (start : Relay) (actions : List Action) (relay : Relay) :
    Prop where
  written : ∀ project, ∃ request, relay.config.sessionRequest project = .ok request ∧
    config.Requests project request
  /-- One that looks for a session finds one or asks for one, and it has no other way to go on. -/
  ways : ∀ task source, ∃ request, config.Requests source.origin.shownPath request ∧
    relay.openSession task source =
      if relay.registry.contains source.origin.path then relay.startQueueing task source
      else (relay.withStage task (.opening source request), [])
  callers : ∀ source caller, (Demand.bring source, caller) ∈ start.callers actions →
    AsksOnce config start actions relay source caller

/-- What a relay asks for when it starts. -/
structure StartsAsking {σ : Type} (config : Config) (service : Service σ) (state : σ) : Prop where
  /-- One session is asked for, unless each source will have its own. -/
  asks : ∃ request, config.Requests config.projectName request ∧
    (start config service state).2.1 = if config.multiProject then []
      else [⟨none, .create request, (service.reply state (.create request)).1⟩]
  /-- A start is refused for nothing but what the service replies. -/
  refused : ∀ problem, (start config service state).1 = .error (.refused problem) →
    ∃ cause, problem = .sessionCreationFailed config.projectName cause

section Starting

variable {σ : Type} {config : Config} {service : Service σ} {state : σ}

/-- To furnish a relay is never refused. -/
private theorem furnish_ne_refused (session : Option String) (journal : List Exchange)
    (problem : RelayError) : furnish config session journal ≠ .error (.refused problem) := by
  unfold furnish
  cases Queue.create? config.queueCapacity with
  | none => simp
  | some queue => cases session <;> simp

/-- A configuration without faults starts with the one call that it needs. -/
theorem startsAsking_of_validate (valid : config.validate = .ok config) :
    StartsAsking config service state := by
  obtain ⟨request, written⟩ := Config.exists_sessionRequest valid config.projectName
  have asks := Config.requests_of_sessionRequest written
  have journal : (start config service state).2.1 = (prepare config service state).2.1 := rfl
  -- The start can only pass on why the preparation was refused.
  have result : ∀ problem, (start config service state).1 = .error (.refused problem) →
      (prepare config service state).1 = .error (.refused problem) := by
    intro problem refused
    rw [start_eq] at refused
    cases prepared : (prepare config service state).1 with
    | error fault => simpa [prepared, Except.map] using refused
    | ok relay => simp [prepared, Except.map] at refused
  refine ⟨⟨request, asks, ?_⟩, fun problem refused => ?_⟩
  · rw [journal]
    cases multi : config.multiProject <;> simp [prepare, valid, multi, written]
  · -- Neither the check of the configuration nor the request is what fails.
    have found := result problem refused
    cases multi : config.multiProject with
    | true =>
      simp only [prepare, valid, multi, if_true] at found
      exact absurd found (furnish_ne_refused _ _ _)
    | false =>
      simp only [prepare, valid, multi, written] at found
      rcases replied : service.reply state (.create request) with ⟨reply, later⟩
      cases reply with
      | granted session =>
        simp only [replied, Bool.false_eq_true, if_false] at found
        exact absurd found (furnish_ne_refused _ _ _)
      | refused cause =>
        refine ⟨cause, ?_⟩
        simpa [replied] using found.symm
      | crashed => simp [replied] at found

end Starting

section Running

variable {config : Config} {start relay : Relay} {actions : List Action}

/-- One that brings a source looks once, and asks once if it finds nothing. -/
theorem asksOnce_of_run (fresh : Fresh config start)
    (askable : ∀ project, ∃ request, config.sessionRequest project = .ok request)
    (ran : start.run actions = some relay) {source : Source} {caller : TaskId}
    (arrived : (Demand.bring source, caller) ∈ start.callers actions) :
    AsksOnce config start actions relay source caller := by
  obtain ⟨stage, at_, -⟩ := stage_of_caller fresh ran arrived
  have looked := looked_of_run fresh ran arrived at_
  have asked := asked_of_run (fresh.config_eq.symm ▸ askable) ran caller
  rw [fresh.config_eq] at asked
  have once : start.visitsOf actions caller = [] ∨
      ∃ finding, start.visitsOf actions caller = [⟨caller, source, finding⟩] := by
    cases found : start.visitsOf actions caller with
    | nil => exact .inl rfl
    | cons visit rest =>
      -- It has brought one source, so there is nothing else that it could have looked for.
      right
      have own : visit.caller = caller := by
        have member : visit ∈ start.visitsOf actions caller := found ▸ List.mem_cons_self
        simpa using (List.mem_filter.1 member).2
      rw [found] at looked
      cases multi : config.multiProject with
      | false => simp [Demand.stage, multi, Stage.looking] at looked
      | true =>
        obtain ⟨same, none_, -⟩ : visit.source = source ∧ rest = [] ∧ stage.looking = [] := by
          simpa [Demand.stage, multi, Stage.looking] using looked
        exact ⟨visit.finding, by rw [none_, ← own, ← same]⟩
  refine ⟨once, ?looked, ?asks, ?rests⟩
  case looked =>
    intro multi stage' there served none_
    obtain rfl : stage = stage' := Option.some.inj (at_.symm.trans there)
    rw [none_] at looked
    have looking : stage.looking = [source] := by
      simpa [Demand.stage, multi, Stage.looking] using looked
    -- Whoever has still to look waits for a session.
    cases stage with
    | arriving | atDesk | checking => simp [Stage.awaiting] at served
    | _ => simp [Stage.looking] at looking
  case asks =>
    intro missing
    rw [missing] at asked
    obtain ⟨request, rest, asks, none_, same⟩ := List.forall₂_cons_left_iff.1 asked
    obtain rfl := List.forall₂_nil_left_iff.1 none_
    exact ⟨request, asks, same⟩
  case rests =>
    intro other
    have none_ : (start.visitsOf actions caller).filter Visit.isMissing = [] := by
      rcases once with nothing | ⟨finding, found⟩
      · rw [nothing]
        rfl
      · rw [found] at other ⊢
        -- It has found a session or a closed queue, and asks for nothing.
        have differ : finding ≠ .missing := fun same => other (by rw [same])
        simp [Visit.isMissing, differ]
    rw [none_] at asked
    exact List.forall₂_nil_left_iff.1 asked

/-- In every run of a relay that was launched for a configuration without faults, callers can ask for
what they need. -/
theorem alwaysAsks_of_run (fresh : Fresh config start) (valid : config.validate = .ok config)
    (ran : start.run actions = some relay) : AlwaysAsks config start actions relay := by
  -- A configuration without faults has a request for every project, and keeps it during the run.
  have same : relay.config = config := (config_of_run ran).trans fresh.config_eq
  have written (project : String) : ∃ request,
      relay.config.sessionRequest project = .ok request ∧ config.Requests project request := by
    obtain ⟨request, found⟩ := Config.exists_sessionRequest valid project
    exact ⟨request, by rw [same, found], Config.requests_of_sessionRequest found⟩
  refine ⟨written, fun task source => ?_, fun source caller arrived =>
    asksOnce_of_run fresh (Config.exists_sessionRequest valid) ran arrived⟩
  obtain ⟨request, found, asks⟩ := written source.origin.shownPath
  exact ⟨request, asks, by simp only [openSession, found]⟩

end Running

end Relay

end InsightRelay
