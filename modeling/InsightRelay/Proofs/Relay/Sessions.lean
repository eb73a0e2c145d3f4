import InsightRelay.Proofs.Registry
import InsightRelay.Proofs.Relay.Finish

/-! Sessions: each one that is opened is completed once, by the one caller that finishes all work. -/

namespace InsightRelay

/-- The session that an exchange opened, if it opened one. -/
def Exchange.opened? (exchange : Exchange) : Option String :=
  match exchange.call, exchange.reply with
  | .create _, .granted session => some session
  | _, _ => none

/-- The session that an exchange was to complete, with what went wrong if anything did. -/
def Exchange.completion? (exchange : Exchange) : Option (String × Option RelayError) :=
  match exchange.call, exchange.reply with
  | .complete session _, .refused problem =>
    some (session, some (.sessionCompletionFailed session problem))
  | .complete session _, _ => some (session, none)
  | _, _ => none

/-- The sessions for which a caller at a stage has still to make a call. -/
def Stage.remaining : Stage → List String
  | closing remaining _ => remaining
  | completing _ remaining _ => remaining
  | _ => []

/-- The sessions for which a caller at a stage has no reply yet. -/
def Stage.due : Stage → List String
  | closing remaining _ => remaining
  | completing session remaining _ => session :: remaining
  | _ => []

/-- The first failure that a caller at a stage has seen of its completions. -/
def Stage.failure? : Stage → Option RelayError
  | closing _ failure => failure
  | completing _ _ failure => failure
  | _ => none

namespace Relay

/-- The session that an action registers from elsewhere, if it does, with its key. -/
def Action.registered? : Action → Option (String × String)
  | register key session => some (key, session)
  | _ => none

/-- No session comes from elsewhere. -/
def OwnSessions (actions : List Action) : Prop :=
  ∀ key session, .register key session ∉ actions

instance (actions : List Action) : Decidable (OwnSessions actions) :=
  decidable_of_iff (∀ action ∈ actions, action.registered? = none) <| by
    constructor
    · exact fun own key session member => nomatch own _ member
    · intro own action member
      cases action with
      | register key session => exact absurd member (own key session)
      | _ => rfl

/-- Where no session comes from elsewhere, none has from the beginning. -/
theorem OwnSessions.earlier {past : List Action} {action : Action}
    (own : OwnSessions (past ++ [action])) : OwnSessions past :=
  fun key session member => own key session (List.mem_append_left _ member)

/-- The session that a call completes and how, with the task that makes the call. -/
def completionOf (entry : TaskId × Call) : Option (TaskId × String × Completion) :=
  match entry.2 with
  | .complete session completion => some (entry.1, session, completion)
  | _ => none

/-- The completions that have been replied to, in the order of the replies. -/
def completions (relay : Relay) : List (String × Option RelayError) :=
  relay.journal.filterMap Exchange.completion?

/-- The sessions that the service has opened, in the order of its replies. -/
def opened (relay : Relay) : List String :=
  relay.journal.filterMap Exchange.opened?

/-- What a successful completion of each session by one task looks like. -/
def attempts (task : TaskId) (sessions : List String) : List (TaskId × String × Completion) :=
  sessions.map fun session => (task, session, .success)

/-- The sessions at hand are those that were opened, and one that is being opened is a new one. -/
structure Registered (relay : Relay) : Prop where
  opened : relay.sessions.Perm relay.opened
  asked : ∀ task source request, relay.stage? task = some (.opening source request) →
    relay.registry.contains source.origin.path = false ∧
      relay.config.sessionRequest source.origin.shownPath = .ok request

section Registering

variable {relay shared : Relay} {task : TaskId} {before after : Stage}

/-- Sessions are opened and registered together. -/
theorem Move.registers (move : Move relay task before after shared) :
    (shared.registry = relay.registry ∧ shared.opened = relay.opened) ∨
      ∃ source request session, before = .opening source request ∧ after = .queueing source.batch ∧
        shared.registry = (relay.registry.add source.origin.path ⟨session, ()⟩).1 ∧
          shared.opened = relay.opened ++ [session] := by
  -- Only the reply that grants a session changes the registry, and it tells of the session.
  cases move with
  | @opened source request session =>
    exact .inr ⟨source, request, session, rfl, rfl, rfl, by simp [Relay.opened, Exchange.opened?]⟩
  | published | rejected | crash | unopened | completed | incomplete =>
    exact .inl ⟨rfl, by simp [Relay.opened, Exchange.opened?]⟩
  | _ => exact .inl ⟨rfl, rfl⟩

/-- A session is asked for where there is none. -/
theorem Move.asks {source : Source} {request : Message.CreateToolSessionRequest}
    (move : Move relay task before after shared) (asks : after = .opening source request) :
    relay.registry.contains source.origin.path = false ∧
      relay.config.sessionRequest source.origin.shownPath = .ok request ∧ shared = relay := by
  -- A caller asks only after it has looked for a session and written its request.
  cases move with
  | ask fresh written =>
    obtain ⟨rfl, rfl⟩ : _ ∧ _ := by simpa using asks
    exact ⟨fresh, written, rfl⟩
  | @refuse record errand => cases errand <;> simp [Errand.refused] at asks
  | @place errand => cases errand <;> simp [Errand.placed] at asks
  | @pass finishing => cases finishing <;> simp at asks
  | @joined finishing => cases finishing <;> simp at asks
  | _ => simp at asks

/-- Only one caller at a time is at work at the desk. -/
theorem Attended.unique {other : TaskId} {stage : Stage} (attended : Attended relay)
    (at_ : relay.stage? task = some before) (busy : before.isBusy = true)
    (there : relay.stage? other = some stage) (too : stage.isBusy = true) : other = task :=
  Option.some.inj ((attended other stage there too).symm.trans (attended task before at_ busy))

/-- Whatever move is made, the sessions at hand stay those that were opened. -/
theorem Registered.move (registered : Registered relay) (attended : Attended relay)
    (at_ : relay.stage? task = some before) (move : Move relay task before after shared) :
    Registered (shared.withStage task after) := by
  constructor
  · show shared.sessions.Perm shared.opened
    rcases move.registers with
      ⟨registry, opened⟩ | ⟨source, request, session, rfl, -, registry, opened⟩
    · rw [sessions, registry, opened]
      exact registered.opened
    · -- The key had no session when it was asked for one, so the new one replaces none.
      have added := (Registry.entries_add ⟨session, ()⟩
        (registered.asked task source request at_).1).map fun entry => entry.2.id
      rw [sessions, registry, opened]
      exact (added.trans (registered.opened.cons session)).trans
        (List.perm_append_singleton session relay.opened).symm
  · intro other source request there
    rw [move.stage? at_] at there
    split at there
    · obtain ⟨fresh, written, rfl⟩ := move.asks (Option.some.inj there)
      exact ⟨fresh, written⟩
    · next differ =>
      -- While one asks for a session nobody else registers any.
      have asked := registered.asked other source request there
      rcases move.registers with ⟨registry, -⟩ | ⟨opening, _, session, rfl, -, -, -⟩
      · simpa only [withStage, registry, move.config] using asked
      · exact absurd (attended.unique at_ rfl there rfl) differ

/-- While the relay is quiet no session is registered. -/
theorem Quiet.registry (quiet : Quiet relay) (at_ : relay.stage? task = some before)
    (move : Move relay task before after shared) : shared.registry = relay.registry := by
  rcases move.registers with ⟨same, -⟩ | ⟨source, request, session, rfl, -⟩
  · exact same
  · have free := quiet.free task _ at_
    simp [Stage.isBusy] at free

end Registering

/-- What a move does to the completion of sessions. -/
inductive Course (relay shared : Relay) (task : TaskId) : Stage → Stage → Prop
  /-- The move is not about completions. -/
  | aside {before after : Stage}
      (calls : (relay.seeCall task before after).filterMap completionOf = [])
      (replies : shared.completions = relay.completions) (since : before.isClosing = false)
      (until_ : after.isClosing = false) (through : after.isThrough = false) :
      Course relay shared task before after
  | late (first : relay.finishers.head? = some task) (through : relay.pool = none)
      (replies : shared.completions = relay.completions) :
      Course relay shared task .inFinishLine (.ended .finished)
  | collect {order : List String} (all : order.Perm relay.sessions)
      (replies : shared.completions = relay.completions) :
      Course relay shared task .atDeskToCollect (.closing order none)
  | complete {session : String} {remaining : List String} {failure : Option RelayError}
      (replies : shared.completions = relay.completions) :
      Course relay shared task (.closing (session :: remaining) failure)
        (.completing session remaining failure)
  | answered {session : String} {remaining : List String} {failure later : Option RelayError}
      (problem : Option RelayError) (first : later = (failure <|> problem))
      (replies : shared.completions = relay.completions ++ [(session, problem)]) :
      Course relay shared task (.completing session remaining failure) (.closing remaining later)
  | finish {failure : Option RelayError} (replies : shared.completions = relay.completions) :
      Course relay shared task (.closing [] failure) (.ended (.ofFailure failure))

/-- Every move treats completions in one of these ways. -/
theorem Move.course {relay shared : Relay} {task : TaskId} {before after : Stage}
    (move : Move relay task before after shared) : Course relay shared task before after := by
  -- Six moves have a part in completing sessions, and all others stand aside.
  cases move with
  | late first through => exact .late first through rfl
  | collect first all => exact .collect all rfl
  | complete => exact .complete rfl
  | @completed session remaining failure text =>
    exact .answered none (by cases failure <;> rfl) (by simp [completions, Exchange.completion?])
  | incomplete problem =>
    exact .answered _ rfl (by simp [completions, Exchange.completion?])
  | finish => exact .finish rfl
  | @refuse record errand => cases errand <;> exact .aside rfl rfl rfl rfl rfl
  | @place errand => cases errand <;> exact .aside rfl rfl rfl rfl rfl
  | @pass finishing => cases finishing <;> exact .aside rfl rfl rfl rfl rfl
  | @joined finishing => cases finishing <;> exact .aside rfl rfl rfl rfl rfl
  -- These replies are to calls of other kinds, and are counted among no completions.
  | published | rejected | crash | opened | unopened =>
    exact .aside rfl (by simp [completions, Exchange.completion?]) rfl rfl rfl
  | _ => exact .aside rfl rfl rfl rfl rfl

/-- Where the registry is the same, so are the sessions. -/
theorem sessions_of_registry {relay later : Relay} (same : later.registry = relay.registry) :
    later.sessions = relay.sessions := by
  rw [sessions, same, sessions]

/-- How far a caller is with the completion of the sessions, which it has in an order of its own. -/
structure Underway (relay : Relay) (called : List (TaskId × String × Completion)) (task : TaskId)
    (remaining due : List String) (failure : Option RelayError) : Prop where
  /-- In that order it has called for all sessions but those that remain. -/
  called : called ++ attempts task remaining =
    attempts task (relay.completions.map Prod.fst ++ due)
  /-- All sessions have had their replies but those that are due. -/
  all : (relay.completions.map Prod.fst ++ due).Perm relay.sessions
  first : failure = relay.completions.findSome? Prod.snd

/-- A caller is as far as before while sessions and replies stay the same. -/
theorem Underway.same {relay later : Relay} {called : List (TaskId × String × Completion)}
    {task : TaskId} {remaining due : List String} {failure : Option RelayError}
    (underway : relay.Underway called task remaining due failure)
    (replies : later.completions = relay.completions) (sessions : later.sessions = relay.sessions) :
    later.Underway called task remaining due failure := by
  constructor
  · exact replies ▸ underway.called
  · exact replies ▸ sessions ▸ underway.all
  · exact replies ▸ underway.first

/-- How far the completion of the sessions is, told by what callers that finish are at. -/
structure Completing (start : Relay) (actions : List Action) (relay : Relay) : Prop where
  /-- No session is completed before one that finishes has looked them up. -/
  unbegun : (∀ task stage, relay.stage? task = some stage →
      stage.isClosing = false ∧ stage.isThrough = false) →
    (start.calls actions).filterMap completionOf = [] ∧ relay.completions = []
  /-- One that has looked up the sessions completes them in turn, in the order in which it has them. -/
  closing : ∀ task stage, relay.stage? task = some stage → stage.isClosing = true →
    relay.Underway ((start.calls actions).filterMap completionOf) task stage.remaining stage.due
      stage.failure?
  /-- All sessions are completed by the one that has taken the workers, and it is told of the failure. -/
  through : ∀ task ending, relay.stage? task = some (.ended ending) → ending.role = .finisher →
    (relay.taken.map Prod.fst = [task] → ∃ failure, ending = .ofFailure failure ∧
      relay.Underway ((start.calls actions).filterMap completionOf) task [] [] failure) ∧
      (relay.taken.map Prod.fst ≠ [task] → ending = .finished)

namespace Completing

variable {start relay shared : Relay} {past : List Action} {action : Action} {task : TaskId}
  {before after : Stage}

/-- While one goes through the sessions, nobody else does or is through with them. -/
private theorem alone (steered : Steered relay) (at_ : relay.stage? task = some before)
    (begun : before.hasBegun = true) {other : TaskId} {stage : Stage}
    (there : relay.stage? other = some stage) (differ : other ≠ task) :
    stage.isClosing = false ∧ stage.isThrough = false := by
  -- Another one at work would be the same one, and one that is through leaves nobody at work.
  refine ⟨Bool.eq_false_iff.2 fun closing => ?_, Bool.eq_false_iff.2 fun through => ?_⟩
  · exact differ (steered.unique at_ begun there (hasBegun_of_isPast (isPast_of_isClosing closing)))
  · have idle := (steered.through other stage there through).2.2 task before at_
    simp [idle] at begun

/-- What is known of the one that goes through the sessions is all there is to know. -/
private theorem of_turn (steered : Steered relay) (at_ : relay.stage? task = some before)
    (move : Move relay task before after shared) (begun : before.hasBegun = true)
    (shown : after.isClosing = true ∨ after.isThrough = true)
    (closing : after.isClosing = true →
      shared.Underway ((start.calls (past ++ [action])).filterMap completionOf) task after.remaining
        after.due after.failure?)
    (through : ∀ ending, after = .ended ending → ∃ failure, ending = .ofFailure failure ∧
      shared.Underway ((start.calls (past ++ [action])).filterMap completionOf) task [] [] failure) :
    Completing start (past ++ [action]) (shared.withStage task after) := by
  constructor
  · -- The mover itself goes through the sessions or is through with them.
    intro idle
    have own := idle task after (by rw [move.stage? at_, if_pos rfl])
    simp [own] at shown
  · intro other stage there claim
    rw [move.stage? at_] at there
    split at there
    · next same =>
      subst same
      obtain rfl : after = stage := Option.some.inj there
      exact (closing claim).same rfl rfl
    · -- Nobody but the mover has begun, so no other one can be on its way.
      next differ => simp [(alone steered at_ begun there differ).1] at claim
  · intro other ending there role
    rw [move.stage? at_] at there
    split at there
    · next same =>
      subst same
      -- The mover had the workers when it began, and nobody has taken them since.
      obtain ⟨failure, told, underway⟩ := through ending (Option.some.inj there)
      refine ⟨fun _ => ⟨failure, told, underway.same rfl rfl⟩, fun differ => absurd ?_ differ⟩
      rcases move.hands with ⟨-, taken⟩ | ⟨rfl, -⟩
      · exact taken.trans (steered.begun other before at_ begun).2.2.2
      · simp [Stage.hasBegun] at begun
    · next differ =>
      have idle := (alone steered at_ begun there differ).2
      simp [Stage.isThrough, role] at idle

/-- A move that is not about completions leaves them as they are. -/
private theorem of_aside (completing : Completing start past relay) (steered : Steered relay)
    (at_ : relay.stage? task = some before) (move : Move relay task before after shared)
    (shown : (start.calls (past ++ [action])).filterMap completionOf =
      (start.calls past).filterMap completionOf)
    (replies : shared.completions = relay.completions) (since : before.isClosing = false)
    (until_ : after.isClosing = false)
    (through : ∀ ending, after = .ended ending → ending.role = .finisher →
      ending = .finished ∧ relay.taken.map Prod.fst ≠ [task] ∧ shared.taken = relay.taken) :
    Completing start (past ++ [action]) (shared.withStage task after) := by
  constructor
  · intro idle
    rw [shown]
    show _ ∧ shared.completions = []
    rw [replies]
    -- Before the move nobody was on the way either, the mover included.
    refine completing.unbegun fun other stage there => ?_
    by_cases same : other = task
    · obtain rfl : before = stage := by simpa [same, at_] using there
      exact ⟨since, move.notThrough⟩
    · exact idle other stage (by rw [move.stage? at_, if_neg same, there])
  · intro other stage there claim
    rw [move.stage? at_] at there
    split at there
    · obtain rfl : after = stage := Option.some.inj there
      simp [until_] at claim
    · -- One that goes through the sessions has made sure that no other session is registered.
      have registry := (steered.closing other stage there claim).registry at_ move
      rw [shown]
      exact (completing.closing other stage there claim).same replies
        (sessions_of_registry registry)
  · intro other ending there role
    rw [move.stage? at_] at there
    split at there
    · next same =>
      -- The mover came too late, so it is told that all is finished and has no workers.
      obtain ⟨finished, differ, taken⟩ := through ending (Option.some.inj there) role
      subst same
      exact ⟨fun owner => absurd (taken ▸ owner) differ, fun _ => finished⟩
    · -- When one is through, the workers and the sessions stay as they are.
      obtain ⟨quiet, done, -⟩ := steered.through other _ there (by simp [Stage.isThrough, role])
      have registry := quiet.registry at_ move
      obtain ⟨-, taken⟩ | ⟨-, -, -, ready, -⟩ := move.hands
      · obtain ⟨own, aside⟩ := completing.through other ending there role
        rw [shown]
        refine ⟨fun owner => ?_, fun differ => aside (taken ▸ differ)⟩
        obtain ⟨failure, told, underway⟩ := own (taken ▸ owner)
        exact ⟨failure, told, underway.same replies (sessions_of_registry registry)⟩
      · simp [done] at ready

/-- Whatever move is made, the sessions are completed in turn. -/
theorem move (completing : Completing start past relay) (steered : Steered relay)
    (at_ : relay.stage? task = some before) (move : Move relay task before after shared)
    (shown : start.calls (past ++ [action]) = start.calls past ++ relay.seeCall task before after) :
    Completing start (past ++ [action]) (shared.withStage task after) := by
  -- Only one at work at the desk could register a session.
  have sessions : before.isBusy = false → shared.sessions = relay.sessions := by
    intro free
    rcases move.registers with ⟨same, -⟩ | ⟨source, request, session, rfl, -⟩
    · exact sessions_of_registry same
    · simp [Stage.isBusy] at free
  cases move.course with
  | aside calls replies since until_ through =>
    refine completing.of_aside steered at_ move (by simp [shown, calls]) replies since until_ ?_
    rintro ending rfl role
    simp [Stage.isThrough, role] at through
  | late first done replies =>
    refine completing.of_aside steered at_ move (by simp [shown, seeCall, Stage.call?]) replies
      rfl rfl ?_
    rintro ending same role
    obtain rfl : Ending.finished = ending := by simpa using same
    -- Whoever has the workers is another caller, as this one is still in line.
    obtain ⟨closer, stage, owner, there, busy⟩ := steered.claimed done
    refine ⟨rfl, fun own => ?_, ?_⟩
    · obtain rfl : closer = task := by simpa [owner] using own
      obtain rfl : Stage.inFinishLine = stage := by simpa [at_] using there
      simp [Stage.hasBegun, Stage.isThrough] at busy
    · cases move; rfl
  | @collect order all replies =>
    -- The sessions are just looked up, and none of them is completed yet.
    obtain ⟨calls, none_⟩ := completing.unbegun fun other stage there => by
      by_cases same : other = task
      · obtain rfl : Stage.atDeskToCollect = stage := by simpa [same, at_] using there
        exact ⟨rfl, rfl⟩
      · exact alone steered at_ rfl there same
    refine of_turn steered at_ move rfl (.inl rfl) (fun _ => ?_) fun ending same => by simp at same
    rw [shown, List.filterMap_append, calls]
    have begun : relay.Underway [] task order order none := by
      constructor <;> simp [none_, all]
    exact begun.same replies (sessions rfl)
  | @complete session remaining failure replies =>
    -- The next session goes from those that remain to the calls.
    obtain ⟨called, all, first⟩ := completing.closing task _ at_ rfl
    refine of_turn steered at_ move rfl (.inl rfl) (fun _ => ?_) fun ending same => by simp at same
    refine Underway.same ⟨?_, all, first⟩ replies (sessions rfl)
    rw [shown, List.filterMap_append, List.append_assoc]
    exact called
  | @answered session remaining failure later problem merged replies =>
    -- The reply is the next one, and the first failure is kept.
    obtain ⟨called, all, first⟩ := completing.closing task _ at_ rfl
    refine of_turn steered at_ move rfl (.inl rfl) (fun _ => ?_) fun ending same => by simp at same
    have moved : shared.completions.map Prod.fst ++ remaining =
        relay.completions.map Prod.fst ++ session :: remaining := by simp [replies]
    refine ⟨?_, ?_, ?_⟩
    · rw [shown, Stage.due, moved]
      simpa [seeCall, Stage.call?, Stage.remaining, Stage.due] using called
    · rw [Stage.due, moved, sessions rfl]
      exact all
    · rw [replies, List.findSome?_append, ← first]
      simp [Stage.failure?, merged]
  | @finish failure replies =>
    -- None remains, so the calls and the replies are those of all sessions.
    have underway : relay.Underway _ task [] [] failure := completing.closing task _ at_ rfl
    have role := move.role.trans (steered.begun task _ at_ rfl).1
    refine of_turn steered at_ move rfl (.inr (by simpa [Stage.isThrough, Stage.role] using role))
      (fun claim => by simp [Stage.isClosing] at claim) fun ending same => ?_
    obtain rfl : Ending.ofFailure failure = ending := by simpa using same
    rw [shown, List.filterMap_append]
    refine ⟨failure, rfl, ?_⟩
    simpa [seeCall, Stage.call?] using underway.same replies (sessions rfl)

end Completing

/-- Each session that was opened is completed once, and those that finish are told how that went. -/
structure ClosedOnce (start : Relay) (actions : List Action) (relay : Relay) (closer : TaskId) :
    Prop where
  arrived : (Demand.finish, closer) ∈ start.callers actions
  /-- Every completion that was replied to is for one session that was opened. -/
  opened : (relay.completions.map Prod.fst).Perm relay.opened
  /-- No others were asked for, and all were asked for by one caller. -/
  attempted : (start.calls actions).filterMap completionOf =
    attempts closer (relay.completions.map Prod.fst)
  /-- That caller is told of the first session that was not completed, if there is one. -/
  answer : relay.ending? closer =
    some (.ofFailure (relay.completions.findSome? Prod.snd))
  /-- All others that finish make no call and are told of no failure. -/
  others : ∀ other, (Demand.finish, other) ∈ start.callers actions → other ≠ closer →
    (∀ entry ∈ start.calls actions, entry.1 ≠ other) ∧
      ∀ ending, relay.ending? other = some ending → ending = .finished

/-- Whoever completes a session is the one that completes all. -/
theorem completer_of_call {calls : List (TaskId × Call)} {closer : TaskId} {sessions : List String}
    (attempted : calls.filterMap completionOf = attempts closer sessions) {entry : TaskId × Call}
    (member : entry ∈ calls) (kind : entry.2.kind = .complete) : entry.1 = closer := by
  obtain ⟨task, call⟩ := entry
  cases call with
  | complete session completion =>
    -- The call is among the completions, and all of these are by one task.
    have found : (task, session, completion) ∈ attempts closer sessions :=
      attempted ▸ List.mem_filterMap.2 ⟨_, member, rfl⟩
    obtain ⟨other, -, same⟩ := List.mem_map.1 found
    exact (congrArg Prod.fst same).symm
  | _ => simp [Call.kind] at kind

section Runs

variable {config : Config} {start relay : Relay} {actions : List Action}

/-- However a relay runs that only opens sessions itself, the sessions at hand are those it opened. -/
theorem registered_of_run (fresh : Fresh config start) (ran : start.run actions = some relay)
    (own : OwnSessions actions) : Registered relay := by
  -- Sessions from elsewhere are left out, so whatever is registered was opened by the relay.
  refine run_induction (fun actions relay => OwnSessions actions → Registered relay)
    ?initial ?arrive ?register ?move ran own
  case initial =>
    refine fun _ => ⟨?_, fun task source request at_ => ?_⟩
    · -- At first there is no session, or one that was opened for the whole project.
      rcases fresh.sessions with
        ⟨-, journal, registry⟩ | ⟨-, request, session, -, journal, registry⟩
      · simp [sessions, opened, journal, registry, Registry.entries, Registry.empty,
          Dictionary.empty]
      · simp [sessions, opened, journal, registry, Registry.entries, Registry.empty, Registry.add,
          Dictionary.insert, Dictionary.place, Dictionary.empty, Exchange.opened?]
    · cases fresh.seeking at_
  case arrive =>
    intro past relay demand _ ih own
    have registered := ih own.earlier
    refine ⟨by simpa [sessions, opened] using registered.opened, fun task source request at_ => ?_⟩
    rw [stage?_arrive] at at_
    rw [registry_arrive, config_arrive]
    split at at_
    · -- A caller that has just arrived does not ask yet.
      have idle := isBusy_stage demand relay.config
      rw [Option.some.inj at_] at idle
      simp [Stage.isBusy] at idle
    · exact registered.asked task source request at_
  case register => exact fun past relay key session _ _ own => absurd (by simp) (own key session)
  case move =>
    intro past relay action task before after shared ran ih _ at_ move _ own
    have registered := ih own.earlier
    exact registered.move (attended_of_run fresh ran) at_ move

/-- However a relay runs that only opens sessions itself, they are completed in turn. -/
theorem completing_of_run (fresh : Fresh config start) (ran : start.run actions = some relay)
    (whole : WholeDemands actions) (own : OwnSessions actions) :
    Completing start actions relay := by
  refine run_induction (fun actions relay => WholeDemands actions → OwnSessions actions →
    Completing start actions relay) ?initial ?arrive ?register ?move ran whole own
  case initial =>
    refine fun _ _ => ⟨fun _ => ⟨rfl, ?_⟩, fun task stage at_ claim => ?_, fun task ending at_ => ?_⟩
    · -- At first there was at most a request for a session, and no completion.
      rcases fresh.sessions with ⟨-, journal, -⟩ | ⟨-, request, session, -, journal, -⟩ <;>
        simp [completions, journal, Exchange.completion?]
    · obtain rfl := fresh.seeking at_
      simp [Stage.isClosing] at claim
    · cases fresh.seeking at_
  case arrive =>
    intro past relay demand ran ih whole own
    have completing := ih whole.earlier own.earlier
    obtain ⟨-, -, notClosing, notThrough⟩ := idle_stage (whole demand (by simp)) relay.config
    have shown : start.calls (past ++ [.arrive demand]) = start.calls past :=
      watch_arrive ran demand
    have same := arrive_of_isWhole (whole demand (by simp)) relay
    -- The new caller is nowhere near the sessions, and for all others nothing has changed.
    constructor
    · intro idle
      rw [shown, same]
      refine completing.unbegun fun task stage at_ => idle task stage ?_
      rw [same]
      exact (List.getElem?_append_left (List.getElem?_eq_some_iff.1 at_).1).trans at_
    · refine stages_arrive (fun task stage at_ claim => ?_) fun claim => by
        simp [notClosing] at claim
      rw [shown, same]
      exact (completing.closing task stage at_ claim).same rfl rfl
    · intro task ending at_ role
      rw [stage?_arrive] at at_
      split at at_
      · rw [Option.some.inj at_] at notThrough
        simp [Stage.isThrough, role] at notThrough
      · obtain ⟨own, aside⟩ := completing.through task ending at_ role
        rw [shown, same]
        refine ⟨fun owner => ?_, aside⟩
        obtain ⟨failure, told, underway⟩ := own owner
        exact ⟨failure, told, underway.same rfl rfl⟩
  case register => exact fun past relay key session _ _ _ own => absurd (by simp) (own key session)
  case move =>
    intro past relay action task before after shared ran ih acts at_ move stepped whole own
    have completing := ih whole.earlier own.earlier
    exact completing.move (steered_of_run fresh ran whole.earlier) at_ move
      (watch_move ran acts at_ move stepped)

/-- One that finishes waits for the completion of a session or for no call. -/
theorem kind_of_finisher {stage : Stage} {call : Call} (waits : stage.call? = some call)
    (role : stage.role = .finisher) : call.kind = .complete := by
  cases stage with
  | completing session remaining failure =>
    obtain rfl : Call.complete session .success = call := by simpa [Stage.call?] using waits
    rfl
  | publishing | opening => simp [Stage.role] at role
  | _ => simp [Stage.call?] at waits

/-- Those that finish complete sessions and make no other calls. -/
theorem calls_of_finisher (ran : start.run actions = some relay) :
    ∀ entry ∈ start.calls actions, ∃ stage, relay.stage? entry.1 = some stage ∧
      (stage.role = .finisher → entry.2.kind = .complete) := by
  -- The induction is on the run; a call is remembered with the role of the task that made it.
  refine run_induction (fun actions relay => ∀ entry ∈ start.calls actions,
    ∃ stage, relay.stage? entry.1 = some stage ∧
      (stage.role = .finisher → entry.2.kind = .complete)) ?initial ?arrive ?register ?move ran
  case initial => exact fun entry member => absurd member List.not_mem_nil
  case arrive =>
    intro past relay demand ran ih entry member
    rw [calls, watch_arrive ran] at member
    obtain ⟨stage, at_, kind⟩ := ih entry member
    have inside := (List.getElem?_eq_some_iff.1 at_).1
    exact ⟨stage, by rw [stage?_arrive, if_neg (Nat.ne_of_lt inside), at_], kind⟩
  case register =>
    intro past relay key session ran ih entry member
    rw [calls, watch_register ran] at member
    exact ih entry member
  case move =>
    intro past relay action task before after shared ran ih acts at_ move stepped entry member
    rw [calls, watch_move ran acts at_ move stepped, List.mem_append] at member
    rw [move.stage? at_]
    rcases member with earlier | now
    · -- The task may have moved on since, but it kept its role.
      obtain ⟨stage, there, kind⟩ := ih entry earlier
      split
      · next same =>
        obtain rfl : before = stage := by simpa [same, at_] using there
        exact ⟨after, rfl, fun role => kind (move.role ▸ role)⟩
      · exact ⟨stage, there, kind⟩
    · -- A call that begins now is the one that the task waits for after its move.
      simp only [seeCall, List.mem_map, Option.mem_toList] at now
      obtain ⟨call, waits, rfl⟩ := now
      exact ⟨after, if_pos rfl, kind_of_finisher waits⟩

end Runs

/-- However callers bring sources and finish, by the time when one is told that all is finished each
session that was opened has been completed exactly once. -/
theorem sessions_closed_once {σ : Type} {config : Config} {service : Service σ} {state : σ}
    {start relay : Relay} {actions : List Action} {caller : TaskId} {ending : Ending}
    (launched : launch config service state = .ok start) (ran : start.run actions = some relay)
    (whole : WholeDemands actions) (own : OwnSessions actions)
    (arrived : (Demand.finish, caller) ∈ start.callers actions)
    (ended : relay.ending? caller = some ending) :
    ∃ closer, ClosedOnce start actions relay closer := by
  have fresh := fresh_of_launch launched
  have steered := steered_of_run fresh ran whole
  have completing := completing_of_run fresh ran whole own
  -- The one that has the workers is through, as another one could not have its answer otherwise.
  obtain ⟨there, role⟩ := ended_of_finish fresh ran arrived ended
  obtain ⟨-, done, idle⟩ := steered.through caller _ there (by simp [Stage.isThrough, role])
  obtain ⟨closer, stage, owner, at_, busy⟩ := steered.claimed done
  have through : stage.isThrough = true := by simpa [idle closer stage at_] using busy
  cases stage with
  | ended last =>
    have finisher : last.role = .finisher := by simpa [Stage.isThrough] using through
    obtain ⟨failure, rfl, called, all, rfl⟩ := (completing.through closer last at_ finisher).1 owner
    -- Nothing remains and nothing is due.
    have attempted : (start.calls actions).filterMap completionOf =
        attempts closer (relay.completions.map Prod.fst) := by simpa [attempts] using called
    have completed : (relay.completions.map Prod.fst).Perm relay.sessions := by simpa using all
    -- The closer is a task that finishes, and such a task came as a caller that wants to.
    have arrived_of : ∃ demand, (demand, closer) ∈ start.callers actions ∧
        demand.role = .finisher := by
      rcases caller_of_stage fresh ran at_ with ⟨-, worker⟩ | ⟨demand, arrived, same⟩
      · simp [Stage.role, finisher] at worker
      · exact ⟨demand, arrived, same.symm.trans finisher⟩
    obtain ⟨demand, came, wants⟩ := arrived_of
    refine ⟨closer, ?_, ?_, ?_, by simp [ending?, at_, Stage.ending?], fun other came differ => ?_⟩
    · cases demand <;> simp [Demand.role] at wants
      exact came
    · exact completed.trans (registered_of_run fresh ran own).opened
    · exact attempted
    · constructor
      · -- A call of another one that finishes would complete a session, and only the closer does.
        rintro entry member rfl
        obtain ⟨stage, there, kind⟩ := calls_of_finisher ran entry member
        obtain ⟨stage', there', role⟩ := stage_of_caller fresh ran came
        obtain rfl : stage' = stage := Option.some.inj (there'.symm.trans there)
        exact differ (completer_of_call attempted member (kind role))
      · intro ending ended
        obtain ⟨there, role⟩ := ended_of_finish fresh ran came ended
        refine (completing.through other ending there role).2 fun own => differ ?_
        simpa [owner] using own.symm
  | _ => simp [Stage.isThrough] at through

/-- In the rehearsal the caller that finishes is told of the session that was not completed. -/
theorem sessions_closed_once_in_rehearsal :
    ∃ start relay ending, launch rehearsalConfig Script.smooth.service 0 = .ok start ∧
      start.run rehearsal = some relay ∧ (Demand.finish, 3) ∈ start.callers rehearsal ∧
      relay.ending? 3 = some ending ∧ relay.opened = ["session-0", "session-1"] ∧
      ending = .failed (.sessionCompletionFailed "session-1" .transport) ∧
      ∃ closer, ClosedOnce start rehearsal relay closer := by
  -- The second session fails to complete, and the caller is told of it.
  obtain ⟨start, relay, launched, ran⟩ := exists_rehearsal
  have ended : relay.ending? 3 =
      some (.failed (.sessionCompletionFailed "session-1" .transport)) := by
    cases launched
    cases ran
    rfl
  have opened : relay.opened = ["session-0", "session-1"] := by
    cases launched
    cases ran
    rfl
  have arrived := finisher_of_rehearsal launched
  -- Who the closer is follows from the theorem.
  exact ⟨start, relay, _, launched, ran, arrived, ended, opened, rfl,
    sessions_closed_once launched ran (by decide) (by decide) arrived ended⟩

end Relay

end InsightRelay
