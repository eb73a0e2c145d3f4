import InsightRelay.Proofs.Relay.Approach
import Mathlib.Data.List.Perm.Subperm

/-! Ownership: a manifest whose path is new has a session opened for it before its records are counted,
and they are published in that session. -/

namespace InsightRelay.Relay

/-- The sessions that one caller asks for during a run. -/
def asksOf (start : Relay) (actions : List Action) (caller : TaskId) :
    List Message.CreateToolSessionRequest :=
  ((start.calls actions).filter fun entry => entry.1 == caller).filterMap creationOf

/-- Nobody else comes for a path before a caller, and no session is opened for all other paths. -/
structure Unclaimed (start : Relay) (actions : List Action) (caller : TaskId) (path : String) :
    Prop where
  first : ∀ other ∈ start.first? actions path, other = caller
  unshared : ∀ session, .opened globalKey session ∈ start.landmarks actions → path = globalKey

/-- What one caller has asked for that needs a session for its source. -/
structure Asking (start : Relay) (actions : List Action) (relay : Relay) (caller : TaskId)
    (request : Message.CreateToolSessionRequest) (stage : Stage) : Prop where
  waiting : stage.awaiting ≠ [] → start.asksOf actions caller = stage.asking
  /-- One that waits no longer has asked, unless the queue was closed when its turn came. -/
  served : stage.awaiting = [] → start.asksOf actions caller = [request] ∨
    relay.queue.closed = true ∧ start.acceptedBy actions caller = []

/-- Whoever waits for a session has no record counted yet. -/
theorem credit_of_awaiting {stage : Stage} (awaits : stage.awaiting ≠ []) : stage.credit = 0 := by
  cases stage with
  | arriving | atDesk | checking | opening => rfl
  | _ => exact absurd rfl awaits

/-- Whoever waits for no session asks for none. -/
theorem asking_of_served {stage : Stage} (served : stage.awaiting = []) : stage.asking = [] := by
  cases stage with
  | opening => simp [Stage.awaiting] at served
  | _ => rfl

section Moves

variable {start relay shared next : Relay} {past : List Action} {action : Action}
  {task caller : TaskId} {before after : Stage}

/-- What was unclaimed was so from the beginning. -/
theorem Unclaimed.earlier {path : String} {more : List Action}
    (ran : start.run past = some relay)
    (unclaimed : Unclaimed start (past ++ more) caller path) :
    Unclaimed start past caller path where
  first other came := unclaimed.first other <| by
    -- What comes later only adds to those that came.
    obtain ⟨approach, found, rfl⟩ := Option.map_eq_some_iff.1 came
    rw [first?, approaches, watch_append ran, ← approaches, List.find?_append, found]
    rfl
  unshared session opened := unclaimed.unshared session <| by
    rw [landmarks_append ran]
    exact List.mem_append_left _ opened

/-- A move asks for the session that its task waits for afterwards. -/
theorem Move.newAsk (move : Move relay task before after shared) :
    (relay.seeCall task before after).filterMap creationOf = after.asking := by
  cases move with
  | @refuse record errand => cases errand <;> rfl
  | @place errand => cases errand <;> rfl
  | @pass finishing => cases finishing <;> rfl
  | @joined finishing => cases finishing <;> rfl
  | _ => rfl

/-- A move of one caller asks for sessions of that caller only. -/
theorem asksOf_move (ran : start.run past = some relay) (acts : action.task? = some task)
    (at_ : relay.stage? task = some before) (move : Move relay task before after shared)
    (stepped : relay.step action = some (shared.withStage task after)) (caller : TaskId) :
    start.asksOf (past ++ [action]) caller = start.asksOf past caller ++
      if caller = task then after.asking else [] := by
  -- A call is entered under the mover, so that nobody else asks for anything.
  have own : (relay.seeCall task before after).filter (fun entry => entry.1 == caller) =
      if caller = task then relay.seeCall task before after else [] := by
    by_cases same : caller = task
    · simp [seeCall, same]
    · cases call : after.call? <;> simp [seeCall, call, same, Ne.symm same]
  rw [asksOf, calls, watch_move ran acts at_ move stepped, List.filter_append,
    List.filterMap_append, ← calls, ← asksOf, own]
  split
  · rw [move.newAsk]
  · rfl

/-- A caller that waits for no session has asked before, or the queue has been closed. -/
private theorem Asking.idle {request : Message.CreateToolSessionRequest}
    (asking : Asking start past relay caller request before) (served : before.awaiting = [])
    (move : Move relay caller before after shared) (asks : start.asksOf (past ++ [action]) caller =
      start.asksOf past caller ++ after.asking)
    (accepts : start.acceptedBy (past ++ [action]) caller = start.acceptedBy past caller ++
      (relay.seeAccepted caller before after).map Prod.snd) :
    Asking start (past ++ [action]) (shared.withStage caller after) caller request after := by
  have still : after.awaiting = [] := List.eq_nil_iff_forall_not_mem.2 fun source awaits => by
    simpa [served] using move.awaiting awaits
  refine ⟨fun waits => absurd still waits, fun _ => ?_⟩
  rw [asks, asking_of_served still, List.append_nil]
  -- Where the queue is closed it stays so, and no record is counted.
  rcases asking.served served with asked | ⟨closed, none_⟩
  · exact .inl asked
  · exact .inr ⟨move.closed closed, by rw [accepts, none_, move.unaccepted closed]; rfl⟩

/-- A caller that waits for a session asks for it when it is its turn. -/
private theorem Asking.awaiting {request : Message.CreateToolSessionRequest} {source : Source}
    (asking : Asking start past relay caller request before) (awaits : source ∈ before.awaiting)
    (move : Move relay caller before after shared)
    (unserved : relay.registry.contains source.origin.path = false)
    (written : relay.config.sessionRequest source.origin.shownPath = .ok request)
    (asked : ∀ other ∈ before.asking, other = request)
    (asks : start.asksOf (past ++ [action]) caller = start.asksOf past caller ++ after.asking)
    (accepts : start.acceptedBy (past ++ [action]) caller =
      (relay.seeAccepted caller before after).map Prod.snd) :
    Asking start (past ++ [action]) (shared.withStage caller after) caller request after := by
  have earlier := asking.waiting (List.ne_nil_of_mem awaits)
  rw [earlier] at asks
  -- It goes on to the desk, finds the queue closed there, or asks and is replied to.
  cases move with
  | approach | enter | ask => exact ⟨fun _ => asks, fun served => by simp [Stage.awaiting] at served⟩
  | shut first closed => exact ⟨fun waits => absurd rfl waits, fun _ => .inr ⟨closed, accepts⟩⟩
  | known served =>
    obtain rfl := List.mem_singleton.1 awaits
    simp [unserved] at served
  -- The request can be written, so it is sent.
  | unasked refused =>
    obtain rfl := List.mem_singleton.1 awaits
    simp [written] at refused
  | opened | unopened =>
    refine ⟨fun waits => absurd rfl waits, fun _ => .inl ?_⟩
    rw [asks, ← asked _ (List.mem_singleton_self _)]
    rfl
  | _ => simp [Stage.awaiting] at awaits

end Moves

section Runs

variable {config : Config} {start relay : Relay} {actions : List Action}

/-- Whoever awaits a session awaits it for the source that it came with. -/
theorem source_of_caller (fresh : Fresh config start) (ran : start.run actions = some relay)
    {brought : Source} {caller : TaskId}
    (arrived : (Demand.bring brought, caller) ∈ start.callers actions) {stage : Stage}
    (at_ : relay.stage? caller = some stage) : ∀ source ∈ stage.awaiting, source = brought := by
  -- No stage behind the first awaits a session for another source.
  refine caller_induction fresh (fun _ _ stage => ∀ source ∈ stage.awaiting, source = brought)
    ?come ?arrive ?register ?own ?others ran arrived at_
  case come => exact fun past relay _ _ source awaits => List.mem_singleton.1 (awaiting_stage awaits)
  case own =>
    exact fun past relay action before after shared _ _ ih _ _ move _ source awaits =>
      ih source (move.awaiting awaits)
  case arrive => exact fun past relay _ stage _ _ ih => ih
  case register => exact fun past relay _ _ stage _ _ ih => ih
  case others => exact fun past relay _ _ _ _ _ stage _ _ ih _ _ _ _ _ => ih

/-- A caller that is at work with a path that is unclaimed finds no session for it. -/
theorem unserved_of_unclaimed (fresh : Fresh config start) (multi : config.multiProject = true)
    (ran : start.run actions = some relay) (own : OwnSessions actions)
    (whole : WholeDemands actions) {caller : TaskId} {stage : Stage} {source : Source}
    (at_ : relay.stage? caller = some stage) (awaits : source ∈ stage.awaiting)
    (unclaimed : Unclaimed start actions caller source.origin.path) :
    relay.registry.contains source.origin.path = false := by
  have recorded := recorded_of_run fresh multi ran own
  have unopened := unopened_of_first fresh ran whole at_ awaits unclaimed.first
  -- A session for all paths would be one for this path, as far as there is one.
  cases found : relay.registry.session? source.origin.path with
  | none => simp [Registry.contains_eq, found]
  | some session =>
    have named := congrArg (Option.map Session.id) found
    rcases (recorded.session? _ session.id).1 named with shared | ⟨-, opened⟩
    · exact absurd (unclaimed.unshared session.id shared ▸ shared) (unopened session.id)
    · exact absurd opened (unopened session.id)

/-- One that comes to a desk where each source needs a session has not asked for it yet. -/
private theorem Asking.come (multi : config.multiProject = true)
    (ran : start.run actions = some relay) (source : Source)
    (request : Message.CreateToolSessionRequest) :
    Asking start (actions ++ [.arrive (.bring source)]) (relay.arrive (.bring source)).1
      relay.tasks.length request ((Demand.bring source).stage config) := by
  -- Whoever makes a call is one of the tasks, and the new one is not there yet.
  have none_ : start.asksOf (actions ++ [.arrive (.bring source)]) relay.tasks.length = [] := by
    rw [asksOf, calls, watch_arrive ran, ← calls, List.filter_eq_nil_iff.2, List.filterMap_nil]
    intro entry member same
    obtain ⟨stage, at_, -⟩ := calls_of_finisher ran entry member
    have inside := (List.getElem?_eq_some_iff.1 at_).1
    exact absurd (eq_of_beq same) (Nat.ne_of_lt inside)
  simp only [Demand.stage, multi, if_true]
  exact ⟨fun _ => none_, fun served => by simp [Stage.awaiting] at served⟩

/-- Whoever asks for a session asks for it with the request for its source. -/
private theorem eq_of_asking (registered : Registered relay) {caller : TaskId} {stage : Stage}
    (at_ : relay.stage? caller = some stage) {source : Source} (awaits : source ∈ stage.awaiting)
    {request other : Message.CreateToolSessionRequest}
    (written : relay.config.sessionRequest source.origin.shownPath = .ok request)
    (asks : other ∈ stage.asking) : other = request := by
  -- Only one that waits for the reply asks, and it waits for the session of what it brings.
  cases stage with
  | opening brought sent =>
    obtain rfl := List.mem_singleton.1 asks
    obtain rfl := List.mem_singleton.1 awaits
    exact Except.ok.inj ((registered.asked caller _ _ at_).2.symm.trans written)
  | _ => simp [Stage.asking] at asks

/-- However a run goes, a caller whose path is unclaimed asks for its session before all else. -/
theorem asking_of_run (fresh : Fresh config start) (multi : config.multiProject = true)
    (ran : start.run actions = some relay) (own : OwnSessions actions)
    (whole : WholeDemands actions) {caller : TaskId} {source : Source}
    (arrived : (Demand.bring source, caller) ∈ start.callers actions)
    {request : Message.CreateToolSessionRequest}
    (written : config.sessionRequest source.origin.shownPath = .ok request)
    (unclaimed : Unclaimed start actions caller source.origin.path) {stage : Stage}
    (at_ : relay.stage? caller = some stage) :
    Asking start actions relay caller request stage := by
  -- Only the moves of the caller itself matter, as nobody else opens a session for its path.
  refine caller_induction fresh (fun actions relay stage => OwnSessions actions →
    WholeDemands actions → Unclaimed start actions caller source.origin.path →
      Asking start actions relay caller request stage)
    ?come ?arrive ?register ?own ?others ran arrived at_ own whole unclaimed
  case come =>
    rintro past relay began rfl - - -
    rw [config_of_run began, fresh.config_eq]
    exact .come multi began source request
  case arrive =>
    intro past relay other stage began _ ih own whole unclaimed
    have asking := ih own.earlier whole.earlier (unclaimed.earlier began)
    have asks : start.asksOf (past ++ [.arrive other]) caller = start.asksOf past caller := by
      rw [asksOf, calls, watch_arrive began, ← calls, asksOf]
    refine ⟨fun waits => asks.trans (asking.waiting waits), fun served => ?_⟩
    rw [asks, acceptedBy_arrive began, queue_arrive]
    exact asking.served served
  case register =>
    exact fun past relay key session stage _ _ _ own => absurd (by simp) (own key session)
  case own =>
    intro past relay action before after shared began arrived ih acts at_ move stepped own whole
      unclaimed
    have earlier := unclaimed.earlier began
    have asking := ih own.earlier whole.earlier earlier
    have asks := asksOf_move began acts at_ move stepped caller
    have accepts := acceptedBy_move began acts at_ move stepped caller
    rw [if_pos rfl] at asks accepts
    -- Before it is served it has to ask, and afterwards nothing about its session changes.
    by_cases served : before.awaiting = []
    · exact asking.idle served move asks accepts
    · -- What it waits for is its own source, and there is no session for that yet.
      obtain ⟨found, awaits⟩ := List.exists_mem_of_ne_nil _ served
      obtain rfl := source_of_caller fresh began arrived at_ found awaits
      have none_ : start.acceptedBy past caller = [] := by
        refine List.eq_nil_of_length_eq_zero ?_
        rw [credited_of_run fresh began, at_, Option.elim_some, credit_of_awaiting served]
      rw [none_, List.nil_append] at accepts
      have written' : relay.config.sessionRequest found.origin.shownPath = .ok request := by
        rw [config_of_run began, fresh.config_eq, written]
      have asked : ∀ other ∈ before.asking, other = request := fun other asked =>
        eq_of_asking (registered_of_run fresh began own.earlier) at_ awaits written' asked
      exact asking.awaiting awaits move (unserved_of_unclaimed fresh multi began own.earlier
        whole.earlier at_ awaits earlier) written' asked asks accepts
  case others =>
    intro past relay action task before after shared stage began _ ih differ acts at_ move stepped
      own whole unclaimed
    have asking := ih own.earlier whole.earlier (unclaimed.earlier began)
    have asks := asksOf_move began acts at_ move stepped caller
    have accepts := acceptedBy_move began acts at_ move stepped caller
    rw [if_neg differ, List.append_nil] at asks accepts
    refine ⟨fun waits => asks.trans (asking.waiting waits), fun served => ?_⟩
    rw [asks, accepts]
    -- Nobody opens the queue again once it is closed.
    exact (asking.served served).imp_right (And.imp_left move.closed)

/-- The reply that grants a session to one that brings a source opens it for the path of that source. -/
theorem move_of_granted {next : Relay} {caller : TaskId} {source : Source} {session : String}
    {request : Message.CreateToolSessionRequest}
    (at_ : relay.stage? caller = some (.opening source request))
    (stepped : relay.step (.answer caller (.granted session)) = some next) :
    ∃ shared, Move relay caller (.opening source request) (.queueing source.batch) shared ∧
      next = shared.withStage caller (.queueing source.batch) ∧
      relay.passed shared caller (.opening source request) (.queueing source.batch) =
        [.opened source.origin.path session] := by
  obtain rfl := by simpa [step, answer, call?, at_, Stage.call?, settleCall] using stepped
  refine ⟨_, .opened session,
    rfl, ?_⟩
  simp [passed, opened, Exchange.opened?]

/-- One that brings a source and is granted a session has asked for it. -/
theorem opening_of_granted (fresh : Fresh config start) (ran : start.run actions = some relay)
    {next : Relay} {brought : Source} {caller : TaskId} {session : String}
    (arrived : (Demand.bring brought, caller) ∈ start.callers actions)
    (stepped : relay.step (.answer caller (.granted session)) = some next) :
    ∃ request, relay.stage? caller = some (.opening brought request) := by
  obtain ⟨stage, at_, role⟩ := stage_of_caller fresh ran arrived
  have sources := source_of_caller fresh ran arrived at_
  -- Whoever is replied to waits for a call, and of these only one kind is for such callers.
  cases stage with
  | opening source request =>
    obtain rfl := sources source (List.mem_singleton_self _)
    exact ⟨request, at_⟩
  -- Only workers publish, and only one that finishes completes.
  | publishing => simp [Stage.role, Demand.role] at role
  | completing session remaining failure =>
    cases failure with
    | none => simp [Stage.role, Ending.ofFailure, Ending.role, Demand.role] at role
    | some problem =>
      simp only [Stage.role, Ending.ofFailure, Ending.role, Demand.role] at role
      split at role <;> simp at role
  | _ => simp [step, answer, call?, at_, Stage.call?] at stepped

/-- One that has come by the end of a run and is there at some moment has come before that moment. -/
theorem mem_callers_of_stage {past more : List Action}
    (ran : start.run past = some relay) {demand : Demand} {caller : TaskId}
    (arrived : (demand, caller) ∈ start.callers (past ++ more)) {stage : Stage}
    (at_ : relay.stage? caller = some stage) : (demand, caller) ∈ start.callers past := by
  -- Callers are named in their order, so one that is named already is among the first.
  have inside := (List.getElem?_eq_some_iff.1 at_).1
  rw [length_of_run ran] at inside
  rw [callers, List.mk_mem_zipIdx_iff_le_and_getElem?_sub, List.filterMap_append] at arrived
  obtain ⟨late, found⟩ := arrived
  rw [List.getElem?_append_left (by omega)] at found
  rw [callers, List.mk_mem_zipIdx_iff_le_and_getElem?_sub]
  exact ⟨late, found⟩

/-- After a session was opened for an unclaimed path, all records of the path go there. -/
theorem session_of_route (fresh : Fresh config start) (multi : config.multiProject = true)
    {past more : List Action} {next : Relay} (began : start.run past = some next)
    (ran : start.run (past ++ more) = some relay) (own : OwnSessions (past ++ more))
    {path session : String} (opened : .opened path session ∈ start.landmarks past)
    (unshared : ∀ shared, .opened globalKey shared ∈ start.landmarks (past ++ more) →
      path = globalKey) {route : Route} (routed : route ∈ next.routed more)
    (same : route.record.origin.path = path) : route.session = some session := by
  have goes : next.run more = some relay := by rwa [← run_append began]
  rw [routes_of_run goes] at routed
  obtain ⟨mark, member, shown⟩ := List.mem_filterMap.1 routed
  obtain rfl : mark = .routed route := by
    cases mark with
    | routed found =>
      obtain rfl : found = route := by simpa [Landmark.route?] using shown
      rfl
    | _ => simp [Landmark.route?] at shown
  -- The route comes after the opening, and a session for all paths could only be this one.
  obtain ⟨before, after, split⟩ := List.append_of_mem member
  have whole : start.landmarks (past ++ more) =
      (start.landmarks past ++ before) ++ .routed route :: after := by
    rw [landmarks_append began, split, List.append_assoc]
  have recorded := recorded_of_run fresh multi ran own
  refine (recorded.directed _ route after whole session).2 ?_
  -- The session is for the path itself, and no other one is looked at first.
  by_cases all : path = globalKey
  · exact .inl (List.mem_append_left _ (all ▸ opened))
  · refine .inr ⟨fun shared found => all (unshared shared ?_), ?_⟩
    · rw [whole]
      exact List.mem_append_left _ found
    · exact List.mem_append_left _ (same ▸ opened)

/-- No record is looked up a session for more often than it is counted. -/
theorem count_routed_le (fresh : Fresh config start) (ran : start.run actions = some relay)
    (record : PackageRecord) : ((start.routed actions).map Route.record).count record ≤
      ((start.accepted actions).map Prod.snd).count record := by
  have traced := traced_of_run fresh ran
  -- Each worker looks up a session for what it has taken, and takes what was counted.
  obtain ⟨part, same, taken⟩ : List.Subperm
      ((start.routed actions).map fun route => (route.worker, route.record))
      (start.dispatched actions) :=
    List.subperm_ext_iff.2 fun entry _ => by
      have balance := traced.dispatched entry
      omega
  -- Both sides are compared through what the workers have taken.
  have counted := traced.accepted record
  calc ((start.routed actions).map Route.record).count record
      = (((start.routed actions).map fun route => (route.worker, route.record)).map
          Prod.snd).count record := by rw [List.map_map]; rfl
    _ = (part.map Prod.snd).count record := (same.map Prod.snd).count_eq record |>.symm
    _ ≤ ((start.dispatched actions).map Prod.snd).count record :=
        (taken.map Prod.snd).count_le record
    _ ≤ ((start.accepted actions).map Prod.snd).count record := by omega

/-- When all is finished, each record that was counted since some moment was looked up a session for
since then. -/
theorem routed_since (fresh : Fresh config start) {past more : List Action} {next : Relay}
    (began : start.run past = some next)
    (once : ExactlyOnce start (past ++ more) relay) {caller : TaskId} {record : PackageRecord}
    (none_ : start.acceptedBy past caller = [])
    (counted : record ∈ start.acceptedBy (past ++ more) caller) :
    ∃ route ∈ next.routed more, route.record = record := by
  -- Until then fewer were looked up than are counted in the end.
  have before := count_routed_le fresh began record
  have accepted : start.accepted (past ++ more) = start.accepted past ++ next.accepted more :=
    watch_append began more
  have routed : start.routed (past ++ more) = start.routed past ++ next.routed more :=
    watch_append began more
  have later : 0 < ((next.accepted more).map Prod.snd).count record := by
    rw [acceptedBy, accepted, List.filter_append, List.map_append, ← acceptedBy, none_,
      List.nil_append] at counted
    obtain ⟨entry, member, rfl⟩ := List.mem_map.1 counted
    exact List.count_pos_iff.2 (List.mem_map_of_mem (List.mem_filter.1 member).1)
  -- In the end the two counts are the same, and each is that of before and that of since then.
  have all := (once.dispatched.trans (once.routed.map Prod.snd)).count_eq record
  rw [accepted, routed, List.map_map, List.map_append, List.map_append, List.count_append,
    List.count_append] at all
  have found : 0 < ((next.routed more).map Route.record).count record := by
    have shape : (Prod.snd ∘ fun route : Route => (route.worker, route.record)) = Route.record := rfl
    rw [shape] at all
    omega
  exact List.mem_map.1 (List.count_pos_iff.1 found)

/-- What is counted of a manifest comes from there. -/
theorem origin_of_counted (fresh : Fresh config start) (ran : start.run actions = some relay)
    {manifest : Manifest} {caller : TaskId}
    (arrived : (Demand.addManifest manifest, caller) ∈ start.callers actions)
    {record : PackageRecord} (counted : record ∈ start.acceptedBy actions caller) :
    record.origin = manifest.origin := by
  obtain ⟨stage, at_, -⟩ := stage_of_caller fresh ran arrived
  have brought := brought_of_run fresh ran arrived at_
  exact Manifest.origin_of_goods (brought.subset (List.mem_append_left _ counted))

/-- Where a session is found for a record, the record is published there. -/
theorem call_of_route (ran : start.run actions = some relay) {route : Route}
    (routed : route ∈ start.routed actions) {session : String}
    (found : route.session = some session) :
    (route.worker, Call.publish (route.record.request session)) ∈ start.calls actions := by
  -- The publications among the calls are those of the routes that have a session.
  have publication : (route.worker, route.record.request session) ∈
      (start.calls actions).filterMap publicationOf := by
    rw [publications_of_run ran]
    exact List.mem_filterMap.2 ⟨route, routed, by simp [publication?, Route.request?, found]⟩
  obtain ⟨⟨worker, call⟩, called, published⟩ := List.mem_filterMap.1 publication
  cases call with
  | publish request =>
    obtain ⟨rfl, rfl⟩ := by simpa [publicationOf] using published
    exact called
  | _ => simp [publicationOf] at published

end Runs

/-- What becomes of the records of a caller after it was granted a session. -/
structure GrantKept (start : Relay) (past : List Action) (next : Relay) (more : List Action)
    (relay : Relay) (caller : TaskId) (path session : String) : Prop where
  /-- None of its records was counted before. -/
  unaccepted : start.acceptedBy past caller = []
  /-- From then on all records of the path go to that session. -/
  routes : ∀ route ∈ next.routed more, route.record.origin.path = path →
    route.session = some session
  /-- When all is finished, each record of the caller has been published there. -/
  published : ∀ closer ending, (Demand.finish, closer) ∈ start.callers (past ++ more) →
    relay.ending? closer = some ending →
    ∀ record ∈ start.acceptedBy (past ++ more) caller,
      ∃ worker, (worker, Call.publish (record.request session)) ∈ next.calls more

/-- A caller has a session of its own opened for its manifest. -/
structure HasOwnSession (start : Relay) (actions : List Action) (relay : Relay) (caller : TaskId)
    (manifest : Manifest) (request : Message.CreateToolSessionRequest) : Prop where
  /-- The session is asked for under the path that is shown of the manifest. -/
  named : request.projectName = manifest.origin.shownPath
  /-- At no time is a record of the caller counted before it has asked for the session. -/
  asked : ∀ past ∈ actions.inits, start.acceptedBy past caller ≠ [] →
    start.asksOf past caller = [request]
  /-- It has asked when it leaves the desk, as long as the queue is open. -/
  asks : ∀ past ∈ actions.inits, ∀ earlier ∈ start.run past, earlier.queue.closed = false →
    ∀ stage ∈ earlier.stage? caller, stage.awaiting = [] → start.asksOf past caller = [request]
  /-- All that is counted of it is of the manifest. -/
  origin : ∀ record ∈ start.acceptedBy actions caller, record.origin = manifest.origin
  granted : ∀ past session more next, actions = past ++ .answer caller (.granted session) :: more →
    start.run (past ++ [.answer caller (.granted session)]) = some next →
    GrantKept start (past ++ [.answer caller (.granted session)]) next more relay caller
      manifest.path session

section Granting

variable {config : Config} {start relay next : Relay} {past more : List Action}
  {manifest : Manifest} {caller : TaskId} {session : String}

/-- One that brings a manifest and is granted a session had no record counted before. -/
theorem opened_of_granted (fresh : Fresh config start)
    (began : start.run (past ++ [.answer caller (.granted session)]) = some next)
    (arrived : (Demand.addManifest manifest, caller) ∈
      start.callers (past ++ .answer caller (.granted session) :: more)) :
    .opened manifest.path session ∈
        start.landmarks (past ++ [.answer caller (.granted session)]) ∧
      start.acceptedBy (past ++ [.answer caller (.granted session)]) caller = [] := by
  obtain ⟨earlier, before, stepped⟩ := run_snoc.1 began
  have came : (Demand.addManifest manifest, caller) ∈ start.callers past := by
    -- A reply needs somebody to reply to.
    cases there : earlier.stage? caller with
    | none => simp [step, answer, call?, there] at stepped
    | some stage => exact mem_callers_of_stage before arrived there
  -- So far it has waited for the session, and with the reply nothing is counted.
  obtain ⟨sent, at_⟩ := opening_of_granted fresh before came stepped
  obtain ⟨shared, move, rfl, passed⟩ := move_of_granted at_ stepped
  have credited := credited_of_run fresh before caller
  rw [at_, Option.elim_some] at credited
  rw [landmarks_move before rfl at_ move stepped, passed,
    acceptedBy_move before rfl at_ move stepped, List.eq_nil_of_length_eq_zero credited]
  exact ⟨List.mem_append_right _ (List.mem_singleton_self _), by simp [seeAccepted]⟩

/-- The session that a caller is granted for an unclaimed path is kept for its records. -/
theorem grantKept_of_run (fresh : Fresh config start) (multi : config.multiProject = true)
    (ran : start.run (past ++ .answer caller (.granted session) :: more) = some relay)
    (own : OwnSessions (past ++ .answer caller (.granted session) :: more))
    (whole : WholeDemands (past ++ .answer caller (.granted session) :: more))
    (arrived : (Demand.addManifest manifest, caller) ∈
      start.callers (past ++ .answer caller (.granted session) :: more))
    (unclaimed : Unclaimed start (past ++ .answer caller (.granted session) :: more) caller
      manifest.path)
    (began : start.run (past ++ [.answer caller (.granted session)]) = some next) :
    GrantKept start (past ++ [.answer caller (.granted session)]) next more relay caller
      manifest.path session := by
  obtain ⟨opened, unaccepted⟩ := opened_of_granted fresh began arrived
  have split : past ++ .answer caller (.granted session) :: more =
      (past ++ [.answer caller (.granted session)]) ++ more := by simp
  rw [split] at ran own whole arrived unclaimed
  have routes : ∀ route ∈ next.routed more, route.record.origin.path = manifest.path →
      route.session = some session := fun route routed same =>
    session_of_route fresh multi began ran own opened unclaimed.unshared routed same
  refine ⟨unaccepted, routes, fun closer ending finished ended record counted => ?_⟩
  -- What was counted since then was looked up a session for since then, and published there.
  have once := exactlyOnce_of_finish fresh ran whole finished ended
  obtain ⟨route, routed, rfl⟩ := routed_since fresh began once unaccepted counted
  have origin := origin_of_counted fresh ran arrived counted
  have found := routes route routed (congrArg ManifestOrigin.path origin)
  have goes : next.run more = some relay := by rwa [← run_append began]
  -- The call is that of the worker that looked the session up.
  exact ⟨route.worker, call_of_route goes routed found⟩

end Granting

/-- A request for a session tells the project that it is for. -/
theorem projectName_of_sessionRequest {config : Config} {project : String}
    {request : Message.CreateToolSessionRequest}
    (written : config.sessionRequest project = .ok request) : request.projectName = project := by
  cases named : config.toolTrigger <;>
    simp [Config.sessionRequest, named, Except.mapError, bind, Except.bind, pure, Except.pure]
      at written
  exact written ▸ rfl

/-- However callers bring sources, a manifest whose path is new has a session opened for it before its
records are counted, and for all of them, where no session is opened for all paths. -/
theorem new_path_has_own_session {σ : Type} {config : Config} {service : Service σ} {state : σ}
    {start relay : Relay} {actions : List Action} {manifest : Manifest} {caller : TaskId}
    (launched : launch config service state = .ok start) (multi : config.multiProject = true)
    (ran : start.run actions = some relay) (own : OwnSessions actions)
    (whole : WholeDemands actions)
    (arrived : (Demand.addManifest manifest, caller) ∈ start.callers actions)
    (unclaimed : Unclaimed start actions caller manifest.path) :
    ∃ request, HasOwnSession start actions relay caller manifest request := by
  have fresh := fresh_of_launch launched
  obtain ⟨request, written⟩ := askable_of_launch launched manifest.origin.shownPath
  -- At each moment the caller is as far as its stage then says.
  have asking {past : List Action} (member : past ∈ actions.inits) {earlier : Relay}
      (began : start.run past = some earlier) {stage : Stage}
      (at_ : earlier.stage? caller = some stage) :
      Asking start past earlier caller request stage := by
    obtain ⟨more, rfl⟩ := (List.mem_inits ..).1 member
    exact asking_of_run fresh multi began
      (fun key session inside => own key session (List.mem_append_left _ inside))
      (fun demand inside => whole demand (List.mem_append_left _ inside))
      (mem_callers_of_stage began arrived at_) written (unclaimed.earlier began) at_
  refine ⟨request, projectName_of_sessionRequest written, ?asked, ?asks,
    fun record => origin_of_counted fresh ran arrived, ?granted⟩
  case asked =>
    intro past member counted
    obtain ⟨more, rfl⟩ := (List.mem_inits ..).1 member
    obtain ⟨earlier, began, -⟩ := Option.bind_eq_some_iff.1 ((List.foldlM_append ..).symm.trans ran)
    -- Whoever has a record counted is a task that waits for no session.
    have credited := credited_of_run fresh began caller
    cases at_ : earlier.stage? caller with
    | none => simp [at_, counted] at credited
    | some stage =>
      have served : stage.awaiting = [] := by
        by_contra awaits
        simp [at_, credit_of_awaiting awaits, counted] at credited
      rcases (asking member began at_).served served with asked | ⟨-, none_⟩
      · exact asked
      · exact absurd none_ counted
  case asks =>
    -- A queue that is still open refuses nothing, so to be served is to have asked.
    intro past member earlier began open_ stage at_ served
    rcases (asking member began at_).served served with asked | ⟨closed, -⟩
    · exact asked
    · simp [open_] at closed
  case granted =>
    rintro past session more next rfl began
    exact grantKept_of_run fresh multi ran own whole arrived unclaimed began

/-- In the rehearsal the second manifest is the first of its path, and its record goes to the session
that was opened for it. -/
theorem new_path_has_own_session_in_rehearsal : ∃ start relay request,
    launch rehearsalConfig Script.smooth.service 0 = .ok start ∧
      start.run rehearsal = some relay ∧ HasOwnSession start rehearsal relay 2 coreManifest request ∧
      (start.routed rehearsal).map Route.session = [some "session-0", some "session-1"] := by
  -- That the second manifest is the first of its path is found by evaluation, as are its routes.
  obtain ⟨start, relay, launched, ran⟩ := exists_rehearsal
  have came : (Demand.addManifest coreManifest, 2) ∈ start.callers rehearsal := by
    cases launched
    exact .tail _ (.head _)
  have first : ∀ other ∈ start.first? rehearsal coreManifest.path, other = 2 := by
    cases launched
    decide
  have routes : (start.routed rehearsal).map Route.session =
      [some "session-0", some "session-1"] := by
    cases launched
    rfl
  -- No session is opened for all paths, as neither manifest has the path that stands for all of them.
  have unshared := unshared_of_run (fresh_of_launch launched) ran (by decide)
  obtain ⟨request, own⟩ := new_path_has_own_session launched rfl ran (by decide) (by decide) came
    ⟨first, fun session shared => absurd shared (unshared session)⟩
  exact ⟨start, relay, request, launched, ran, own, routes⟩

/-- A manifest to rehearse with whose path is the key for all others. -/
def starManifest : Manifest := { webManifest with path := globalKey }

/-- A run in which a manifest with the key for all others as its path comes before another one.

The worker is task 0, and the manifests are brought by tasks 1 and 2. -/
def rehearsalOfSharing : List Action :=
  [.arrive (.addManifest starManifest)] ++ steps 1 3 ++ [.answer 1 (.granted "session-0")] ++
  steps 1 6 ++ steps 0 3 ++ [.answer 0 (.granted "")] ++
  [.arrive (.addManifest coreManifest)] ++ steps 2 8 ++ steps 0 3

/-- The second manifest is the first of its path, and no session is asked for it; its record goes to the
session of the first. -/
theorem new_path_shares_session : ∃ start relay record,
    launch rehearsalConfig Script.smooth.service 0 = .ok start ∧
      start.run rehearsalOfSharing = some relay ∧ relay.queue.closed = false ∧
      start.first? rehearsalOfSharing coreManifest.path = some 2 ∧
      relay.ending? 2 = some (.queued 1) ∧ start.asksOf rehearsalOfSharing 2 = [] ∧
      start.acceptedBy rehearsalOfSharing 2 = [record] ∧
      relay.call? 0 = some (.publish (record.request "session-0")) := by
  -- The path of the first manifest is the key for all others, so its session serves the second.
  have launched : launch rehearsalConfig Script.smooth.service 0 = .ok _ := rfl
  exact ⟨_, _, _, launched, rfl, rfl, rfl, rfl, rfl, rfl, rfl⟩

end InsightRelay.Relay
