import InsightRelay.Proofs.Relay.Passage

/-! Order: while callers come in turn, records go through a relay in the order in which they are
brought, and sessions are opened in the order of their manifests. -/

namespace InsightRelay.Relay

/-- How the records and sessions of the sources that were served stand to what callers have
brought. -/
structure InOrder (config : Config) (conduct : Conduct) (start : Relay) (actions : List Action)
    (relay : Relay) (served : List Source) : Prop where
  /-- All sources are served in turn, and the last one may still need a session. -/
  sources : served ++ relay.across Stage.awaiting =
    (actions.filterMap Action.demand?).flatMap Demand.sources
  /-- Records go from the sources through the line and the buffer to the workers. -/
  records : (start.dispatched actions).map Prod.snd ++ relay.queue.buffer ++
      relay.queue.submitters.map Prod.snd ++ relay.across Stage.unlined =
    served.flatMap Source.goods
  requests : relay.created = (Ledger.serveAll config conduct (served.map Source.origin)).requests
  calls : start.created ++ (start.calls actions).filterMap creationOf =
    relay.created ++ relay.across Stage.asking
  sessions : ∀ key, (relay.registry.sessions.get? key).map Session.id =
    (Ledger.serveAll config conduct (served.map Source.origin)).session? key
  single : config.multiProject = false → relay.across Stage.awaiting = []

namespace InOrder

variable {config : Config} {conduct : Conduct} {start relay shared : Relay} {past : List Action}
  {action : Action} {task : TaskId} {before after : Stage} {served : List Source}

/-- The registry gives each manifest the session that the ledger has for it. -/
theorem session? (inOrder : InOrder config conduct start past relay served)
    (plain : config.multiProject = true → ∀ source ∈ served, source.origin.path ≠ globalKey)
    (origin : ManifestOrigin) : (relay.registry.session? origin.path).map Session.id =
      (Ledger.serveAll config conduct (served.map Source.origin)).session?
        (Ledger.key config origin) := by
  rw [Registry.session?, Option.orElse_eq_orElse, Option.orElse_eq_or, Option.map_or,
    inOrder.sessions, inOrder.sessions, Ledger.key]
  -- The registry looks for a session for all keys first.
  cases mode : config.multiProject with
  | true =>
    have none_ : (Ledger.serveAll config conduct (served.map Source.origin)).session? globalKey =
        none := Ledger.session?_globalKey mode (by simpa using plain mode)
    simp [none_]
  | false =>
    have some_ : (Ledger.serveAll config conduct (served.map Source.origin)).session? globalKey =
        some (conduct.session 0) := Ledger.session?_single mode
    simp [some_]

/-- A manifest that has a session needs no other one. -/
private theorem serveAll_known (inOrder : InOrder config conduct start past relay served)
    (plain : config.multiProject = true → ∀ source ∈ served, source.origin.path ≠ globalKey)
    {source : Source} (known : relay.registry.contains source.origin.path = true) :
    Ledger.serveAll config conduct ((served ++ [source]).map Source.origin) =
      Ledger.serveAll config conduct (served.map Source.origin) := by
  -- What the registry knows the ledger knows too, so it opens nothing.
  rw [Registry.contains_eq, ← Option.isSome_map, inOrder.session? plain] at known
  obtain ⟨session, found⟩ := Option.isSome_iff_exists.1 known
  rw [List.map_append, List.map_singleton, Ledger.serveAll_snoc, Ledger.serve, found]

/-- A manifest without a session gets the next one that the service opens. -/
private theorem serveAll_opened (inOrder : InOrder config conduct start past relay served)
    (plain : config.multiProject = true → ∀ source ∈ served, source.origin.path ≠ globalKey)
    {source : Source} (absent : relay.registry.contains source.origin.path = false)
    {request : Message.CreateToolSessionRequest}
    (written : config.sessionRequest source.origin.shownPath = .ok request) :
    Ledger.serveAll config conduct ((served ++ [source]).map Source.origin) =
      ⟨relay.created ++ [request],
        (Ledger.serveAll config conduct (served.map Source.origin)).sessions ++
          [(Ledger.key config source.origin, conduct.session relay.created.length)]⟩ := by
  -- What the registry does not know the ledger does not know either, so it opens the next session.
  rw [Registry.contains_eq, ← Option.isSome_map, inOrder.session? plain, Option.isSome_eq_false_iff,
    Option.isNone_iff_eq_none] at absent
  rw [List.map_append, List.map_singleton, Ledger.serveAll_snoc, Ledger.serve, absent,
    ← inOrder.requests, written]
  rfl

/-- One who waits in line is the only one there. -/
private theorem submitters_eq (orderly : Orderly relay) (lined : Lined relay)
    (at_ : relay.stage? task = some before) (active : before.isActive = true)
    {record : PackageRecord} (member : (task, record) ∈ relay.queue.submitters) :
    relay.queue.submitters = [(task, record)] := by
  -- All in line are callers at work, and nobody is in line twice.
  have own : ∀ entry ∈ relay.queue.submitters, entry.1 = task := by
    intro entry inside
    obtain ⟨stage, there, waits⟩ := Option.map_eq_some_iff.1 (lined.waiting entry inside)
    refine orderly.unique at_ active there ?_
    cases stage with
    | placing errand => cases errand <;> rfl
    | _ => simp [Stage.cargo] at waits
  have once : (relay.queue.submitters.map Prod.fst).Nodup := lined.once
  -- A second entry would stand under the same name.
  cases line : relay.queue.submitters with
  | nil => simp [line] at member
  | cons first rest =>
    cases rest with
    | nil => simpa [line, eq_comm] using member
    | cons second rest =>
      have one := own first (by simp [line])
      have other := own second (by simp [line])
      simp [line, one, other] at once

/-- When a manifest gets its turn, its records come in addition to those of all before. -/
private theorem serve (inOrder : InOrder config conduct start past relay served)
    (orderly : Orderly relay) {source : Source} (at_ : relay.stage? task = some before)
    (active : before.isActive = true)
    (move : Move relay task before (.queueing source.batch) shared)
    (awaits : before.awaiting = [source]) (unlined : before.unlined = [])
    (silent : action.demand? = none)
    (dispatched : start.dispatched (past ++ [action]) = start.dispatched past)
    (calls : (start.calls (past ++ [action])).filterMap creationOf =
      (start.calls past).filterMap creationOf)
    (queue : shared.queue = relay.queue)
    (created : shared.created = relay.created ++ before.asking)
    (requests : shared.created =
      (Ledger.serveAll config conduct ((served ++ [source]).map Source.origin)).requests)
    (sessions : ∀ key, (shared.registry.sessions.get? key).map Session.id =
      (Ledger.serveAll config conduct ((served ++ [source]).map Source.origin)).session? key) :
    InOrder config conduct start (past ++ [action])
      (shared.withStage task (.queueing source.batch)) (served ++ [source]) where
  -- The manifest goes from those that need a session to those that were served.
  sources := by
    rw [across_moved orderly at_ active move awaiting_of_idle, List.filterMap_append]
    have earlier := inOrder.sources
    rw [across_caller orderly at_ active awaiting_of_idle, awaits] at earlier
    simp [Stage.awaiting, silent, ← earlier]
  -- All its records are to be offered now, behind those of the manifests before it.
  records := by
    rw [across_moved orderly at_ active move unlined_of_idle, dispatched, List.flatMap_append]
    have earlier := inOrder.records
    rw [across_caller orderly at_ active unlined_of_idle, unlined, List.append_nil] at earlier
    rw [← earlier, withStage, queue]
    simp [Stage.unlined, Source.goods, Source.batch]
  requests := requests
  calls := by
    rw [across_moved orderly at_ active move asking_of_idle, calls, inOrder.calls,
      across_caller orderly at_ active asking_of_idle]
    show _ = shared.created ++ _
    simp [created, Stage.asking]
  sessions := sessions
  single := fun _ => across_moved orderly at_ active move awaiting_of_idle

/-- When a session is opened for a manifest, it is the one that the ledger opens next. -/
private theorem opened (inOrder : InOrder config conduct start past relay served)
    (orderly : Orderly relay) (registered : Registered relay) (config_eq : relay.config = config)
    (plain : config.multiProject = true → ∀ source ∈ served, source.origin.path ≠ globalKey)
    (explains : conduct.Explains shared.journal) {source : Source}
    {request : Message.CreateToolSessionRequest} {session : String} {events : List Event}
    (at_ : relay.stage? task = some (.opening source request))
    (move : Move relay task (.opening source request) (.queueing source.batch) shared)
    (added : shared = { relay with
      registry := (relay.registry.add source.origin.path ⟨session, ()⟩).1
      desk := relay.desk.drop 1
      journal := relay.journal ++ [⟨some task, .create request, .granted session⟩]
      events := events })
    (silent : action.demand? = none)
    (dispatched : start.dispatched (past ++ [action]) = start.dispatched past)
    (calls : (start.calls (past ++ [action])).filterMap creationOf =
      (start.calls past).filterMap creationOf) :
    InOrder config conduct start (past ++ [action])
      (shared.withStage task (.queueing source.batch)) (served ++ [source]) := by
  -- In a project with one session no caller ever asks for another.
  have multi : config.multiProject = true := by
    rw [← Bool.not_eq_false]
    intro single
    have none_ := inOrder.single single
    simp [across_caller orderly at_ rfl awaiting_of_idle, Stage.awaiting] at none_
  obtain ⟨absent, written⟩ := registered.asked task source request at_
  have next := inOrder.serveAll_opened plain absent (config_eq ▸ written)
  -- The reply is the one that the service gives after so many requests.
  have reply : session = conduct.session relay.created.length := by
    rw [added] at explains
    simpa [Conduct.allows, created] using explains.last
  refine inOrder.serve orderly at_ rfl move rfl rfl silent dispatched calls ?_ ?_ ?_ ?_
  · rw [added]
  · rw [added]
    simp [created, Exchange.creation?, Stage.asking]
  · rw [next, added]
    simp [created, Exchange.creation?]
  · intro key
    -- The path was new, so in the registry and in the ledger the session comes in addition.
    have none_ := Registry.get?_of_absent absent
    have earlier := inOrder.sessions key
    rw [next, added]
    simp only [Registry.add, Dictionary.get?_insert, Ledger.session?, Ledger.lookup_snoc,
      Ledger.key, multi, if_true] at earlier none_ ⊢
    rw [← earlier, reply]
    by_cases own : key = source.origin.path
    · simp [own, none_]
    · simp [own, Ne.symm own]

/-- A move that opens no session keeps what is in order with those that are open. -/
private theorem kept (inOrder : InOrder config conduct start past relay served)
    (at_ : relay.stage? task = some before) (move : Move relay task before after shared)
    (silent : action.demand? = none) (awaiting : after.awaiting = before.awaiting)
    (registry : shared.registry = relay.registry) (created : shared.created = relay.created)
    (records : (start.dispatched (past ++ [action])).map Prod.snd ++ shared.queue.buffer ++
        shared.queue.submitters.map Prod.snd ++ (shared.withStage task after).across Stage.unlined =
      served.flatMap Source.goods)
    (calls : start.created ++ (start.calls (past ++ [action])).filterMap creationOf =
      shared.created ++ (shared.withStage task after).across Stage.asking) :
    ∃ source : Option Source, InOrder config conduct start (past ++ [action])
      (shared.withStage task after) (served ++ source.toList) := by
  -- No manifest gets its turn, so the sources that were served stay the same.
  refine ⟨none, ?_⟩
  simp only [Option.toList_none, List.append_nil]
  constructor
  · rw [across_same move at_ awaiting, inOrder.sources]
    simp [silent]
  · exact records
  · -- The ledger is the one for the same sources, so its parts are untouched.
    exact created.trans inOrder.requests
  · exact calls
  · exact fun key => registry ▸ inOrder.sessions key
  · rw [across_same move at_ awaiting]
    exact inOrder.single

/-- Whatever move is made, records and sessions stay in order. -/
theorem move (inOrder : InOrder config conduct start past relay served)
    (orderly : Orderly relay) (lined : Lined relay) (registered : Registered relay)
    (config_eq : relay.config = config)
    (plain : config.multiProject = true →
      ∀ source ∈ served ++ relay.across Stage.awaiting, source.origin.path ≠ globalKey)
    (explains : conduct.Explains shared.journal) (at_ : relay.stage? task = some before)
    (move : Move relay task before after shared) (passage : Passage relay shared task before after)
    (silent : action.demand? = none)
    (dispatched : start.dispatched (past ++ [action]) =
      start.dispatched past ++ relay.seeDispatched task before after)
    (calls : start.calls (past ++ [action]) = start.calls past ++ relay.seeCall task before after) :
    ∃ source : Option Source, InOrder config conduct start (past ++ [action])
      (shared.withStage task after) (served ++ source.toList) := by
  -- A move takes a record on, asks for a session, gives a manifest its turn, or does none of these.
  cases passage with
  | still unlined awaiting asking undispatched uncalled buffer submitters registry created =>
    refine inOrder.kept at_ move silent awaiting registry created ?_ ?_
    · rw [across_same move at_ unlined, dispatched, undispatched, List.append_nil, buffer,
        submitters, inOrder.records]
    · rw [across_same move at_ asking, calls, List.filterMap_append, uncalled,
        List.append_nil, created, inOrder.calls]
  | @line record errand queue =>
    have active := move.active (by cases errand <;> simp [Stage.role, Errand.role])
    have created : shared.created = relay.created := by rw [queue]; rfl
    refine inOrder.kept at_ move silent rfl (by rw [queue]) created ?_ ?_
    · -- The record goes from the caller to the end of the line.
      have earlier := inOrder.records
      rw [across_caller orderly at_ active unlined_of_idle] at earlier
      rw [across_moved orderly at_ active move unlined_of_idle, dispatched, ← earlier, queue]
      simp [Queue.joinSubmitters, seeDispatched, Stage.unlined]
    · rw [across_same move at_ rfl, calls, created]
      simpa [seeCall, Stage.call?] using inOrder.calls
  | @place record errand member queue =>
    have active := move.active (by cases errand <;> simp [Stage.role, Errand.role])
    have alone := submitters_eq orderly lined at_ active member
    have created : shared.created = relay.created := by rw [queue]; rfl
    refine inOrder.kept at_ move silent (awaiting_placed errand) (by rw [queue]) created ?_ ?_
    · -- The record goes from the line, where it is alone, to the end of the buffer.
      have earlier := inOrder.records
      rw [across_caller orderly at_ active unlined_of_idle, alone] at earlier
      rw [across_moved orderly at_ active move unlined_of_idle, dispatched, ← earlier, queue]
      simp [alone, seeDispatched]
    · have uncalled : errand.placed.call? = none := by cases errand <;> rfl
      rw [across_same move at_ (asking_placed errand), calls, created]
      simpa [seeCall, uncalled] using inOrder.calls
  | @take looked record takers buffer front queue =>
    have created : shared.created = relay.created := by rw [queue]; rfl
    refine inOrder.kept at_ move silent rfl (by rw [queue]) created ?_ ?_
    · -- The record goes from the front of the buffer to a worker.
      rw [across_same move at_ rfl, dispatched, ← inOrder.records, front, queue]
      simp [seeDispatched]
    · rw [across_same move at_ rfl, calls, created]
      simpa [seeCall, Stage.call?] using inOrder.calls
  | @ask source request same =>
    -- The request is called for now and replied to later.
    refine inOrder.kept at_ move silent rfl (by rw [same]) (by rw [same]) ?_ ?_
    · rw [across_same move at_ rfl, dispatched, same]
      simpa [seeDispatched] using inOrder.records
    · have earlier := inOrder.calls
      rw [across_caller orderly at_ rfl asking_of_idle] at earlier
      rw [across_moved orderly at_ rfl move asking_of_idle, calls, List.filterMap_append,
        ← List.append_assoc, earlier, same]
      simp [seeCall, Stage.call?, Stage.asking, creationOf]
  | @known source known left =>
    -- The ledger finds the same session, and nothing is asked for.
    have same := inOrder.serveAll_known (fun multi source member =>
      plain multi source (List.mem_append_left _ member)) known
    refine ⟨some source, inOrder.serve orderly at_ rfl move rfl rfl silent ?_ ?_ ?_ ?_ ?_ ?_⟩
    · simp [dispatched, seeDispatched]
    · simp [calls, seeCall, Stage.call?]
    · rw [left]
    · rw [left]
      exact (List.append_nil _).symm
    · rw [same, left]
      exact inOrder.requests
    · rw [same, left]
      exact inOrder.sessions
  | @opened source request session events added =>
    exact ⟨some source, inOrder.opened orderly registered config_eq (fun multi source member =>
      plain multi source (List.mem_append_left _ member)) explains at_ move added silent
      (by simp [dispatched, seeDispatched]) (by simp [calls, seeCall, Stage.call?])⟩

section Arrivals

variable {demand : Demand}

/-- A caller that arrives brings its sources behind those of all before. -/
private theorem sources_arrive (past : List Action) (demand : Demand) :
    ((past ++ [Action.arrive demand]).filterMap Action.demand?).flatMap Demand.sources =
      (past.filterMap Action.demand?).flatMap Demand.sources ++ demand.sources := by
  simp [Action.demand?]

/-- A caller that arrives has asked for no session. -/
private theorem created_arrive (relay : Relay) (demand : Demand) :
    (relay.arrive demand).1.created = relay.created := by
  rw [Relay.created, Relay.created, journal_arrive]

/-- A caller that arrives makes no call. -/
private theorem calls_arrive (inOrder : InOrder config conduct start past relay served)
    (ran : start.run past = some relay) (demand : Demand) :
    start.created ++ (start.calls (past ++ [.arrive demand])).filterMap creationOf =
      (relay.arrive demand).1.created ++ (relay.arrive demand).1.across Stage.asking := by
  have calls : start.calls (past ++ [.arrive demand]) = start.calls past := watch_arrive ran demand
  rw [across_arrive, asking_of_new, List.append_nil, calls, created_arrive, inOrder.calls]

/-- A caller whose manifest needs a session of its own has to wait for it. -/
private theorem arrive_waiting (inOrder : InOrder config conduct start past relay served)
    (ran : start.run past = some relay)
    (waits : config.multiProject = true ∨ demand.sources = [])
    (awaiting : (demand.stage relay.config).awaiting = demand.sources)
    (unlined : (demand.stage relay.config).unlined = []) :
    InOrder config conduct start (past ++ [.arrive demand]) (relay.arrive demand).1 served where
  sources := by
    rw [across_arrive, awaiting, sources_arrive, ← inOrder.sources, List.append_assoc]
  records := by
    have dispatched : start.dispatched (past ++ [.arrive demand]) = start.dispatched past :=
      watch_arrive ran demand
    rw [across_arrive, unlined, List.append_nil, dispatched, queue_arrive, inOrder.records]
  requests := (created_arrive relay demand).trans inOrder.requests
  calls := inOrder.calls_arrive ran demand
  sessions key := registry_arrive relay demand ▸ inOrder.sessions key
  single := by
    intro single
    -- With one session for all, only a caller without sources comes this way.
    have none_ : demand.sources = [] := waits.resolve_left (by simp [single])
    rw [across_arrive, inOrder.single single, awaiting, none_]
    rfl

/-- In a project of one session the session is there, so the records come next. -/
private theorem arrive_served (inOrder : InOrder config conduct start past relay served)
    (ran : start.run past = some relay) (single : config.multiProject = false) {source : Source}
    (stage : (Demand.bring source).stage relay.config = .queueing source.batch) :
    InOrder config conduct start (past ++ [.arrive (.bring source)])
      (relay.arrive (.bring source)).1 (served ++ [source]) := by
  have none_ := inOrder.single single
  -- The ledger has the session for all manifests, so that it opens no other one.
  have known : Ledger.serveAll config conduct ((served ++ [source]).map Source.origin) =
      Ledger.serveAll config conduct (served.map Source.origin) := by
    have found : (Ledger.serveAll config conduct (served.map Source.origin)).session? globalKey =
        some (conduct.session 0) := Ledger.session?_single single
    simp [Ledger.serveAll_snoc, Ledger.serve, Ledger.key, single, found]
  constructor
  case sources =>
    have earlier := inOrder.sources
    rw [none_, List.append_nil] at earlier
    rw [across_arrive, none_, stage, sources_arrive, ← earlier]
    simp [Stage.awaiting, Demand.sources]
  -- All records of the newcomer are still to be put in line.
  case records =>
    have dispatched : start.dispatched (past ++ [.arrive (.bring source)]) = start.dispatched past :=
      watch_arrive ran (.bring source)
    rw [across_arrive, stage, dispatched, queue_arrive, List.flatMap_append, ← inOrder.records]
    simp [Stage.unlined, Source.goods, Source.batch]
  case requests =>
    rw [known, created_arrive]
    exact inOrder.requests
  case calls => exact inOrder.calls_arrive ran (.bring source)
  case sessions =>
    intro key
    rw [known, registry_arrive]
    exact inOrder.sessions key
  case single =>
    intro _
    rw [across_arrive, none_, stage]
    rfl

/-- A caller that arrives brings its manifest as the last one. -/
theorem arrive (inOrder : InOrder config conduct start past relay served)
    (config_eq : relay.config = config) (ran : start.run past = some relay)
    (wish : (∃ manifest : Manifest, demand = .addManifest manifest) ∨ demand = .finish) :
    ∃ source : Option Source, InOrder config conduct start (past ++ [.arrive demand])
      (relay.arrive demand).1 (served ++ source.toList) := by
  rcases wish with ⟨manifest, rfl⟩ | rfl
  · cases mode : config.multiProject with
    | true =>
      refine ⟨none, ?_⟩
      have stage : (Demand.addManifest manifest).stage relay.config = .arriving manifest.source := by
        simp [Demand.stage, Demand.addManifest, config_eq, mode]
      simpa using inOrder.arrive_waiting ran (.inl mode) (by rw [stage]; rfl) (by rw [stage]; rfl)
    -- The session for all is there already, so the manifest has its turn at once.
    | false =>
      refine ⟨some manifest.source, inOrder.arrive_served ran mode ?_⟩
      simp [Demand.stage, config_eq, mode]
  · -- One that comes to finish brings nothing.
    refine ⟨none, ?_⟩
    simpa using inOrder.arrive_waiting ran (.inr rfl) rfl rfl

end Arrivals

end InOrder

end InsightRelay.Relay
