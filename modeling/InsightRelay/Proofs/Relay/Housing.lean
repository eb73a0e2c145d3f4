import InsightRelay.Proofs.Relay.Order

/-! Housing: while callers come in turn, every record that a worker gets goes into the session of
its manifest, whatever manifests come in the meantime. -/

namespace InsightRelay

/-- The record that a worker at a stage has taken and not yet looked at. -/
def Stage.fetched (stage : Stage) : List PackageRecord :=
  match stage.cargo with
  | .fetched record => [record]
  | _ => []

namespace Relay

/-- Every record that a worker gets belongs to a manifest with a session, and goes into that
session. -/
structure Housed (config : Config) (conduct : Conduct) (start : Relay) (actions : List Action)
    (relay : Relay) (served : List Source) : Prop where
  fetched : ∀ task record, relay.stage? task = some (.dispatching record) →
    ∃ session, (Ledger.serveAll config conduct (served.map Source.origin)).session?
      (Ledger.key config record.origin) = some session
  routed : ∀ route ∈ start.routed actions, ∃ session, route.session = some session ∧
    (Ledger.serveAll config conduct (served.map Source.origin)).session?
      (Ledger.key config route.record.origin) = some session

namespace Housed

variable {config : Config} {conduct : Conduct} {start relay shared : Relay} {past : List Action}
  {action : Action} {task : TaskId} {before after : Stage} {served : List Source}

/-- More manifests change no session. -/
theorem grow (housed : Housed config conduct start past relay served) (more : List Source) :
    Housed config conduct start past relay (served ++ more) := by
  -- The ledger only gains sessions.
  constructor
  · intro task record at_
    obtain ⟨session, found⟩ := housed.fetched task record at_
    exact ⟨session, by rw [List.map_append]; exact Ledger.session?_append _ found⟩
  · intro route member
    obtain ⟨session, given, found⟩ := housed.routed route member
    exact ⟨session, given, by rw [List.map_append]; exact Ledger.session?_append _ found⟩

/-- A record reaches a worker from the front of the buffer. -/
private theorem front_of_take {record : PackageRecord}
    (move : Move relay task before after shared) (takes : after = .dispatching record) :
    record ∈ relay.queue.buffer := by
  -- Of all moves, only taking a record leads to this stage.
  cases move with
  | take taken =>
    obtain ⟨takers, buffer, -, front, rfl⟩ := Queue.eq_of_take? taken
    obtain rfl : _ = record := by simpa using takes
    simp [front]
  | @refuse brought errand => cases errand <;> simp [Errand.refused] at takes
  | @place errand => cases errand <;> simp [Errand.placed] at takes
  | @pass finishing => cases finishing <;> simp at takes
  | @joined finishing => cases finishing <;> simp at takes
  | _ => simp at takes

/-- Whoever arrives is no worker, so no more records are taken than before. -/
theorem arrive (housed : Housed config conduct start past relay served)
    (ran : start.run past = some relay) (demand : Demand) :
    Housed config conduct start (past ++ [.arrive demand]) (relay.arrive demand).1 served where
  fetched := by
    intro task record there
    rw [stage?_arrive] at there
    split at there
    · have role := Demand.role_stage demand relay.config
      rw [Option.some.inj there] at role
      exact absurd role.symm demand.role_ne_worker
    · exact housed.fetched task record there
  routed := by
    rw [Relay.routed, watch_arrive ran]
    exact housed.routed

/-- Whatever move is made, records go into the sessions of their manifests. -/
theorem move (housed : Housed config conduct start past relay served)
    (inOrder : InOrder config conduct start past relay served)
    (plain : config.multiProject = true → ∀ source ∈ served, source.origin.path ≠ globalKey)
    (owned : ∀ source ∈ served, ∀ record ∈ source.goods, record.origin = source.origin)
    (at_ : relay.stage? task = some before) (move : Move relay task before after shared)
    (routed : start.routed (past ++ [action]) =
      start.routed past ++ relay.seeRouted task before after) :
    Housed config conduct start (past ++ [action]) (shared.withStage task after) served := by
  constructor
  · intro other record there
    rw [move.stage? at_] at there
    split at there
    · -- What is in the buffer comes from one of the manifests that were served.
      have front := front_of_take move (Option.some.inj there)
      have brought : record ∈ served.flatMap Source.goods := by
        rw [← inOrder.records]
        simp [front]
      obtain ⟨source, inside, member⟩ := List.mem_flatMap.1 brought
      rw [owned source inside record member]
      exact Option.isSome_iff_exists.1 (Ledger.session?_serveAll (List.mem_map_of_mem inside))
    · exact housed.fetched other record there
  · intro route member
    rw [routed, List.mem_append] at member
    rcases member with earlier | now
    · exact housed.routed route earlier
    · -- Sessions are looked up on the way from the queue to the service, and nowhere else.
      cases before with
      | dispatching record =>
        obtain rfl : route = _ := List.mem_singleton.1 now
        -- The session was there when the record was taken, and none is ever registered in its place.
        obtain ⟨session, found⟩ := housed.fetched task record at_
        exact ⟨session, (inOrder.session? plain record.origin).trans found, found⟩
      | _ => simp [seeRouted] at now

/-- A record that goes into the session of its manifest is published there. -/
theorem publications (housed : Housed config conduct start past relay served) :
    ((start.routed past).filterMap publication?).map Prod.snd =
      ((start.routed past).map Route.record).map fun record => record.request
        (((Ledger.serveAll config conduct (served.map Source.origin)).session?
          (Ledger.key config record.origin)).getD "") := by
  -- Each route has the session of its manifest, so none is left out and each request is known.
  rw [List.map_filterMap, List.map_map]
  refine List.filterMap_eq_map_iff_forall_eq_some.2 fun route member => ?_
  obtain ⟨session, given, found⟩ := housed.routed route member
  simp [publication?, Route.request?, given, found]

end Housed

section Runs

variable {config : Config} {conduct : Conduct} {manifests : List Manifest} {start relay : Relay}
  {actions : List Action}

/-- Sources come from manifests only. -/
theorem source_of_visits (visits : Visits manifests actions) {source : Source}
    (member : source ∈ (actions.filterMap Action.demand?).flatMap Demand.sources) :
    ∃ manifest ∈ manifests, source = manifest.source := by
  -- Whoever comes brings a manifest or finishes, and one that finishes brings nothing.
  obtain ⟨demand, came, brings⟩ := List.mem_flatMap.1 member
  rcases List.mem_append.1 (visits.mem came) with brought | last
  · obtain ⟨manifest, inside, rfl⟩ := List.mem_map.1 brought
    exact ⟨manifest, inside, List.mem_singleton.1 brings⟩
  · rw [List.mem_singleton.1 last] at brings
    simp [Demand.sources] at brings

/-- Nobody brings a record by itself. -/
theorem role_of_visits (fresh : Fresh config start) (ran : start.run actions = some relay)
    (visits : Visits manifests actions) {task : TaskId} {stage : Stage}
    (at_ : relay.stage? task = some stage) : stage.role ≠ .submitter := by
  -- Workers and those who come to bring manifests or to finish are all there are.
  rcases caller_of_stage fresh ran at_ with ⟨-, worker⟩ | ⟨demand, arrived, role⟩
  · simp [worker]
  · rw [role]
    rcases List.mem_append.1 (visits.mem (demand_of_callers arrived)) with brought | last
    · obtain ⟨manifest, -, rfl⟩ := List.mem_map.1 brought
      simp [Demand.role, Demand.addManifest]
    · simp [List.mem_singleton.1 last, Demand.role]

/-- A fresh relay has nothing but the session for the whole project. -/
private theorem inOrder_fresh (fresh : Fresh config start)
    (explains : conduct.Explains start.journal) :
    InOrder config conduct start [] start [] := by
  have empty {α : Type} (part : Stage → List α) (none_ : part .seeking = []) :
      start.across part = [] := by
    simp [across, fresh.tasks, none_]
  constructor
  · rw [empty _ rfl]
    rfl
  · rw [empty _ rfl]
    simp [dispatched, watch, fresh.queue, Queue.empty]
  · rcases fresh.sessions with ⟨mode, journal, -⟩ | ⟨mode, request, session, written, journal, -⟩
    · simp [created, journal, Ledger.serveAll, Ledger.begin, mode]
    -- In a project of one session the ledger begins with the request for it.
    · simp [created, journal, Ledger.serveAll, Ledger.begin, mode, written, Exchange.creation?,
        Except.toOption]
  · rw [empty _ rfl]
    rfl
  · intro key
    rcases fresh.sessions with ⟨mode, -, registry⟩ | ⟨mode, request, session, -, journal, registry⟩
    · simp [registry, Ledger.serveAll, Ledger.begin, mode, Ledger.session?, Registry.empty,
        Dictionary.empty, Dictionary.get?, Dictionary.lookup]
    · -- The service opens its first session for the whole project.
      have reply : session = conduct.session 0 := by
        rw [journal] at explains
        simpa [Conduct.allows] using explains 0 _ rfl
      simp [registry, Ledger.serveAll, Ledger.begin, mode, Ledger.session?, Registry.add,
        Registry.empty, Dictionary.insert, Dictionary.place, Dictionary.empty, Dictionary.get?,
        Dictionary.lookup, reply]
  · exact fun _ => empty _ rfl

/-- All sources so far are manifests, served or about to be. -/
private theorem InOrder.exists_manifest {served : List Source}
    (inOrder : InOrder config conduct start actions relay served) (visits : Visits manifests actions) :
    ∀ source ∈ served ++ relay.across Stage.awaiting,
      ∃ manifest ∈ manifests, source = manifest.source := by
  rw [inOrder.sources]
  exact fun source member => source_of_visits visits member

/-- However workers and callers alternate, records and sessions are in order. -/
theorem order_of_run (fresh : Fresh config start)
    (askable : ∀ project, ∃ request, config.sessionRequest project = .ok request)
    (plain : config.multiProject = true → ∀ manifest ∈ manifests, manifest.path ≠ globalKey)
    (ran : start.run actions = some relay) (visits : Visits manifests actions)
    (inTurn : InTurn start actions) (own : OwnSessions actions)
    (explains : conduct.Explains relay.journal) :
    ∃ served, InOrder config conduct start actions relay served ∧
      Housed config conduct start actions relay served := by
  refine run_induction (fun actions relay => Visits manifests actions → InTurn start actions →
    OwnSessions actions → conduct.Explains relay.journal →
      ∃ served, InOrder config conduct start actions relay served ∧
        Housed config conduct start actions relay served)
    ?initial ?arrive ?register ?move ran visits inTurn own explains
  case initial =>
    refine fun _ _ _ explains => ⟨[], inOrder_fresh fresh explains, fun task record at_ => ?_,
      fun route member => absurd member List.not_mem_nil⟩
    cases fresh.seeking at_
  case arrive =>
    intro past relay demand ran ih visits inTurn own explains
    obtain ⟨served, inOrder, housed⟩ := ih visits.earlier inTurn.earlier own.earlier
      (journal_arrive relay demand ▸ explains)
    -- Only those that bring a manifest or finish come.
    have config_eq := (config_of_run ran).trans fresh.config_eq
    have wish : (∃ manifest : Manifest, demand = .addManifest manifest) ∨ demand = .finish := by
      rcases visits.demand with brings | finishes
      · obtain ⟨manifest, -, same⟩ := brings
        exact .inl ⟨manifest, same⟩
      · exact .inr finishes
    obtain ⟨source, next⟩ := inOrder.arrive config_eq ran wish
    exact ⟨_, next, (housed.arrive ran demand).grow source.toList⟩
  case register =>
    exact fun past relay key session _ _ _ _ own => absurd (by simp) (own key session)
  case move =>
    intro past relay action task before after shared ran ih acts at_ move stepped visits inTurn own
      explains
    obtain ⟨more, journal, -⟩ := move.journal
    have explains : conduct.Explains shared.journal := explains
    obtain ⟨served, inOrder, housed⟩ := ih visits.earlier inTurn.earlier own.earlier
      (journal ▸ explains).earlier
    have config_eq := (config_of_run ran).trans fresh.config_eq
    have orderly := orderly_of_run fresh ran visits.earlier inTurn.earlier
    have lined := lined_of_run fresh ran
    -- All sources so far are manifests, each with the origin of its records.
    have sources := inOrder.exists_manifest visits.earlier
    have plainly : config.multiProject = true →
        ∀ source ∈ served ++ relay.across Stage.awaiting, source.origin.path ≠ globalKey := by
      intro multi source member
      obtain ⟨manifest, inside, rfl⟩ := sources source member
      exact plain multi manifest inside
    have owned : ∀ source ∈ served, ∀ record ∈ source.goods, record.origin = source.origin := by
      intro source member record brought
      obtain ⟨manifest, -, rfl⟩ := sources source (List.mem_append_left _ member)
      exact Manifest.origin_of_goods brought
    have passage := move.passage
      (fun looked inLine => lined.absent at_ (by rw [inLine]; cases looked <;> decide))
      (fun bringer => orderly.open_ task before at_ bringer (move.active (by simp [bringer])))
      (role_of_visits fresh ran visits.earlier at_) (config_eq ▸ askable) explains
    -- What is in order comes first, and what is housed follows from it.
    obtain ⟨source, next⟩ := inOrder.move orderly lined (registered_of_run fresh ran own.earlier)
      config_eq plainly explains at_ move passage (demand?_of_task? acts)
      (watch_move ran acts at_ move stepped) (watch_move ran acts at_ move stepped)
    have stays := housed.move inOrder
      (fun multi source member => plainly multi source (List.mem_append_left _ member)) owned at_
      move (watch_move ran acts at_ move stepped)
    exact ⟨_, next, stays.grow source.toList⟩

end Runs

end Relay

end InsightRelay
