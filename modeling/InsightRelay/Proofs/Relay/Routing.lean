import InsightRelay.Proofs.Relay.Passage
import InsightRelay.Proofs.Relay.Resolution
import Mathlib.Data.List.Infix

/-! Routing: where each manifest has a session of its own, its records go to that one and no
other. -/

namespace InsightRelay

/-- What happens on the way of records to the sessions of their manifests. -/
inductive Landmark
  /-- A session is asked for. -/
  | asked (path : String) (request : Message.CreateToolSessionRequest)
  /-- The service has opened a session. -/
  | opened (path session : String)
  /-- A worker looks up the session for its record. -/
  | routed (route : Route)
deriving DecidableEq

namespace Landmark

/-- The path for which a session is asked or opened. -/
def path? : Landmark → Option String
  | asked path _ => some path
  | opened path _ => some path
  | routed _ => none

/-- The request for a session, if one is asked for. -/
def request? : Landmark → Option Message.CreateToolSessionRequest
  | asked _ request => some request
  | _ => none

/-- The session that is opened, if one is. -/
def session? : Landmark → Option String
  | opened _ session => some session
  | _ => none

/-- The route of a record, if one is looked up. -/
def route? : Landmark → Option Route
  | routed route => some route
  | _ => none

/-- Sessions that are opened for a path show nothing to one who looks for something else. -/
theorem filterMap_opened {α : Type} {look : Landmark → Option α} {path : String}
    (unseen : ∀ session, look (.opened path session) = none) (sessions : List String) :
    (sessions.map (.opened path)).filterMap look = [] := by
  simp [List.filterMap_map, unseen]

end Landmark

namespace Relay

/-- No source is brought whose path is the key for all others. -/
def PlainSources (actions : List Action) : Prop :=
  ∀ demand ∈ actions.filterMap Action.demand?, ∀ source ∈ demand.sources,
    source.origin.path ≠ globalKey

instance (actions : List Action) : Decidable (PlainSources actions) :=
  inferInstanceAs (Decidable (∀ demand ∈ _, ∀ source ∈ Demand.sources demand, _))

/-- What is plain was plain from the beginning. -/
theorem PlainSources.earlier {past : List Action} {action : Action}
    (plain : PlainSources (past ++ [action])) : PlainSources past :=
  fun demand member => plain demand <| by
    rw [List.filterMap_append]
    exact List.mem_append_left _ member

/-- What a task passes between two stages. -/
def passed (relay next : Relay) (task : TaskId) (before after : Stage) : List Landmark :=
  match before, after with
  | .checking source, .opening _ request => [.asked source.origin.path request]
  | .opening source _, _ =>
    -- Whether the service has opened the session is told by what it has opened since.
    (next.opened.drop relay.opened.length).map (.opened source.origin.path)
  | .dispatching record, _ =>
    [.routed ⟨task, record, (relay.registry.session? record.origin.path).map Session.id⟩]
  | _, _ => []

/-- The landmarks of a run, in their order. -/
def landmarks (relay : Relay) : (actions : List Action) → List Landmark
  | [] => []
  | action :: actions =>
    match relay.step action with
    | none => []
    | some next =>
      relay.glimpse (fun relay => relay.passed next) action next ++ next.landmarks actions

section Landmarks

variable {start relay next : Relay} {past : List Action} {action : Action}

/-- A run that is taken up passes its further landmarks. -/
theorem landmarks_append (ran : start.run past = some relay) (more : List Action) :
    start.landmarks (past ++ more) = start.landmarks past ++ relay.landmarks more := by
  -- Landmarks are told from the front, so the start of the run moves along.
  induction past generalizing start with
  | nil =>
    obtain rfl : start = relay := by simpa [run] using ran
    rfl
  | cons first past ih =>
    obtain ⟨second, began, rest⟩ := Option.bind_eq_some_iff.1 (by simpa [run] using ran)
    simp only [List.cons_append, landmarks, began, List.append_assoc]
    rw [ih rest]

/-- One more step passes the landmarks between its two states. -/
theorem landmarks_snoc (ran : start.run past = some relay)
    (stepped : relay.step action = some next) :
    start.landmarks (past ++ [action]) =
      start.landmarks past ++ relay.glimpse (fun relay => relay.passed next) action next := by
  rw [landmarks_append ran]
  simp [landmarks, stepped]

/-- An arrival passes no landmark. -/
theorem landmarks_arrive (ran : start.run past = some relay) (demand : Demand) :
    start.landmarks (past ++ [.arrive demand]) = start.landmarks past := by
  have stepped : relay.step (.arrive demand) = some (relay.arrive demand).1 := rfl
  rw [landmarks_snoc ran stepped]
  simp [glimpse, Action.task?]

/-- A registration from elsewhere passes no landmark. -/
theorem landmarks_register (ran : start.run past = some relay) (key session : String) :
    start.landmarks (past ++ [.register key session]) = start.landmarks past := by
  have stepped : relay.step (.register key session) = some (relay.register key session) := rfl
  rw [landmarks_snoc ran stepped]
  simp [glimpse, Action.task?]

/-- A move passes the landmarks between its two stages. -/
theorem landmarks_move {task : TaskId} {before after : Stage} {shared : Relay}
    (ran : start.run past = some relay) (acts : action.task? = some task)
    (at_ : relay.stage? task = some before) (move : Move relay task before after shared)
    (stepped : relay.step action = some (shared.withStage task after)) :
    start.landmarks (past ++ [action]) =
      start.landmarks past ++ relay.passed shared task before after := by
  -- A glimpse compares the stages of the task that acts, which are those of the move.
  rw [landmarks_snoc ran stepped]
  simp only [glimpse, acts, at_, move.stage? at_, if_true]
  rfl

end Landmarks

/-- What a move has to do with the sessions of manifests, and the landmarks that it passes. -/
inductive Marked (relay shared : Relay) (task : TaskId) (before : Stage) : List Landmark → Prop
  | aside (registry : shared.registry = relay.registry) (opened : shared.opened = relay.opened) :
    Marked relay shared task before []
  | ask {source : Source} {request : Message.CreateToolSessionRequest}
    (at_ : before = .checking source)
    (unserved : relay.registry.contains source.origin.path = false)
    (registry : shared.registry = relay.registry) (opened : shared.opened = relay.opened) :
    Marked relay shared task before [.asked source.origin.path request]
  | open_ {source : Source} {request : Message.CreateToolSessionRequest} {session : String}
    (at_ : before = .opening source request)
    (registry : shared.registry = (relay.registry.add source.origin.path ⟨session, ()⟩).1)
    (opened : shared.opened = relay.opened ++ [session]) :
    Marked relay shared task before [.opened source.origin.path session]
  | route {record : PackageRecord} (at_ : before = .dispatching record)
    (registry : shared.registry = relay.registry) (opened : shared.opened = relay.opened) :
    Marked relay shared task before
      [.routed ⟨task, record, (relay.registry.session? record.origin.path).map Session.id⟩]

/-- The landmarks that are passed may be told in another way. -/
private theorem Marked.of_eq {relay shared : Relay} {task : TaskId} {before : Stage}
    {marks others : List Landmark} (marked : Marked relay shared task before marks)
    (same : others = marks) : Marked relay shared task before others :=
  same ▸ marked

/-- Every move has one of these parts in the sessions of manifests. -/
theorem Move.marked {relay shared : Relay} {task : TaskId} {before after : Stage}
    (move : Move relay task before after shared) :
    Marked relay shared task before (relay.passed shared task before after) := by
  -- A reply that opens no session leaves the list of opened ones as it is, so none is told of.
  cases move with
  | ask fresh written => exact .ask rfl fresh rfl rfl
  | drop homeless => exact .route rfl rfl rfl
  | publish found => exact .route rfl rfl rfl
  | opened session =>
    exact Marked.of_eq (.open_ rfl rfl (by simp [Relay.opened, Exchange.opened?]))
      (by simp [passed, Relay.opened, Exchange.opened?])
  | unopened problem =>
    exact Marked.of_eq (.aside rfl (by simp [Relay.opened, Exchange.opened?]))
      (by simp [passed, Relay.opened, Exchange.opened?])
  -- The replies to other calls are none that open a session.
  | published | rejected | crash | completed | incomplete =>
    exact .aside rfl (by simp [Relay.opened, Exchange.opened?])
  | @refuse record errand => cases errand <;> exact .aside rfl rfl
  | @place errand => cases errand <;> exact .aside rfl rfl
  | @pass finishing => cases finishing <;> exact .aside rfl rfl
  | @joined finishing => cases finishing <;> exact .aside rfl rfl
  | _ => exact .aside rfl rfl

/-- A session is opened where a landmark tells of it. -/
theorem Marked.opened {relay shared : Relay} {task : TaskId} {before : Stage}
    {marks : List Landmark} (marked : Marked relay shared task before marks) :
    shared.opened = relay.opened ++ marks.filterMap Landmark.session? := by
  -- Only a reply that grants a session opens one, and its landmark tells of it.
  cases marked with
  | aside registry opened => simpa using opened
  | ask at_ unserved registry opened => exact opened.trans (List.append_nil _).symm
  | open_ at_ registry opened => exact opened
  | route at_ registry opened => exact opened.trans (List.append_nil _).symm

section Marks

variable {relay shared : Relay} {task : TaskId} {before after : Stage}
  (move : Move relay task before after shared)
include move

/-- A worker looks up a session where a landmark tells of it. -/
theorem Move.routes : relay.seeRouted task before after =
    (relay.passed shared task before after).filterMap Landmark.route? := by
  -- Both lists are written out by each move, but for a reply, which is no look-up.
  cases move with
  | opened | unopened => exact (Landmark.filterMap_opened (fun _ => rfl) _).symm
  | @refuse record errand => cases errand <;> rfl
  | @place errand => cases errand <;> rfl
  | @pass finishing => cases finishing <;> rfl
  | @joined finishing => cases finishing <;> rfl
  | _ => rfl

end Marks

/-- A task awaits a session only for the source that it came with. -/
theorem Move.awaiting {relay shared : Relay} {task : TaskId} {before after : Stage}
    (move : Move relay task before after shared) {source : Source}
    (awaits : source ∈ after.awaiting) : source ∈ before.awaiting := by
  -- On its way through the desk a caller keeps its source, and nobody else has one to wait for.
  cases move with
  | @refuse record errand => cases errand <;> simp [Errand.refused, Stage.awaiting] at awaits
  | @place errand => simp at awaits
  | @pass finishing => cases finishing <;> simp [Stage.awaiting] at awaits
  | @joined finishing => cases finishing <;> simp [Stage.awaiting] at awaits
  | approach | enter | ask => exact awaits
  | _ => simp [Stage.awaiting] at awaits

/-- A caller that has just arrived awaits a session at most for what it brings. -/
theorem awaiting_stage {demand : Demand} {config : Config} {source : Source}
    (awaits : source ∈ (demand.stage config).awaiting) : source ∈ demand.sources := by
  cases demand with
  | bring brought =>
    cases mode : config.multiProject <;>
      simp_all [Demand.stage, Stage.awaiting, Demand.sources]
  | _ => simp [Demand.stage, Stage.awaiting] at awaits

/-- Nobody ever awaits a session for all keys. -/
theorem plain_of_run {config : Config} {start relay : Relay} {actions : List Action}
    (fresh : Fresh config start) (ran : start.run actions = some relay)
    (plain : PlainSources actions) : ∀ task stage, relay.stage? task = some stage →
      ∀ source ∈ stage.awaiting, source.origin.path ≠ globalKey := by
  -- Nobody comes with such a source, and whoever awaits a session does so for the source it came with.
  refine run_induction (fun actions relay => PlainSources actions → ∀ task stage,
    relay.stage? task = some stage → ∀ source ∈ stage.awaiting, source.origin.path ≠ globalKey)
    ?initial ?arrive ?register ?move ran plain
  case initial =>
    intro _ task stage at_ source awaits
    simp [fresh.seeking at_, Stage.awaiting] at awaits
  case arrive =>
    intro past relay demand _ ih plain
    refine stages_arrive (ih plain.earlier) fun source awaits => ?_
    -- What the newcomer waits for is what it brings.
    exact plain demand (by simp [Action.demand?]) source (awaiting_stage awaits)
  case register => exact fun past relay key session _ ih plain => ih plain.earlier
  case move =>
    intro past relay action task before after shared _ ih _ at_ move _ plain other stage there
    rw [move.stage? at_] at there
    split at there
    · obtain rfl := Option.some.inj there
      exact fun source awaits => ih plain.earlier task before at_ source (move.awaiting awaits)
    · exact ih plain.earlier other stage there

/-- Every route leads to the session that was opened before for all paths, or else to the one for the
path of its record. -/
def Directed (marks : List Landmark) : Prop :=
  ∀ before route after, marks = before ++ .routed route :: after → ∀ session,
    route.session = some session ↔
      .opened globalKey session ∈ before ∨ (∀ shared, .opened globalKey shared ∉ before) ∧
        .opened route.record.origin.path session ∈ before

/-- A further landmark directs as well if it is no route, or leads to the right session. -/
theorem Directed.snoc {marks : List Landmark} {mark : Landmark} (directed : Directed marks)
    (right : ∀ route, mark = .routed route → ∀ session, route.session = some session ↔
      .opened globalKey session ∈ marks ∨ (∀ shared, .opened globalKey shared ∉ marks) ∧
        .opened route.record.origin.path session ∈ marks) : Directed (marks ++ [mark]) := by
  intro before route after whole
  -- The route is the further landmark itself, or one of the old ones.
  rcases List.eq_nil_or_concat' after with rfl | ⟨middle, last, rfl⟩
  · obtain ⟨rfl, same⟩ := List.append_inj' whole rfl
    exact right route (List.cons.inj same).1
  · rw [← List.cons_append, ← List.append_assoc] at whole
    exact directed before route middle (List.append_inj' whole rfl).1

/-- After a session was opened for a path, none is asked for or opened for it. -/
def OpenedOnce (marks : List Landmark) : Prop :=
  marks.Pairwise fun earlier later => ∀ path session, earlier = .opened path session →
    later.path? ≠ some path

/-- What the landmarks of a run tell of the sessions at hand, whatever the paths are. -/
structure Recorded (marks : List Landmark) (relay : Relay) : Prop where
  /-- The sessions at hand are those that were opened, each for its path. -/
  registry : ∀ path session,
    relay.registry.sessions.get? path = some ⟨session, ()⟩ ↔ .opened path session ∈ marks
  once : OpenedOnce marks
  directed : Directed marks

/-- A session is asked for or opened only where none was opened. -/
theorem OpenedOnce.snoc {marks : List Landmark} {mark : Landmark} (once : OpenedOnce marks)
    (unopened : ∀ path, mark.path? = some path → ∀ session, .opened path session ∉ marks) :
    OpenedOnce (marks ++ [mark]) := by
  refine List.pairwise_append.2 ⟨once, List.pairwise_singleton .., ?_⟩
  rintro earlier member later last path session rfl asked
  rw [List.mem_singleton.1 last] at asked
  exact unopened path asked session member

section Posting

variable {marks more : List Landmark} {relay shared : Relay} {task : TaskId} {before : Stage}

/-- Where a path is not served, no session was opened for it. -/
theorem Recorded.unopened (recorded : Recorded marks relay) {path : String}
    (unserved : relay.registry.contains path = false) (session : String) :
    .opened path session ∉ marks := by
  -- What was opened for a path stands under its key, and there is nothing there.
  rw [← recorded.registry, Registry.get?_of_absent unserved]
  simp

/-- A key finds the session that was opened for all paths, or else its own. -/
theorem Recorded.session? (recorded : Recorded marks relay) (key session : String) :
    (relay.registry.session? key).map Session.id = some session ↔
      .opened globalKey session ∈ marks ∨ (∀ shared, .opened globalKey shared ∉ marks) ∧
        .opened key session ∈ marks := by
  rw [Registry.map_id_eq_some_iff]
  simp only [← recorded.registry, Registry.session?]
  cases found : relay.registry.sessions.get? globalKey with
  | none => simp
  | some shared =>
    cases shared
    simp

/-- Landmarks tell of the sessions at hand after a move if they did before. -/
theorem Recorded.move (recorded : Recorded marks relay)
    (marked : Marked relay shared task before more)
    (unserved : ∀ source request, before = .opening source request →
      relay.registry.contains source.origin.path = false) :
    Recorded (marks ++ more) shared := by
  cases marked with
  | aside registry opened =>
    rw [List.append_nil]
    exact ⟨registry ▸ recorded.registry, recorded.once, recorded.directed⟩
  | ask at_ unserved registry opened =>
    refine ⟨?_, recorded.once.snoc ?_, recorded.directed.snoc (by simp)⟩
    · simpa [registry] using recorded.registry
    · -- The path that is asked for has no session yet.
      rintro path ⟨⟩ session
      exact recorded.unopened unserved session
  | @open_ source request session at_ registry opened =>
    -- The path had no session, so the new one takes the place of none.
    have absent := recorded.unopened (unserved source request at_)
    have found : ∀ path, shared.registry.sessions.get? path =
        if path = source.origin.path then some ⟨session, ()⟩
        else relay.registry.sessions.get? path := fun path => by
      rw [registry]
      exact Dictionary.get?_insert ..
    refine ⟨fun path other => ?_, recorded.once.snoc ?_, recorded.directed.snoc (by simp)⟩
    · rw [found]
      split
      · next same => subst same; simp [absent, eq_comm]
      · next differ => simp [recorded.registry, differ]
    · rintro path ⟨⟩ other
      exact absent other
  | @route record at_ registry opened =>
    -- The session is looked up among those that were opened before.
    refine ⟨?_, recorded.once.snoc (by simp [Landmark.path?]), recorded.directed.snoc ?_⟩
    · simpa [registry] using recorded.registry
    · rintro route ⟨⟩ session
      exact recorded.session? record.origin.path session

end Posting

section Runs

variable {config : Config} {start relay : Relay} {actions : List Action}

/-- Where sessions are opened for manifests only, landmarks tell of the sessions at hand. -/
theorem recorded_of_run (fresh : Fresh config start) (multi : config.multiProject = true)
    (ran : start.run actions = some relay) (own : OwnSessions actions) :
    Recorded (start.landmarks actions) relay := by
  refine run_induction (fun actions relay => OwnSessions actions →
    Recorded (start.landmarks actions) relay) ?initial ?arrive ?register ?move ran own
  case initial =>
    intro _
    -- With a session for each manifest, none is there at first.
    obtain ⟨-, -, registry⟩ | ⟨single, -⟩ := fresh.sessions
    · have none_ : ∀ path, start.registry.sessions.get? path = none := fun path => by
        rw [registry]
        rfl
      refine ⟨fun path session => ?_, List.Pairwise.nil, fun before route after => ?_⟩
      · simp [none_, landmarks]
      · simp [landmarks]
    · simp [multi] at single
  case arrive =>
    intro past relay demand began ih own
    have recorded := ih own.earlier
    rw [landmarks_arrive began]
    exact ⟨by simpa using recorded.registry, recorded.once, recorded.directed⟩
  case register =>
    exact fun past relay key session _ _ own => absurd (by simp) (own key session)
  case move =>
    intro past relay action task before after shared began ih acts at_ move stepped own
    rw [landmarks_move began acts at_ move stepped]
    -- Whoever waits for a session has found that there is none, and nobody else has opened one.
    have unserved : ∀ source request, before = .opening source request →
        relay.registry.contains source.origin.path = false := by
      rintro source request rfl
      exact ((registered_of_run fresh began own.earlier).asked task source request at_).1
    have recorded := (ih own.earlier).move move.marked unserved
    exact ⟨recorded.registry, recorded.once, recorded.directed⟩

/-- A session is opened for a path only if somebody awaited one for it. -/
theorem unshared_of_run (fresh : Fresh config start) (ran : start.run actions = some relay)
    (plain : PlainSources actions) (session : String) :
    .opened globalKey session ∉ start.landmarks actions := by
  -- Arrivals and registrations leave no landmark, so only moves have to be looked at.
  refine run_induction (fun actions _ => PlainSources actions →
    .opened globalKey session ∉ start.landmarks actions) ?initial ?arrive ?register ?move ran plain
  case initial => exact fun _ => List.not_mem_nil
  case arrive =>
    intro past relay demand began ih plain
    rw [landmarks_arrive began]
    exact ih plain.earlier
  case register =>
    intro past relay key session began ih plain
    rw [landmarks_register began]
    exact ih plain.earlier
  case move =>
    intro past relay action task before after shared began ih acts at_ move stepped plain
    rw [landmarks_move began acts at_ move stepped, List.mem_append, not_or]
    refine ⟨ih plain.earlier, fun passed => ?_⟩
    -- Whoever opens a session has awaited it, and not for all paths.
    have marked := move.marked
    generalize relay.passed shared task before after = marks at passed marked
    cases marked with
    | @open_ source request session at_opening =>
      have awaits := plain_of_run fresh began plain.earlier task before at_ source
        (by simp [at_opening, Stage.awaiting])
      simp_all
    | _ => simp at passed

/-- What the landmarks of every move tell of what it shows, those of a run tell of the run. -/
theorem filterMap_landmarks {α β : Type} {look : Relay → TaskId → Stage → Stage → List α}
    {keep : α → Option β} {read : Landmark → Option β}
    (tell : ∀ {relay shared : Relay} {task before after}, Move relay task before after shared →
      (look relay task before after).filterMap keep =
        (relay.passed shared task before after).filterMap read)
    (ran : start.run actions = some relay) :
    (start.watch look actions).filterMap keep = (start.landmarks actions).filterMap read := by
  -- Both grow with moves only, and by what the same move shows and passes.
  refine run_induction (fun actions _ => (start.watch look actions).filterMap keep =
    (start.landmarks actions).filterMap read) ?initial ?arrive ?register ?move ran
  case initial => rfl
  case arrive =>
    intro past relay demand began ih
    rwa [watch_arrive began, landmarks_arrive began]
  case register =>
    intro past relay key session began ih
    rwa [watch_register began, landmarks_register began]
  case move =>
    intro past relay action task before after shared began ih acts at_ move stepped
    rw [landmarks_move began acts at_ move stepped, watch_move began acts at_ move stepped,
      List.filterMap_append, List.filterMap_append, ih, tell move]

/-- The routes of records are those of the landmarks. -/
theorem routes_of_run (ran : start.run actions = some relay) :
    start.routed actions = (start.landmarks actions).filterMap Landmark.route? := by
  have told : (start.routed actions).filterMap some =
      (start.landmarks actions).filterMap Landmark.route? :=
    filterMap_landmarks (fun move => by rw [List.filterMap_some, move.routes]) ran
  rwa [List.filterMap_some] at told

end Runs

end Relay

end InsightRelay
