import InsightRelay.Proofs.Relay.Move
import InsightRelay.Relay.Start
import Mathlib.Data.List.Induction

/-! Histories: what can be seen of a relay while it runs, from its start on.

Runs are taken one action at a time, and what holds at the start and outlasts every arrival, every
registration and every move holds after every run. -/

namespace InsightRelay

/-- Whether a demand is made of a whole relay, and not of its queue or its workers alone. -/
def Demand.isWhole : Demand → Bool
  | submit _ => true
  | bring _ => true
  | finish => true
  | waitDrained => false
  | stop => false

/-- A record that a worker gave to the session of its manifest, or for which there was none. -/
structure Route where
  worker : TaskId
  record : PackageRecord
  session : Option String
deriving DecidableEq

/-- The request that publishes the record of a route, unless it had no session. -/
def Route.request? (route : Route) : Option Message.PublishPackageInsightRequest :=
  route.session.map route.record.request

namespace Config

variable {config : Config}

/-- The check of a configuration passes it on as it is. -/
theorem validate_eq_ok_iff {passed : Config} :
    config.validate = .ok passed ↔ config.fault? = none ∧ config = passed := by
  unfold validate
  cases config.fault? <;> simp

/-- A configuration without faults has a request for every project. -/
theorem exists_sessionRequest (valid : config.validate = .ok config) (project : String) :
    ∃ request, config.sessionRequest project = .ok request := by
  -- A request needs a trigger that has a name, and the check of the configuration asks for one.
  cases named : config.toolTrigger with
  | ok trigger =>
    simp [sessionRequest, named, Except.mapError, bind, Except.bind, pure, Except.pure]
  | error fault =>
    exfalso
    have faultless := (validate_eq_ok_iff.1 valid).1
    simp only [fault?, named] at faultless
    repeat' split at faultless
    all_goals simp at faultless

end Config

namespace Relay

/-- The demand that an action brings, if it brings one. -/
def Action.demand? : Action → Option Demand
  | arrive demand => some demand
  | _ => none

/-- The relay that a configuration calls for at the moment when its workers begin. -/
def launch {σ : Type} (config : Config) (service : Service σ) (state : σ) :
    Except StartFault Relay :=
  (prepare config service state).1.map fun relay =>
    (relay.startWorkers config.effectiveWorkerCount).1

/-- All actions are open to the callers of a whole relay. -/
def WholeDemands (actions : List Action) : Prop :=
  ∀ demand, .arrive demand ∈ actions → demand.isWhole = true

instance (actions : List Action) : Decidable (WholeDemands actions) :=
  decidable_of_iff (∀ demand ∈ actions.filterMap Action.demand?, demand.isWhole = true) <| by
    constructor
    · exact fun whole demand member => whole demand (List.mem_filterMap.2 ⟨_, member, rfl⟩)
    · intro whole demand member
      obtain ⟨action, inside, brings⟩ := List.mem_filterMap.1 member
      cases action with
      | arrive found =>
        obtain rfl : found = demand := by simpa [Action.demand?] using brings
        exact whole _ inside
      | _ => simp [Action.demand?] at brings

/-- Demands of a whole relay were such from the beginning. -/
theorem WholeDemands.earlier {past : List Action} {action : Action}
    (whole : WholeDemands (past ++ [action])) : WholeDemands past :=
  fun demand member => whole demand (List.mem_append_left _ member)

/-- The callers that arrive during a run, with what they want. -/
def callers (start : Relay) (actions : List Action) : List (Demand × TaskId) :=
  -- Tasks are named in the order in which they begin, and the workers came before all callers.
  (actions.filterMap Action.demand?).zipIdx start.tasks.length

/-- Whoever arrives during a run brings a demand. -/
theorem mem_demands {actions : List Action} {demand : Demand} (member : .arrive demand ∈ actions) :
    demand ∈ actions.filterMap Action.demand? :=
  List.mem_filterMap.2 ⟨_, member, rfl⟩

/-- Every caller came with one of the demands. -/
theorem demand_of_callers {start : Relay} {actions : List Action} {demand : Demand} {caller : TaskId}
    (arrived : (demand, caller) ∈ start.callers actions) :
    demand ∈ actions.filterMap Action.demand? :=
  List.fst_mem_of_mem_zipIdx arrived

/-- What an action shows to one who looks at the stages that a task goes from and to. -/
def glimpse {α : Type} (look : Relay → TaskId → Stage → Stage → List α) (relay : Relay)
    (action : Action) (next : Relay) : List α :=
  match action.task? with
  | none => []
  | some task =>
    match relay.stage? task, next.stage? task with
    | some before, some after => look relay task before after
    | _, _ => []

/-- What a run shows to one who looks at the stages that tasks go from and to. -/
def watch {α : Type} (look : Relay → TaskId → Stage → Stage → List α) (relay : Relay) :
    (actions : List Action) → List α
  | [] => []
  | action :: actions =>
    match relay.step action with
    | none => []
    | some next => relay.glimpse look action next ++ next.watch look actions

/-- A record is counted. -/
def seeAccepted (_ : Relay) (task : TaskId) (before after : Stage) :
    List (TaskId × PackageRecord) :=
  match before, after with
  | .offering record _, .counted .. => [(task, record)]
  | _, _ => []

/-- A record leaves the queue for a worker. -/
def seeDispatched (_ : Relay) (task : TaskId) (before after : Stage) :
    List (TaskId × PackageRecord) :=
  match before, after with
  | .inLine _, .dispatching record => [(task, record)]
  | _, _ => []

/-- A worker looks up the session for its record. -/
def seeRouted (relay : Relay) (task : TaskId) (before _ : Stage) : List Route :=
  match before with
  | .dispatching record =>
    [⟨task, record, (relay.registry.session? record.origin.path).map Session.id⟩]
  | _ => []

/-- A worker is done with its record. -/
def seeResolved (_ : Relay) (task : TaskId) (before after : Stage) :
    List (TaskId × PackageRecord) :=
  match before, after with
  | .dispatching record, .seeking => [(task, record)]
  | .publishing record _, .seeking => [(task, record)]
  | _, _ => []

/-- A call begins. -/
def seeCall (_ : Relay) (task : TaskId) (_ after : Stage) : List (TaskId × Call) :=
  after.call?.toList.map fun call => (task, call)

/-- The records that are counted during a run, with the callers that bring them. -/
def accepted (start : Relay) (actions : List Action) : List (TaskId × PackageRecord) :=
  start.watch seeAccepted actions

/-- The records that leave the queue during a run, with the workers that take them. -/
def dispatched (start : Relay) (actions : List Action) : List (TaskId × PackageRecord) :=
  start.watch seeDispatched actions

/-- What becomes of the records that workers look up sessions for during a run. -/
def routed (start : Relay) (actions : List Action) : List Route :=
  start.watch seeRouted actions

/-- The records that are resolved during a run, with the workers that had them. -/
def resolved (start : Relay) (actions : List Action) : List (TaskId × PackageRecord) :=
  start.watch seeResolved actions

/-- The calls that are made during a run, in the order in which they begin. -/
def calls (start : Relay) (actions : List Action) : List (TaskId × Call) :=
  start.watch seeCall actions

/-- A run is a shorter run and one more step. -/
theorem run_snoc {start next : Relay} {past : List Action} {action : Action} :
    start.run (past ++ [action]) = some next ↔
      ∃ relay, start.run past = some relay ∧ relay.step action = some next := by
  simp [run, List.foldlM_append, Option.bind_eq_some_iff]

/-- A run can be taken up where another one ended. -/
theorem run_append {start relay : Relay} {past : List Action} (ran : start.run past = some relay)
    (more : List Action) : start.run (past ++ more) = relay.run more := by
  simp only [run] at ran ⊢
  rw [List.foldlM_append, ran]
  rfl

/-- A caller of a whole relay brings nothing but its own task. -/
theorem arrive_of_isWhole {demand : Demand} (whole : demand.isWhole = true) (relay : Relay) :
    (relay.arrive demand).1 = { relay with tasks := relay.tasks ++ [demand.stage relay.config] } := by
  cases demand with
  | stop => simp [Demand.isWhole] at whole
  | _ => rfl

/-- What holds at the start and outlasts arrivals, registrations and moves holds after every run. -/
theorem run_induction {start : Relay} (Holds : List Action → Relay → Prop)
    (initial : Holds [] start)
    (arrive : ∀ past relay demand, start.run past = some relay → Holds past relay →
      Holds (past ++ [.arrive demand]) (relay.arrive demand).1)
    (register : ∀ past relay key session, start.run past = some relay → Holds past relay →
      Holds (past ++ [.register key session]) (relay.register key session))
    (move : ∀ past relay action task before after shared, start.run past = some relay →
      Holds past relay → action.task? = some task → relay.stage? task = some before →
      Move relay task before after shared →
      relay.step action = some (shared.withStage task after) →
      Holds (past ++ [action]) (shared.withStage task after))
    {actions : List Action} {relay : Relay} (ran : start.run actions = some relay) :
    Holds actions relay := by
  -- The induction takes the last action off, as invariants speak of the state before it.
  induction actions using List.reverseRecOn generalizing relay with
  | nil =>
    obtain rfl : start = relay := by simpa [run] using ran
    exact initial
  | append_singleton past action ih =>
    obtain ⟨earlier, began, stepped⟩ := run_snoc.1 ran
    -- An action is an arrival, a registration or the move of a task.
    rcases step_cases stepped with
      ⟨demand, rfl, rfl⟩ | ⟨key, session, rfl, rfl⟩ |
        ⟨task, acts, before, after, shared, at_, moves, rfl⟩
    · exact arrive past earlier demand began (ih began)
    · exact register past earlier key session began (ih began)
    · exact move past earlier action task before after shared began (ih began) acts at_ moves
        stepped

section Watch

variable {α : Type} {look : Relay → TaskId → Stage → Stage → List α}
variable {start relay : Relay} {past : List Action}

/-- A run that is taken up shows what there is to see in both of its parts. -/
theorem watch_append (ran : start.run past = some relay) (more : List Action) :
    start.watch look (past ++ more) = start.watch look past ++ relay.watch look more := by
  -- What is shown is told from the front, so the start of the run moves along.
  induction past generalizing start with
  | nil =>
    obtain rfl : start = relay := by simpa [run] using ran
    rfl
  | cons first past ih =>
    obtain ⟨second, began, rest⟩ := Option.bind_eq_some_iff.1 (by simpa [run] using ran)
    simp only [List.cons_append, watch, began, List.append_assoc]
    rw [ih rest]

/-- One more step shows one more glimpse. -/
theorem watch_snoc {next : Relay} {action : Action} (ran : start.run past = some relay)
    (stepped : relay.step action = some next) :
    start.watch look (past ++ [action]) =
      start.watch look past ++ relay.glimpse look action next := by
  rw [watch_append ran]
  simp [watch, stepped]

/-- An arrival shows nothing. -/
@[simp] theorem watch_arrive (ran : start.run past = some relay) (demand : Demand) :
    start.watch look (past ++ [.arrive demand]) = start.watch look past := by
  have stepped : relay.step (.arrive demand) = some (relay.arrive demand).1 := rfl
  rw [watch_snoc ran stepped]
  simp [glimpse, Action.task?]

/-- A registration shows nothing. -/
@[simp] theorem watch_register (ran : start.run past = some relay) (key session : String) :
    start.watch look (past ++ [.register key session]) = start.watch look past := by
  have stepped : relay.step (.register key session) = some (relay.register key session) := rfl
  rw [watch_snoc ran stepped]
  simp [glimpse, Action.task?]

/-- A move shows what there is to see between its two stages. -/
theorem watch_move {action : Action} {task : TaskId} {before after : Stage} {shared : Relay}
    (ran : start.run past = some relay) (acts : action.task? = some task)
    (at_ : relay.stage? task = some before) (move : Move relay task before after shared)
    (stepped : relay.step action = some (shared.withStage task after)) :
    start.watch look (past ++ [action]) = start.watch look past ++ look relay task before after := by
  -- The stages that a look compares are the ones before and after the move.
  rw [watch_snoc ran stepped]
  simp [glimpse, acts, at_, move.stage? at_]

/-- What holds of everything that a move can show holds of everything that a run shows. -/
theorem forall_of_watch {Holds : α → Prop} {actions : List Action}
    (each : ∀ {past relay action task before after shared}, start.run past = some relay →
      relay.stage? task = some before → Move relay task before after shared →
      start.run (past ++ [action]) = some (shared.withStage task after) →
      ∀ thing ∈ look relay task before after, Holds thing)
    (ran : start.run actions = some relay) : ∀ thing ∈ start.watch look actions, Holds thing := by
  -- Arrivals and registrations show nothing new, so only a move adds to what has been seen.
  refine run_induction (fun actions _ => ∀ thing ∈ start.watch look actions, Holds thing)
    nofun ?arrive ?register ?move ran
  case arrive =>
    intro past relay demand began ih
    rwa [watch_arrive began]
  case register =>
    intro past relay key session began ih
    rwa [watch_register began]
  case move =>
    intro past relay action task before after shared began ih acts at_ move stepped
    rw [watch_move began acts at_ move stepped]
    exact List.forall_mem_append.2
      ⟨ih, each began at_ move (run_snoc.2 ⟨relay, began, stepped⟩)⟩

end Watch

/-- Whoever moves a task brings no demand. -/
theorem demand?_of_task? {action : Action} {task : TaskId} (acts : action.task? = some task) :
    action.demand? = none := by
  cases action <;> simp_all [Action.task?, Action.demand?]

/-- What is known of a relay at the moment when its workers begin. -/
structure Fresh (config : Config) (relay : Relay) : Prop where
  config_eq : relay.config = config
  queue : relay.queue = Queue.empty config.queueCapacity
  desk : relay.desk = []
  finishers : relay.finishers = []
  taken : relay.taken = []
  tasks : relay.tasks = List.replicate config.effectiveWorkerCount .seeking
  pool : relay.pool.isSome = true
  events : relay.events = []
  /-- Either no session was asked for, or one was granted for all keys. -/
  sessions :
    (config.multiProject = true ∧ relay.journal = [] ∧ relay.registry = Registry.empty) ∨
    (config.multiProject = false ∧ ∃ request session,
      config.sessionRequest config.projectName = .ok request ∧
      relay.journal = [⟨none, .create request, .granted session⟩] ∧
      relay.registry = (Registry.empty.add globalKey ⟨session, ()⟩).1)

/-- A fresh relay has no tasks but workers that have not yet asked for a record. -/
theorem Fresh.seeking {config : Config} {start : Relay} (fresh : Fresh config start) {task : TaskId}
    {stage : Stage} (at_ : start.stage? task = some stage) : stage = .seeking := by
  rw [stage?, fresh.tasks] at at_
  exact List.eq_of_mem_replicate (List.mem_of_getElem? at_)

/-- Furnishing succeeds only with an empty queue and at most one session. -/
private theorem furnish_eq {config : Config} {session : Option String} {journal : List Exchange}
    {relay : Relay} (furnished : furnish config session journal = .ok relay) :
    relay = { idle config (Queue.empty config.queueCapacity) with
      journal := journal
      registry := match session with
        | some session => (Registry.empty.add globalKey ⟨session, ()⟩).1
        | none => Registry.empty } := by
  -- The one thing that can fail is a capacity that no queue can have.
  unfold furnish Queue.create? at furnished
  split at furnished
  · simp at furnished
  · next queue made =>
    split at made
    · simp at made
    · cases made
      cases session with
      | none => exact (Except.ok.inj furnished).symm
      | some session => exact (Except.ok.inj furnished).symm

/-- Workers that start where none were do not change what else there is. -/
private theorem fresh_startWorkers {config : Config} {journal : List Exchange} {registry : Registry Unit}
    (sessions : (config.multiProject = true ∧ journal = [] ∧ registry = Registry.empty) ∨
      (config.multiProject = false ∧ ∃ request session,
        config.sessionRequest config.projectName = .ok request ∧
        journal = [⟨none, .create request, .granted session⟩] ∧
        registry = (Registry.empty.add globalKey ⟨session, ()⟩).1)) :
    Fresh config (startWorkers { idle config (Queue.empty config.queueCapacity) with
      journal := journal, registry := registry } config.effectiveWorkerCount).1 where
  config_eq := rfl
  queue := rfl
  desk := rfl
  finishers := rfl
  taken := rfl
  tasks := rfl
  pool := rfl
  events := rfl
  sessions := sessions

/-- Every relay that was launched is fresh. -/
theorem fresh_of_launch {σ : Type} {config : Config} {service : Service σ} {state : σ}
    {start : Relay} (launched : launch config service state = .ok start) : Fresh config start := by
  -- Each check and each call on the way has to succeed, or nothing is launched.
  unfold launch prepare at launched
  cases valid : config.validate with
  | error problem => simp [valid, Except.map] at launched
  | ok passed =>
    obtain ⟨-, rfl⟩ := Config.validate_eq_ok_iff.1 valid
    simp only [valid] at launched
    cases mode : config.multiProject with
    | true =>
      -- Each manifest will have its own session, so none is asked for now.
      simp only [mode, if_true] at launched
      cases made : furnish config none [] with
      | error fault => simp [made, Except.map] at launched
      | ok relay =>
        simp only [made, Except.map, Except.ok.injEq] at launched
        rw [← launched, furnish_eq made]
        exact fresh_startWorkers (.inl ⟨mode, rfl, rfl⟩)
    | false =>
      simp only [mode] at launched
      -- One session is asked for, and the service has to open it.
      cases written : config.sessionRequest config.projectName with
      | error problem => simp [written, Except.map] at launched
      | ok request =>
        cases answered : service.reply state (.create request) with
        | mk reply later =>
          cases reply with
          | refused problem => simp [written, answered, Except.map] at launched
          | crashed => simp [written, answered, Except.map] at launched
          | granted session =>
            simp only [written, answered] at launched
            cases made : furnish config (some session)
                [⟨none, .create request, .granted session⟩] with
            | error fault => simp [made, Except.map] at launched
            | ok relay =>
              simp [made, Except.map] at launched
              rw [← launched, furnish_eq made]
              exact fresh_startWorkers (.inr ⟨mode, request, session, written, rfl, rfl⟩)

/-- A relay is launched only for a configuration without faults. -/
theorem valid_of_launch {σ : Type} {config : Config} {service : Service σ} {state : σ}
    {start : Relay} (launched : launch config service state = .ok start) :
    config.validate = .ok config := by
  cases valid : config.validate with
  | error problem => simp [launch, prepare, valid, Except.map] at launched
  | ok passed => rw [(Config.validate_eq_ok_iff.1 valid).2]

/-- The configuration of a relay that was launched allows requests for sessions. -/
theorem askable_of_launch {σ : Type} {config : Config} {service : Service σ} {state : σ}
    {start : Relay} (launched : launch config service state = .ok start) (project : String) :
    ∃ request, config.sessionRequest project = .ok request :=
  Config.exists_sessionRequest (valid_of_launch launched) project

/-- No run changes the configuration. -/
theorem config_of_run {start relay : Relay} {actions : List Action}
    (ran : start.run actions = some relay) : relay.config = start.config := by
  refine run_induction (fun _ relay => relay.config = start.config) rfl ?arrive ?register ?move ran
  case arrive => exact fun past relay demand _ ih => (config_arrive relay demand).trans ih
  case register => exact fun past relay key session _ ih => ih
  case move =>
    exact fun past relay action task before after shared _ ih _ _ move _ => move.config.trans ih

section Rehearsal

/-- A configuration to rehearse with: a session for each manifest, one worker and room for one
record. -/
def rehearsalConfig : Config :=
  { baseUrl := "http://localhost", projectName := "demo", multiProject := true, workerCount := 1,
    queueCapacity := 1 }

/-- A manifest to rehearse with, in which one of two packages has no name. -/
def webManifest : Manifest where
  ecosystem := .npm
  path := "web/package.json"
  displayPath := none
  packages := [⟨"left-pad", "1.3.0", none⟩, ⟨" ", "0.0.1", none⟩]
  dependencyGraph := none

/-- Another manifest to rehearse with. -/
def coreManifest : Manifest where
  ecosystem := .cratesIo
  path := "core/Cargo.toml"
  displayPath := none
  packages := [⟨"serde", "1.0.0", none⟩]
  dependencyGraph := none

/-- One task takes a number of steps. -/
def steps (task : TaskId) (count : Nat) : List Action :=
  List.replicate count (.advance task)

/-- A run in which both manifests are brought and a caller finishes, up to the first completion.

The worker is task 0, the manifests are brought by tasks 1 and 2, and task 3 finishes. -/
def rehearsalToDrain : List Action :=
  [.arrive (.addManifest webManifest)] ++ steps 1 3 ++ [.answer 1 (.granted "session-0")] ++
  steps 1 6 ++ [.arrive (.addManifest coreManifest)] ++ steps 2 3 ++
  -- The second record has to wait until the worker takes the first one.
  [.answer 2 (.granted "session-1")] ++ steps 2 3 ++ steps 0 3 ++ steps 2 2 ++
  [.arrive .finish] ++ steps 3 3 ++ [.answer 0 (.granted "")] ++ steps 0 3 ++
  [.answer 0 (.refused .transport)] ++ steps 3 2 ++ steps 0 2 ++ steps 3 4

/-- The same run to its end, where the first of two sessions is not completed. -/
def rehearsal : List Action :=
  rehearsalToDrain ++ steps 3 1 ++ [.answer 3 (.refused .transport)] ++ steps 3 1 ++
  [.answer 3 (.granted "")] ++ steps 3 1

/-- The rehearsal can take place. -/
theorem exists_rehearsal : ∃ start relay,
    launch rehearsalConfig Script.smooth.service 0 = .ok start ∧
      start.run rehearsal = some relay :=
  ⟨_, _, rfl, rfl⟩

/-- The last caller of the rehearsal finishes. -/
theorem finisher_of_rehearsal {start : Relay}
    (launched : launch rehearsalConfig Script.smooth.service 0 = .ok start) :
    (Demand.finish, 3) ∈ start.callers rehearsal := by
  cases launched
  exact .tail _ (.tail _ (.head _))

end Rehearsal

end Relay

end InsightRelay
