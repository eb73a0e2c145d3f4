import InsightRelay.Proofs.Relay.Cargo
import Mathlib.Algebra.GroupWithZero.Nat

/-! Balances: every record that was counted is in exactly one place, and all counters tell how many
records are where.

A balance sets the records that came in against those that left and those that tasks still have. -/

namespace InsightRelay.Relay

/-- The weights of all tasks together. -/
def tally (relay : Relay) (weight : TaskId → Stage → Nat) : Nat :=
  (relay.tasks.mapIdx weight).sum

private theorem sum_set {weights : List Nat} {position old : Nat}
    (there : weights[position]? = some old) (new : Nat) :
    (weights.set position new).sum + old = weights.sum + new := by
  -- Stated with a sum on each side, so that nothing is subtracted.
  induction weights generalizing position with
  | nil => simp at there
  | cons first rest ih =>
    cases position with
    | zero =>
      obtain rfl : first = old := by simpa using there
      simp only [List.set_cons_zero, List.sum_cons]
      omega
    | succ position =>
      have := ih (by simpa using there)
      -- The first weight is counted on both sides.
      simp only [List.set_cons_succ, List.sum_cons]
      omega

/-- A move exchanges the weight of one stage for that of another. -/
theorem tally_move {relay shared : Relay} {task : TaskId} {before : Stage}
    (tasks : shared.tasks = relay.tasks) (at_ : relay.stage? task = some before) (after : Stage)
    (weight : TaskId → Stage → Nat) :
    (shared.withStage task after).tally weight + weight task before =
      relay.tally weight + weight task after := by
  -- The list of weights changes at the place of the task alone.
  have there : (relay.tasks.mapIdx weight)[task]? = some (weight task before) := by
    rw [List.getElem?_mapIdx]
    exact congrArg (Option.map (weight task)) at_
  simp only [tally, withStage, tasks, List.mapIdx_set]
  exact sum_set there _

/-- An arrival adds the weight of its own stage. -/
theorem tally_arrive (relay : Relay) (demand : Demand) (weight : TaskId → Stage → Nat) :
    (relay.arrive demand).1.tally weight =
      relay.tally weight + weight relay.tasks.length (demand.stage relay.config) := by
  simp [tally, tasks_arrive]

/-- Without weight there is no task that has any. -/
theorem weight_eq_zero {relay : Relay} {weight : TaskId → Stage → Nat}
    (none_ : relay.tally weight = 0) {task : TaskId} {stage : Stage}
    (at_ : relay.stage? task = some stage) : weight task stage = 0 := by
  have there : (relay.tasks.mapIdx weight)[task]? = some (weight task stage) := by
    rw [List.getElem?_mapIdx]
    exact congrArg (Option.map (weight task)) at_
  exact List.sum_eq_zero_iff_forall_eq_nat.1 none_ _ (List.mem_of_getElem? there)

/-- A task has no weight where all weights are zero. -/
theorem tally_eq_zero {relay : Relay} {weight : TaskId → Stage → Nat}
    (weightless : ∀ task stage, relay.stage? task = some stage → weight task stage = 0) :
    relay.tally weight = 0 := by
  refine List.sum_eq_zero_iff_forall_eq_nat.2 fun value member => ?_
  obtain ⟨task, inside, rfl⟩ := List.mem_mapIdx.1 member
  exact weightless task _ (List.getElem?_eq_getElem inside)

/-- A weight that counts those tasks that a condition picks. -/
def pick (chosen : Prop) [Decidable chosen] : Nat :=
  if chosen then 1 else 0

@[simp] theorem books_withStage (relay : Relay) (task : TaskId) (stage : Stage) :
    (relay.withStage task stage).books = relay.books := rfl

@[simp] theorem books_arrive (relay : Relay) (demand : Demand) :
    (relay.arrive demand).1.books = relay.books := by
  simp [books]

@[simp] theorem books_register (relay : Relay) (key session : String) :
    (relay.register key session).books = relay.books := rfl

/-- A caller that has just arrived has no record that is accepted. -/
@[simp] theorem cargo_stage (demand : Demand) (config : Config) :
    (demand.stage config).cargo = .nothing := by
  cases demand with
  | bring source => cases mode : config.multiProject <;> simp [Demand.stage, mode, Stage.cargo]
  | _ => rfl

/-- A caller that has just arrived has been told of no record. -/
@[simp] theorem credit_stage (demand : Demand) (config : Config) :
    (demand.stage config).credit = 0 := by
  cases demand with
  | bring source => cases mode : config.multiProject <;> simp [Demand.stage, mode] <;> rfl
  | _ => rfl

@[simp] theorem cargo_placing (errand : Errand) : (Stage.placing errand).cargo = .queued := rfl

@[simp] theorem cargo_placed (errand : Errand) : errand.placed.cargo = .nothing := by
  cases errand <;> rfl

@[simp] theorem credit_placed (errand : Errand) : errand.placed.credit = errand.credit + 1 := by
  cases errand <;> rfl

/-- Nobody stands twice in the line of submitters, and all in it are callers that wait there. -/
structure Lined (relay : Relay) : Prop where
  once : (relay.books.submitters.map Prod.fst).Nodup
  waiting : ∀ entry ∈ relay.books.submitters,
    (relay.stage? entry.1).map Stage.cargo = some .queued

namespace Lined

variable {relay shared : Relay} {task : TaskId} {before after : Stage}

/-- One who carries something else than a place in line is not in the line of submitters. -/
theorem absent (lined : Lined relay) (at_ : relay.stage? task = some before)
    (other : before.cargo ≠ .queued) : ∀ entry ∈ relay.books.submitters, entry.1 ≠ task := by
  intro entry member same
  have waits := lined.waiting entry member
  rw [same, at_] at waits
  exact other (Option.some.inj waits)

/-- Every move of a relay in order hands records on in one of the known ways. -/
theorem flow (lined : Lined relay) (at_ : relay.stage? task = some before)
    (move : Move relay task before after shared) : Flow relay shared task before after :=
  move.flow fun looked worker => lined.absent at_ (by rw [worker]; cases looked <;> decide)

/-- In line are those that were before, unless they are the one that moves. -/
private theorem waiting_move (lined : Lined relay) (at_ : relay.stage? task = some before)
    (move : Move relay task before after shared) {entry : Ticket × PackageRecord}
    (member : entry ∈ relay.books.submitters) (other : entry.1 ≠ task) :
    ((shared.withStage task after).stage? entry.1).map Stage.cargo = some .queued := by
  rw [move.stage? at_, if_neg other]
  exact lined.waiting entry member

/-- The line of submitters stays in order whatever move is made. -/
theorem move (lined : Lined relay) (at_ : relay.stage? task = some before)
    (move : Move relay task before after shared) : Lined (shared.withStage task after) := by
  -- The line changes only when a caller joins it or gets its place.
  cases lined.flow at_ move with
  | still cargo credit books =>
    refine ⟨by simpa [books] using lined.once, fun entry member => ?_⟩
    rw [books_withStage, books] at member
    -- The mover may be in line itself, and then it waits there as before.
    by_cases same : entry.1 = task
    · rw [move.stage? at_, if_pos same]
      have waits := lined.waiting entry member
      rw [same, at_] at waits
      simpa [cargo] using waits
    · exact lined.waiting_move at_ move member same
  | @line record errand books =>
    -- One that has its record in hand is not in line yet, so it joins with a new name.
    have absent := lined.absent at_ (by simp [Stage.cargo])
    constructor
    · have fresh : task ∉ relay.books.submitters.map Prod.fst := fun member => by
        obtain ⟨entry, inside, same⟩ := List.mem_map.1 member
        exact absent entry inside same
      rw [books_withStage, books, List.map_append, List.nodup_append]
      refine ⟨lined.once, by simp, fun ticket member other single same => fresh ?_⟩
      obtain rfl : other = task := by simpa using single
      exact same ▸ member
    · intro entry member
      simp only [books_withStage, books, List.mem_append, List.mem_singleton] at member
      rcases member with member | rfl
      · exact lined.waiting_move at_ move member (absent entry member)
      · simp [move.stage? at_, Stage.cargo]
  | place member books =>
    -- All entries of the one that leaves are taken out, and the others wait on.
    constructor
    · simp only [books_withStage, books]
      exact lined.once.sublist (List.filter_sublist.map _)
    · intro entry inside
      simp only [books_withStage, books, List.mem_filter, bne_iff_ne] at inside
      exact lined.waiting_move at_ move inside.1 inside.2
  | accept books | take front books | drop homeless books | publish found books
  | published books | rejected books | crash books =>
    -- The mover has something else to do than to wait in line.
    have absent := lined.absent at_ (by simp [Stage.cargo])
    refine ⟨by simpa [books] using lined.once, fun entry member => ?_⟩
    have inside : entry ∈ relay.books.submitters := by simpa [books] using member
    exact lined.waiting_move at_ move inside (absent entry inside)

/-- An arrival joins no line of submitters. -/
theorem arrive (lined : Lined relay) (demand : Demand) : Lined (relay.arrive demand).1 := by
  refine ⟨by simpa using lined.once, fun entry member => ?_⟩
  have waits := lined.waiting entry (by simpa using member)
  rw [stage?_arrive, if_neg, waits]
  -- The name of the new task was not in use before.
  intro same
  have unused : relay.stage? relay.tasks.length = none := List.getElem?_eq_none (Nat.le_refl _)
  simp [same, unused] at waits

end Lined

/-- A line of submitters that is in order stays so, however the relay runs on. -/
theorem Lined.run {start relay : Relay} {actions : List Action} (lined : Lined start)
    (ran : start.run actions = some relay) : Lined relay := by
  refine run_induction (fun _ relay => Lined relay) lined ?arrive ?register ?move ran
  case arrive => exact fun past relay demand _ lined => lined.arrive demand
  case register => exact fun past relay key session _ lined => ⟨lined.once, lined.waiting⟩
  case move =>
    exact fun past relay action task before after shared _ lined _ at_ move _ => lined.move at_ move

/-- In a fresh relay nobody is in line. -/
theorem Fresh.lined {config : Config} {start : Relay} (fresh : Fresh config start) : Lined start := by
  have empty : start.books.submitters = [] := by simp [books, fresh.queue, Queue.empty]
  exact ⟨by simp [empty], by simp [empty]⟩

/-- The line of submitters is in order after every run. -/
theorem lined_of_run {config : Config} {start relay : Relay} {actions : List Action}
    (fresh : Fresh config start) (ran : start.run actions = some relay) : Lined relay :=
  fresh.lined.run ran

/-- Of records that are accepted, how many a task at a stage has itself. -/
def load (_ : TaskId) (stage : Stage) : Nat :=
  pick (stage.cargo.record?.isSome = true)

/-- Whether a caller has a record that is not yet in line. -/
def loadCounted (record : PackageRecord) (_ : TaskId) (stage : Stage) : Nat :=
  pick (stage.cargo = .counted record)

/-- Whether a worker has taken a record and not yet looked at it. -/
def loadFetched (entry : TaskId × PackageRecord) (task : TaskId) (stage : Stage) : Nat :=
  pick (task = entry.1 ∧ stage.cargo = .fetched entry.2)

/-- Whether a worker waits for a publication. -/
def loadSent (entry : TaskId × Message.PublishPackageInsightRequest) (task : TaskId)
    (stage : Stage) : Nat :=
  pick (task = entry.1 ∧ stage.cargo.request? = some entry.2)

/-- Whether a worker has a record. -/
def loadHeld (entry : TaskId × PackageRecord) (task : TaskId) (stage : Stage) : Nat :=
  pick (task = entry.1 ∧ stage.cargo.held? = some entry.2)

/-- The publication that a route leads to, if it leads to one. -/
def publication? (route : Route) : Option (TaskId × Message.PublishPackageInsightRequest) :=
  route.request?.map fun request => (route.worker, request)

namespace Flow

variable {relay shared : Relay} {task : TaskId} {before after : Stage}

/-- A caller is given credit for exactly the records that are counted. -/
theorem credit (flow : Flow relay shared task before after) :
    after.credit = before.credit + (relay.seeAccepted task before after).length := by
  -- The credit for a record comes when it is counted, and its place only confirms it.
  cases flow with
  | still cargo credit books unaccepted => simp [credit, unaccepted]
  | place member books => exact credit_placed _
  | _ => simp [seeAccepted, Stage.credit]

/-- The queue counts a record as submitted when it is accepted. -/
theorem submitted (flow : Flow relay shared task before after) :
    shared.books.submitted =
      relay.books.submitted + (relay.seeAccepted task before after).length := by
  cases flow with
  | still cargo credit books unaccepted => simp [books, unaccepted]
  | _ => simp_all [seeAccepted]

/-- Every record that is resolved is either published or failed. -/
theorem settled (flow : Flow relay shared task before after) :
    shared.books.published + shared.books.failed =
      relay.books.published + relay.books.failed +
        (relay.seeResolved task before after).length := by
  -- Only a reply and the drop of a record count, and each of them resolves one record.
  cases flow with
  | still cargo credit books _ _ _ unresolved => simp [books, unresolved]
  | _ => simp_all [seeResolved] <;> omega

/-- A record is pending from the moment when it is accepted to that when it is resolved. -/
theorem pending (flow : Flow relay shared task before after) :
    shared.books.pending = relay.books.pending + (relay.seeAccepted task before after).length -
      (relay.seeResolved task before after).length := by
  cases flow with
  | still cargo credit books unaccepted _ _ unresolved => simp [books, unaccepted, unresolved]
  | _ => simp_all [seeAccepted, seeResolved]

/-- The queue counts a record as published when its publication is granted. -/
theorem granted (flow : Flow relay shared task before after) :
    shared.books.published + relay.books.granted = relay.books.published + shared.books.granted := by
  -- Both counters go up in the one move that a granted publication makes.
  cases flow with
  | published books => simp only [books]; omega
  | still cargo credit books => rw [books]
  | _ => simp_all

/-- The queue counts a record as failed when its publication is refused or it has no session. -/
theorem failed (flow : Flow relay shared task before after) :
    shared.books.failed + relay.books.refused =
      relay.books.failed + shared.books.refused +
        (relay.seeRouted task before after).countP fun route => route.session.isNone := by
  cases flow with
  | still cargo credit books _ _ unrouted =>
    rw [books, unrouted, List.countP_nil]
    omega
  -- A record without a session fails at once, without a reply that could be counted.
  | _ => simp_all [seeRouted] <;> omega

/-- Every record that is counted stays in the line, the buffer or a task until it is resolved. -/
theorem stock (lined : Lined relay) (flow : Flow relay shared task before after) :
    shared.books.submitters.length + shared.books.buffer.length + load task after +
        (relay.seeResolved task before after).length =
      relay.books.submitters.length + relay.books.buffer.length + load task before +
        (relay.seeAccepted task before after).length := by
  cases flow with
  | still cargo credit books unaccepted _ _ unresolved =>
    simp [books, unaccepted, unresolved, load, cargo]
  | @place record errand member books =>
    -- The record goes from the line into the buffer, and the line gets shorter by exactly one.
    have line := (Queue.perm_filter_ticket lined.once member).length_eq
    have gone : load task errand.placed = 0 := by simp [load, pick, Cargo.record?]
    have none_ : load task (.placing errand) = 0 := rfl
    simp only [books, gone, none_, seeAccepted, seeResolved, List.length_append, List.length_cons,
      List.length_nil] at line ⊢
    omega
  -- Every other way takes the record from one place to the next, or counts it in or out.
  | _ =>
    simp_all [load, seeAccepted, seeResolved, pick, Stage.cargo, Cargo.record?] <;> omega

/-- A record that is counted waits for its turn, or has left the queue. -/
theorem accepted (lined : Lined relay) (flow : Flow relay shared task before after)
    (record : PackageRecord) :
    (shared.books.submitters.map Prod.snd).count record + shared.books.buffer.count record +
        loadCounted record task after +
        ((relay.seeDispatched task before after).map Prod.snd).count record =
      (relay.books.submitters.map Prod.snd).count record + relay.books.buffer.count record +
        loadCounted record task before +
        ((relay.seeAccepted task before after).map Prod.snd).count record := by
  cases flow with
  | still cargo credit books unaccepted undispatched =>
    simp [books, unaccepted, undispatched, loadCounted, cargo]
  | @place brought errand member books =>
    -- What leaves the line is the one record that comes into the buffer.
    have line := ((Queue.perm_filter_ticket lined.once member).map Prod.snd).count_eq record
    have gone : loadCounted record task errand.placed = 0 := by simp [loadCounted, pick]
    have none_ : loadCounted record task (.placing errand) = 0 := by
      simp [loadCounted, pick, Stage.cargo]
    simp only [books, gone, none_, seeAccepted, seeDispatched, List.map_cons, List.count_cons,
      List.count_append, List.map_nil, List.count_nil] at line ⊢
    omega
  -- Every other way takes the record from one place to the next, and to be dispatched is to leave the last.
  | _ =>
    simp_all [loadCounted, seeAccepted, seeDispatched, pick, Stage.cargo, List.count_cons] <;> omega

/-- A record that has left the queue is with a worker, or its session was looked up. -/
theorem dispatched (flow : Flow relay shared task before after) (entry : TaskId × PackageRecord) :
    loadFetched entry task after +
        ((relay.seeRouted task before after).map fun route =>
          (route.worker, route.record)).count entry =
      loadFetched entry task before + (relay.seeDispatched task before after).count entry := by
  cases flow with
  | still cargo credit books _ undispatched unrouted =>
    simp [undispatched, unrouted, loadFetched, cargo]
  | place => simp [loadFetched, seeDispatched, seeRouted, pick]
  -- A worker that takes a record has it in hand, and looks up its session when it lets go.
  | _ =>
    obtain ⟨worker, record⟩ := entry
    simp_all [loadFetched, seeDispatched, seeRouted, pick, Stage.cargo, List.count_cons]

/-- A record with a session is being published, or its publication was replied to. -/
theorem routed (flow : Flow relay shared task before after)
    (entry : TaskId × Message.PublishPackageInsightRequest) :
    loadSent entry task after + shared.books.publications.count entry =
      loadSent entry task before + relay.books.publications.count entry +
        ((relay.seeRouted task before after).filterMap publication?).count entry := by
  cases flow with
  | still cargo credit books _ _ unrouted => simp [books, unrouted, loadSent, cargo]
  | place member books => simp [books, loadSent, seeRouted, pick, Cargo.request?]
  -- Every reply, a breakdown too, takes the request from the worker into the journal.
  | _ =>
    obtain ⟨worker, request⟩ := entry
    simp_all [loadSent, seeRouted, pick, Stage.cargo, Cargo.request?, List.count_cons,
      List.filterMap_cons, publication?, Route.request?] <;> omega

/-- A record that has left the queue is with a worker, or is resolved. -/
theorem resolved (flow : Flow relay shared task before after) (entry : TaskId × PackageRecord) :
    loadHeld entry task after + (relay.seeResolved task before after).count entry =
      loadHeld entry task before + (relay.seeDispatched task before after).count entry := by
  cases flow with
  | still cargo credit books _ undispatched _ unresolved =>
    simp [undispatched, unresolved, loadHeld, cargo]
  | place => simp [loadHeld, seeDispatched, seeResolved, pick, Cargo.held?, Cargo.record?]
  -- A worker that broke down still holds its record, which is never resolved.
  | _ =>
    obtain ⟨worker, record⟩ := entry
    simp_all [loadHeld, seeDispatched, seeResolved, pick, Stage.cargo, Cargo.held?,
      Cargo.record?, List.count_cons]

end Flow

end InsightRelay.Relay
