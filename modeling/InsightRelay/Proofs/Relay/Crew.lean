import InsightRelay.Proofs.Relay.Lines
import InsightRelay.Proofs.Relay.Resolution
import InsightRelay.Proofs.Relay.Staff
import Mathlib.Data.List.Basic
import Mathlib.Data.List.Perm.Subperm

/-! Crews: the workers of one pool, the records and publications that each of them has in hand, and that
these are never more than the workers are. -/

namespace InsightRelay

/-- The record that a worker has taken and not yet looked at. -/
def Cargo.fetched? : Cargo → Option PackageRecord
  | fetched record => some record
  | _ => none

/-- Whoever waits for a publication is a worker. -/
theorem Stage.role_of_request? {stage : Stage} {request : Message.PublishPackageInsightRequest}
    (waits : stage.cargo.request? = some request) : stage.role = .worker := by
  cases stage <;> simp_all [cargo, Cargo.request?, role]

/-- Whoever has a record that has left the queue is a worker. -/
theorem Stage.role_of_held? {stage : Stage} {record : PackageRecord}
    (has : stage.cargo.held? = some record) : stage.role = .worker := by
  cases stage <;> simp_all [cargo, Cargo.held?, Cargo.record?, role]

/-- Whoever has not yet looked at its record is a worker. -/
theorem Stage.role_of_fetched? {stage : Stage} {record : PackageRecord}
    (has : stage.cargo.fetched? = some record) : stage.role = .worker := by
  cases stage <;> simp_all [cargo, Cargo.fetched?, role]

/-- In the line of takers are the workers that are said to be in line. -/
theorem Stage.standsIn_takers {stage : Stage} :
    stage.standsIn .takers = true ↔ ∃ looked, stage = inLine looked := by
  cases stage <;> simp [standsIn]

namespace Relay

section Holdings

variable {α : Type}

/-- What all tasks have of one kind, each with the name of its task. -/
def holdings (relay : Relay) (look : Stage → Option α) : List (TaskId × α) :=
  relay.tasks.zipIdx.filterMap fun entry => (look entry.1).map (Prod.mk entry.2)

/-- The publications that wait for their replies, with the workers that wait. -/
def outstanding (relay : Relay) : List (TaskId × Message.PublishPackageInsightRequest) :=
  relay.holdings fun stage => stage.cargo.request?

/-- The records that workers have taken and not resolved. -/
def inHand (relay : Relay) : List (TaskId × PackageRecord) :=
  relay.holdings fun stage => stage.cargo.held?

/-- The records that workers have taken and not yet looked at. -/
def unseen (relay : Relay) : List (TaskId × PackageRecord) :=
  relay.holdings fun stage => stage.cargo.fetched?

variable {relay : Relay} {look : Stage → Option α}

/-- What a task has is told by its stage. -/
theorem mem_holdings {entry : TaskId × α} : entry ∈ relay.holdings look ↔
    ∃ stage, relay.stage? entry.1 = some stage ∧ look stage = some entry.2 := by
  -- Tasks are numbered by their places in the list of stages.
  simp only [holdings, List.mem_filterMap, Prod.exists, List.mk_mem_zipIdx_iff_getElem?, stage?,
    Option.map_eq_some_iff]
  constructor
  · rintro ⟨stage, task, at_, thing, has, rfl⟩
    exact ⟨stage, at_, has⟩
  · rintro ⟨stage, at_, has⟩
    exact ⟨stage, entry.1, at_, entry.2, has, rfl⟩

/-- No task has more than one thing of a kind. -/
theorem nodup_holdings : ((relay.holdings look).map Prod.fst).Nodup := by
  -- The names of the tasks are all different, and each is kept once or not at all.
  have names : (relay.tasks.zipIdx.map Prod.snd).Nodup := by
    rw [List.zipIdx_map_snd]
    exact List.nodup_range'
  rw [holdings, List.Nodup, List.pairwise_map, List.pairwise_filterMap]
  rw [List.Nodup, List.pairwise_map] at names
  refine names.imp fun differ _ has _ has' => ?_
  obtain ⟨-, -, rfl⟩ := Option.map_eq_some_iff.1 has
  obtain ⟨-, -, rfl⟩ := Option.map_eq_some_iff.1 has'
  exact differ

/-- What there is of a thing is the weight of those that have it. -/
theorem count_holdings [DecidableEq α] (entry : TaskId × α) : (relay.holdings look).count entry =
    relay.tally fun task stage => pick (task = entry.1 ∧ look stage = some entry.2) := by
  obtain ⟨owner, thing⟩ := entry
  rw [holdings, List.filterMap_eq_flatMap_toList, List.count_flatMap, tally,
    List.mapIdx_eq_zipIdx_map]
  refine congrArg List.sum (List.map_congr_left fun entry _ => ?_)
  cases found : look entry.1 <;> simp [found, pick, List.count_cons]

/-- How many tasks have something of a kind is counted by a tally. -/
theorem length_holdings : (relay.holdings look).length =
    relay.tally fun _ stage => pick ((look stage).isSome = true) := by
  rw [holdings, List.filterMap_eq_flatMap_toList, List.length_flatMap, tally,
    List.mapIdx_eq_zipIdx_map]
  refine congrArg List.sum (List.map_congr_left fun entry _ => ?_)
  cases found : look entry.1 <;> simp [found, pick]

/-- What there is of a kind is counted by its tally. -/
theorem count_outstanding (entry : TaskId × Message.PublishPackageInsightRequest) :
    relay.outstanding.count entry = relay.tally (loadSent entry) :=
  count_holdings entry

theorem count_inHand (entry : TaskId × PackageRecord) :
    relay.inHand.count entry = relay.tally (loadHeld entry) :=
  count_holdings entry

theorem count_unseen (entry : TaskId × PackageRecord) :
    relay.unseen.count entry = relay.tally (loadFetched entry) := by
  have same (stage : Stage) :
      stage.cargo.fetched? = some entry.2 ↔ stage.cargo = .fetched entry.2 := by
    cases stage <;> simp [Stage.cargo, Cargo.fetched?]
  simp only [unseen, count_holdings, same]
  rfl

end Holdings

section Runs

variable {start relay : Relay} {actions : List Action}

/-- A worker has each record from the moment when it takes it to that when it resolves it. -/
theorem inHand_of_run (lined : Lined start) (ran : start.run actions = some relay) :
    (start.inHand ++ start.dispatched actions).Perm (start.resolved actions ++ relay.inHand) := by
  refine List.perm_iff_count.2 fun entry => ?_
  have resolved := (carried_of_run lined ran).resolved entry
  simp only [List.count_append, count_inHand]
  omega

/-- For each record that a worker takes it looks up a session once. -/
theorem unseen_of_run (lined : Lined start) (ran : start.run actions = some relay) :
    (start.unseen ++ start.dispatched actions).Perm
      (((start.routed actions).map fun route => (route.worker, route.record)) ++ relay.unseen) := by
  refine List.perm_iff_count.2 fun entry => ?_
  have dispatched := (carried_of_run lined ran).dispatched entry
  simp only [List.count_append, count_unseen]
  omega

/-- A reply is a breakdown only when its worker is lost. -/
theorem Move.crashed {shared : Relay} {task : TaskId} {before after : Stage}
    (move : Move relay task before after shared) : ∃ more, shared.journal = relay.journal ++ more ∧
      ∀ exchange ∈ more, exchange.reply = .crashed → ∃ record, after = .lost record := by
  cases move with
  | published | rejected | opened | unopened | completed | incomplete =>
    exact ⟨_, rfl, fun exchange member => by simp [List.mem_singleton.1 member]⟩
  | @crash record => exact ⟨_, rfl, fun _ _ _ => ⟨record, rfl⟩⟩
  | _ => exact ⟨[], (List.append_nil _).symm, fun exchange member => absurd member List.not_mem_nil⟩

/-- Replies come after those before, and without a breakdown none of them is one. -/
theorem journal_of_run (ran : start.run actions = some relay) :
    ∃ since, relay.journal = start.journal ++ since ∧
      (Unbroken actions → ∀ exchange ∈ since, exchange.reply ≠ .crashed) := by
  -- A breakdown enters the journal only by the move that loses a worker, and an unbroken run has none.
  refine run_induction (fun actions relay => ∃ since, relay.journal = start.journal ++ since ∧
    (Unbroken actions → ∀ exchange ∈ since, exchange.reply ≠ .crashed))
    ⟨[], by simp, by simp⟩ ?arrive ?register ?move ran
  case arrive =>
    intro past relay demand _ ⟨since, journal, sound⟩
    exact ⟨since, by rw [journal_arrive, journal], fun unbroken => sound unbroken.earlier⟩
  case register =>
    exact fun past relay key session _ ⟨since, journal, sound⟩ =>
      ⟨since, journal, fun unbroken => sound unbroken.earlier⟩
  case move =>
    intro past relay action task before after shared _ ⟨since, journal, sound⟩ acts at_ move stepped
    obtain ⟨more, longer, lost⟩ := move.crashed
    refine ⟨since ++ more, by simp [withStage, longer, journal],
      fun unbroken exchange member crashed => ?_⟩
    rcases List.mem_append.1 member with earlier | now
    · exact sound unbroken.earlier exchange earlier crashed
    · obtain ⟨record, gone⟩ := lost exchange now crashed
      obtain rfl := move.loses at_ acts stepped gone
      exact unbroken task (by simp)

/-- A worker waits for each publication from the moment when it begins to that of its reply. -/
theorem outstanding_of_run (lined : Lined start) (ran : start.run actions = some relay)
    {since : List Exchange} (journal : relay.journal = start.journal ++ since) :
    (start.outstanding ++ (start.calls actions).filterMap publicationOf).Perm
      (since.filterMap Exchange.publication? ++ relay.outstanding) := by
  -- The books balance for each entry: what was called for was replied to or is still waited for.
  refine List.perm_iff_count.2 fun entry => ?_
  have routed := (carried_of_run lined ran).routed entry
  simp only [books, journal, List.filterMap_append, List.count_append] at routed
  simp only [List.count_append, count_outstanding, publications_of_run ran]
  omega

end Runs

/-- What is known of the workers of one pool: they are all the workers there are, and those that wait
for a record stand in line. -/
structure Crew (crew : List TaskId) (relay : Relay) : Prop where
  lined : Lined relay
  workers : ∀ task stage, relay.stage? task = some stage → (stage.role = .worker ↔ task ∈ crew)
  hired : ∀ worker ∈ crew, ∃ stage, relay.stage? worker = some stage
  takers : StandsIn relay .takers

namespace Crew

variable {crew : List TaskId} {relay shared : Relay} {task : TaskId} {before after : Stage}

/-- The crew stays as it is whatever move is made. -/
theorem move (known : Crew crew relay) (at_ : relay.stage? task = some before)
    (move : Move relay task before after shared) : Crew crew (shared.withStage task after) where
  lined := known.lined.move at_ move
  workers other stage there := by
    -- The mover keeps its role, and everybody else keeps its stage.
    rw [move.stage? at_] at there
    split at there
    · next same =>
      obtain rfl := Option.some.inj there
      rw [move.role, same]
      exact known.workers task before at_
    · exact known.workers other stage there
  hired worker member := by
    rw [move.stage? at_]
    split
    · exact ⟨after, rfl⟩
    · exact known.hired worker member
  takers := known.takers.move (by simp) (by simp) at_ move

/-- A caller that arrives does not join the crew. -/
theorem arrive (known : Crew crew relay) (demand : Demand) : Crew crew (relay.arrive demand).1 where
  lined := known.lined.arrive demand
  workers := stages_arrive known.workers <| by
    -- The name of the caller was not in use before, so it is none of the crew.
    have unused : relay.stage? relay.tasks.length = none := List.getElem?_eq_none (Nat.le_refl _)
    refine iff_of_false ?_ fun member => ?_
    · rw [demand.role_stage]
      exact demand.role_ne_worker
    · obtain ⟨stage, there⟩ := known.hired _ member
      simp [unused] at there
  hired worker member := by
    obtain ⟨stage, there⟩ := known.hired worker member
    refine ⟨stage, ?_⟩
    rw [stage?_arrive, if_neg (Nat.ne_of_lt (List.getElem?_eq_some_iff.1 there).1), there]
  takers := known.takers.arrive demand

/-- The crew stays as it is, however the relay runs on. -/
theorem run {actions : List Action} {later : Relay} (known : Crew crew relay)
    (ran : relay.run actions = some later) : Crew crew later := by
  -- A caller that arrives is no worker, and sessions have nothing to do with the crew.
  refine run_induction (fun _ later => Crew crew later) known ?arrive ?register ?move ran
  case arrive => exact fun past later demand _ known => known.arrive demand
  case register =>
    exact fun past later key session _ known =>
      ⟨⟨known.lined.once, known.lined.waiting⟩, known.workers, known.hired,
        ⟨known.takers.once, known.takers.known⟩⟩
  case move =>
    exact fun past later action task before after shared _ known _ at_ move _ => known.move at_ move

/-- What one of the crew has alone, the crew has no more of than it has members. -/
theorem length_holdings_le {α : Type} {look : Stage → Option α} (known : Crew crew relay)
    (workers : ∀ stage thing, look stage = some thing → stage.role = .worker) :
    (relay.holdings look).length ≤ crew.length := by
  have members : (relay.holdings look).map Prod.fst ⊆ crew := fun task member => by
    obtain ⟨entry, inside, rfl⟩ := List.mem_map.1 member
    obtain ⟨stage, at_, has⟩ := mem_holdings.1 inside
    exact (known.workers entry.1 stage at_).1 (workers stage entry.2 has)
  simpa using (List.Nodup.subperm nodup_holdings members).length_le

/-- No more publications wait for a reply than there are workers. -/
theorem length_outstanding_le (known : Crew crew relay) :
    relay.outstanding.length ≤ crew.length :=
  known.length_holdings_le fun _ _ => Stage.role_of_request?

end Crew

/-- What is known of a relay before any workers start: nobody takes records, and none has been
resolved. -/
structure Vacant (relay : Relay) : Prop where
  lined : Lined relay
  callers : ∀ task stage, relay.stage? task = some stage → stage.role ≠ .worker
  takers : relay.queue.takers = []
  pool : relay.pool = none
  taken : relay.taken = []
  publications : relay.journal.filterMap Exchange.publication? = []
  resolved : relay.queue.resolved = 0

namespace Vacant

variable {relay : Relay}

/-- A relay without tasks is vacant. -/
theorem idle {config : Config} {capacity : Nat} {queue : Queue PackageRecord}
    (made : Queue.create? capacity = some queue) : Vacant (idle config queue) := by
  obtain ⟨-, rfl⟩ := Queue.create?_eq_some_iff.1 made
  exact ⟨⟨by simp [books, Relay.idle, Queue.empty], by simp [books, Relay.idle, Queue.empty]⟩,
    fun task stage at_ => by simp [stage?, Relay.idle] at at_, rfl, rfl, rfl, rfl, rfl⟩

/-- A caller takes no workers from a vacant relay. -/
private theorem arrive (vacant : Vacant relay) (demand : Demand) :
    Vacant (relay.arrive demand).1 where
  lined := vacant.lined.arrive demand
  callers := stages_arrive vacant.callers <| by
    rw [demand.role_stage]
    exact demand.role_ne_worker
  takers := by
    rw [queue_arrive]
    exact vacant.takers
  -- One that comes to stop the workers finds none to take.
  pool := by
    cases demand with
    | stop => rfl
    | _ => exact vacant.pool
  taken := by
    cases demand with
    -- It takes an empty pool over, so nothing is taken.
    | stop => simp [Relay.arrive, takePool, vacant.taken, vacant.pool]
    | _ => exact vacant.taken
  publications := by
    rw [journal_arrive]
    exact vacant.publications
  resolved := by
    rw [queue_arrive]
    exact vacant.resolved

/-- Without workers no record is taken, published or resolved. -/
private theorem move {shared : Relay} {task : TaskId} {before after : Stage}
    (vacant : Vacant relay) (at_ : relay.stage? task = some before)
    (move : Move relay task before after shared) : Vacant (shared.withStage task after) := by
  have caller := vacant.callers task before at_
  suffices same : shared.queue.takers = [] ∧ shared.pool = none ∧ shared.taken = [] ∧
      shared.journal.filterMap Exchange.publication? = [] ∧ shared.queue.resolved = 0 by
    obtain ⟨takers, pool, taken, publications, resolved⟩ := same
    refine ⟨vacant.lined.move at_ move, fun other stage there => ?_, takers, pool, taken,
      publications, resolved⟩
    rw [move.stage? at_] at there
    split at there
    · obtain rfl := Option.some.inj there
      rwa [move.role]
    · exact vacant.callers other stage there
  obtain ⟨-, -, takers, pool, taken, publications, resolved⟩ := vacant
  -- Moves that only a worker makes are none of a caller, and all others leave these five as they are.
  cases move with
  | seek | take | rest | drop | publish | published | rejected | crash => exact absurd rfl caller
  | begin first ready => simp [pool] at ready
  | stop | join => exact ⟨takers, pool, by simp [changeTaken, taken], publications, resolved⟩
  | place placed =>
    obtain ⟨record, -, rfl⟩ := Queue.eq_of_place? placed
    exact ⟨takers, pool, taken, publications, resolved⟩
  | pass passed =>
    obtain ⟨-, rfl⟩ := Queue.eq_of_pass? passed
    exact ⟨takers, pool, taken, publications, resolved⟩
  | opened | unopened | completed | incomplete =>
    -- These replies are to calls that publish nothing.
    refine ⟨takers, pool, taken, ?_, resolved⟩
    simp [List.filterMap_append, publications, Exchange.publication?]
  | _ => exact ⟨takers, pool, taken, publications, resolved⟩

/-- A vacant relay stays so until workers start, however it runs. -/
theorem run {actions : List Action} {later : Relay} (vacant : Vacant relay)
    (ran : relay.run actions = some later) : Vacant later := by
  -- Every part is kept by each of the moves, and the registry is none of them.
  refine run_induction (fun _ later => Vacant later) vacant ?arrive ?register ?move ran
  case arrive => exact fun past later demand _ vacant => vacant.arrive demand
  case register =>
    exact fun past later key session _ vacant =>
      ⟨⟨vacant.lined.once, vacant.lined.waiting⟩, vacant.callers, vacant.takers, vacant.pool,
        vacant.taken, vacant.publications, vacant.resolved⟩
  case move =>
    exact fun past later action task before after shared _ vacant _ at_ move _ =>
      vacant.move at_ move

/-- Where no workers were, none are given up when others start. -/
theorem startWorkers_eq (vacant : Vacant relay) (count : Nat) : (relay.startWorkers count).1 =
    { relay with
      tasks := relay.tasks ++ List.replicate count .seeking
      pool := some ⟨count, List.range' relay.tasks.length count, false⟩ } := by
  simp [startWorkers, vacant.pool]

/-- The workers that start come last among the tasks. -/
theorem stage?_startWorkers (vacant : Vacant relay) (count : Nat) (task : TaskId) :
    (relay.startWorkers count).1.stage? task =
      if task ∈ List.range' relay.tasks.length count then some .seeking else relay.stage? task := by
  -- The tasks from the end of the list on are the new ones.
  rw [vacant.startWorkers_eq, stage?]
  split
  · next new =>
    have inside := List.mem_range'_1.1 new
    rw [List.getElem?_append_right inside.1, List.getElem?_replicate_of_lt (by omega)]
  · next old =>
    have outside := mt List.mem_range'_1.2 old
    rcases Nat.lt_or_ge task relay.tasks.length with below | above
    · exact List.getElem?_append_left below
    · rw [List.getElem?_eq_none (by simp; omega), stage?, List.getElem?_eq_none above]

/-- Where no workers were, those that start are the crew. -/
theorem crew (vacant : Vacant relay) (count : Nat) :
    Crew (List.range' relay.tasks.length count) (relay.startWorkers count).1 where
  lined := by
    -- Whoever waits with a record was there before the workers, and waits on.
    refine ⟨by rw [vacant.startWorkers_eq]; exact vacant.lined.once, fun entry member => ?_⟩
    rw [vacant.startWorkers_eq] at member
    have waits := vacant.lined.waiting entry member
    rw [vacant.stage?_startWorkers, if_neg, waits]
    intro new
    rw [stage?, List.getElem?_eq_none (List.mem_range'_1.1 new).1] at waits
    simp at waits
  workers task stage at_ := by
    rw [vacant.stage?_startWorkers] at at_
    split at at_
    · next new =>
      obtain rfl := Option.some.inj at_
      exact iff_of_true rfl new
    · next old => exact iff_of_false (vacant.callers task stage at_) old
  hired worker member := ⟨.seeking, by rw [vacant.stage?_startWorkers, if_pos member]⟩
  takers := by
    have empty : (relay.startWorkers count).1.standing .takers = [] := by
      rw [vacant.startWorkers_eq]
      exact vacant.takers
    refine ⟨empty ▸ List.nodup_nil, fun task => ?_⟩
    rw [empty]
    refine iff_of_false List.not_mem_nil ?_
    rintro ⟨stage, at_, there⟩
    obtain ⟨looked, rfl⟩ := Stage.standsIn_takers.1 there
    rw [vacant.stage?_startWorkers] at at_
    split at at_
    · simp at at_
    · -- None of the older tasks is a worker that asks for a record.
      exact vacant.callers task _ at_ rfl

end Vacant

end Relay

end InsightRelay
