import InsightRelay.Proofs.Relay.Housing
import InsightRelay.Proofs.Relay.Resolution
import Mathlib.Algebra.Order.BigOperators.Group.List
import Mathlib.Algebra.Order.Group.Nat

/-! Confluence: whatever the workers do, manifests that are brought one after another come to the
outcome of the reference. -/

namespace InsightRelay

namespace Conduct

variable {conduct : Conduct} {journal : List Exchange}

/-- Each exchange goes as the conduct says after some number of sessions were opened. -/
theorem Explains.of_mem (explains : conduct.Explains journal) {exchange : Exchange}
    (member : exchange ∈ journal) : ∃ opened, conduct.allows opened exchange = true := by
  obtain ⟨position, there⟩ := List.mem_iff_getElem?.1 member
  exact ⟨_, explains position exchange there⟩

/-- The publications that are granted are those of requests that nothing is wrong with. -/
theorem Explains.countP_isPublished (explains : conduct.Explains journal)
    (sent : ∀ exchange ∈ journal, exchange.task = none →
      ∃ request, exchange.call = .create request) :
    journal.countP Exchange.isPublished = (journal.filterMap Exchange.publication?).countP
      fun entry => (conduct.verdict entry.2).isNone := by
  -- Exchange by exchange, what was granted is what the conduct finds nothing wrong with.
  rw [List.countP_filterMap]
  refine List.countP_congr fun exchange member => ?_
  obtain ⟨opened, allowed⟩ := explains.of_mem member
  obtain ⟨task, call, reply⟩ := exchange
  cases call with
  | publish request =>
    cases task with
    -- No record is published for nobody.
    | none => simpa using sent _ member rfl
    | some task =>
      cases reply <;>
        simp_all [Conduct.allows, Exchange.isPublished, Exchange.publication?]
  | _ => cases task <;> simp [Exchange.isPublished, Exchange.publication?]

end Conduct

namespace Relay

section Runs

variable {config : Config} {conduct : Conduct} {manifests : List Manifest} {start relay : Relay}
  {actions : List Action} {caller : TaskId} {ending : Ending}

/-- Only the session for the whole project is opened for no task. -/
theorem sent_of_run (fresh : Fresh config start) (ran : start.run actions = some relay) :
    ∀ exchange ∈ relay.journal, exchange.task = none →
      ∃ request, exchange.call = .create request := by
  refine run_induction (fun _ relay => ∀ exchange ∈ relay.journal, exchange.task = none →
    ∃ request, exchange.call = .create request) ?initial ?arrive ?register ?move ran
  case initial =>
    intro exchange member nobody
    -- The journal of a fresh relay is empty or tells of the session for the whole project.
    rcases fresh.sessions with ⟨-, journal, -⟩ | ⟨-, request, session, -, journal, -⟩
    · simp [journal] at member
    · rw [journal, List.mem_singleton] at member
      exact ⟨request, by rw [member]⟩
  case arrive =>
    intro past relay demand _ ih
    rw [journal_arrive]
    exact ih
  case register => exact fun past relay key session _ ih => ih
  case move =>
    intro past relay action task before after shared _ ih _ _ move _ exchange member nobody
    -- What a move sends is sent for its task.
    obtain ⟨more, journal, sent⟩ := move.journal
    have inside : exchange ∈ relay.journal ++ more := journal ▸ member
    rcases List.mem_append.1 inside with earlier | now
    · exact ih exchange earlier nobody
    · simp [sent exchange now] at nobody

/-- Only workers take records. -/
private theorem fetched_of_caller {stage : Stage} (caller : stage.role ≠ .worker) :
    stage.fetched = [] := by
  cases stage with
  | dispatching => exact absurd rfl caller
  | _ => rfl

/-- One that has no record has taken none. -/
private theorem fetched_of_record? {stage : Stage} (none_ : stage.cargo.record? = none) :
    stage.fetched = [] := by
  cases cargo : stage.cargo <;> simp_all [Stage.fetched, Cargo.record?]

/-- The only worker is the first of all tasks. -/
private theorem eq_zero_of_one_worker (fresh : Fresh config start)
    (ran : start.run actions = some relay) (one : config.effectiveWorkerCount = 1)
    {task : TaskId} {stage : Stage} (at_ : relay.stage? task = some stage)
    (worker : stage.role = .worker) : task = 0 := by
  rcases caller_of_stage fresh ran at_ with ⟨inside, -⟩ | ⟨demand, -, role⟩
  · exact Nat.lt_one_iff.1 (one ▸ inside)
  · exact absurd (role.symm.trans worker) demand.role_ne_worker

/-- A move looks up the session for the record that the only worker has, or has it take another one. -/
private theorem fetched_move (fresh : Fresh config start) (ran : start.run actions = some relay)
    (one : config.effectiveWorkerCount = 1) {task : TaskId} {before after : Stage} {shared : Relay}
    (at_ : relay.stage? task = some before) (move : Move relay task before after shared) :
    (relay.seeRouted task before after).map Route.record ++
        (shared.withStage task after).across Stage.fetched =
      relay.across Stage.fetched ++ (relay.seeDispatched task before after).map Prod.snd := by
  have others (worker : before.role = .worker) : ∀ other stage, relay.stage? other = some stage →
      other ≠ task → stage.fetched = [] := by
    intro other stage there differ
    refine fetched_of_caller fun too => differ ?_
    rw [eq_zero_of_one_worker fresh ran one there too,
      eq_zero_of_one_worker fresh ran one at_ worker]
  -- So the record that a worker has taken is all that is taken, before its move and after.
  have whole (worker : before.role = .worker) : relay.across Stage.fetched = before.fetched :=
    across_alone at_ (others worker)
  have moved (worker : before.role = .worker) :
      (shared.withStage task after).across Stage.fetched = after.fetched := by
    refine across_alone (by rw [move.stage? at_, if_pos rfl]) fun other stage there differ => ?_
    rw [move.stage? at_, if_neg differ] at there
    exact others worker other stage there differ
  -- Only moves of the worker change which record it has.
  cases (lined_of_run fresh ran).flow at_ move with
  | still cargo _ _ _ undispatched unrouted =>
    have same : after.fetched = before.fetched := by rw [Stage.fetched, Stage.fetched, cargo]
    rw [across_same move at_ same, unrouted, undispatched]
    simp
  | take | drop | publish | published | rejected | crash =>
    rw [whole rfl, moved rfl]
    simp [seeRouted, seeDispatched, Stage.fetched, Stage.cargo]
  | accept | line =>
    rw [across_same move at_ rfl]
    simp [seeRouted, seeDispatched]
  | @place record errand =>
    rw [across_same move at_ (by simp [Stage.fetched])]
    simp [seeRouted, seeDispatched]

/-- A worker that is alone looks up sessions for records in the order in which they leave the
queue. -/
theorem routed_of_one_worker (fresh : Fresh config start) (ran : start.run actions = some relay)
    (one : config.effectiveWorkerCount = 1) :
    (start.routed actions).map Route.record ++ relay.across Stage.fetched =
      (start.dispatched actions).map Prod.snd := by
  refine run_induction (fun actions relay =>
    (start.routed actions).map Route.record ++ relay.across Stage.fetched =
      (start.dispatched actions).map Prod.snd) ?initial ?arrive ?register ?move ran
  case initial =>
    have empty : start.across Stage.fetched = [] := by
      simp [across, fresh.tasks, Stage.fetched, Stage.cargo]
    rw [empty]
    rfl
  case arrive =>
    intro past relay demand ran ih
    -- Callers come without a record to look up.
    have none_ : (demand.stage relay.config).fetched = [] := by simp [Stage.fetched]
    rw [across_arrive, none_, List.append_nil]
    simpa only [routed, dispatched, watch_arrive ran] using ih
  case register =>
    intro past relay key session ran ih
    simp only [routed, dispatched, watch_register ran] at ih ⊢
    exact ih
  case move =>
    intro past relay action task before after shared ran ih acts at_ move stepped
    -- The look-up of the record that was taken last comes behind all earlier ones.
    have routed_ : start.routed (past ++ [action]) =
        start.routed past ++ relay.seeRouted task before after :=
      watch_move ran acts at_ move stepped
    have dispatched_ : start.dispatched (past ++ [action]) =
        start.dispatched past ++ relay.seeDispatched task before after :=
      watch_move ran acts at_ move stepped
    rw [routed_, dispatched_, List.map_append, List.map_append, ← ih, List.append_assoc,
      List.append_assoc, fetched_move fresh ran one at_ move]

end Runs

/-- Manifests are brought one after another and then a caller finishes, all in turn and without
sessions from outside. -/
structure InSequence (manifests : List Manifest) (start : Relay) (actions : List Action) :
    Prop where
  demands : actions.filterMap Action.demand? = manifests.map Demand.addManifest ++ [.finish]
  inTurn : InTurn start actions
  own : OwnSessions actions

/-- What can be seen of a run is the outcome of the reference. -/
structure Agrees (config : Config) (conduct : Conduct) (manifests : List Manifest) (start : Relay)
    (actions : List Action) (relay : Relay) : Prop where
  created : start.created ++ (start.calls actions).filterMap creationOf =
    (reference config conduct manifests).created
  published : (((start.calls actions).filterMap publicationOf).map Prod.snd).Perm
    (reference config conduct manifests).published
  /-- A worker that is alone publishes in the order of the reference. -/
  inOrder : config.effectiveWorkerCount = 1 →
    ((start.calls actions).filterMap publicationOf).map Prod.snd =
      (reference config conduct manifests).published
  /-- The caller that finishes has the last answer. -/
  answers : ∃ ending, start.answers actions relay =
    (reference config conduct manifests).counts.map Ending.queued ++ [ending]
  pending : relay.queue.pending = 0
  submitted : relay.queue.submitted = (reference config conduct manifests).published.length
  granted : relay.queue.published = (reference config conduct manifests).published.countP
    fun request => (conduct.verdict request).isNone
  failed : relay.queue.failed = (reference config conduct manifests).published.countP
    fun request => (conduct.verdict request).isSome

section Sequences

variable {config : Config} {conduct : Conduct} {manifests : List Manifest} {start relay : Relay}
  {actions : List Action} {caller : TaskId} {ending : Ending}

/-- Those that come in sequence are all that were to come. -/
theorem InSequence.visits (sequence : InSequence manifests start actions) :
    Visits manifests actions :=
  ⟨[], by rw [List.append_nil, sequence.demands]⟩

/-- The callers are those that bring the manifests, and the one that finishes. -/
theorem InSequence.callers (sequence : InSequence manifests start actions) :
    start.callers actions =
      (manifests.zipIdx start.tasks.length).map
          (fun entry => (Demand.addManifest entry.1, entry.2)) ++
        [(.finish, start.tasks.length + manifests.length)] := by
  simp [Relay.callers, sequence.demands, List.zipIdx_append, List.zipIdx_map, Prod.map]

/-- Each manifest has its own caller. -/
theorem InSequence.brings (sequence : InSequence manifests start actions)
    {entry : Manifest × TaskId} (member : entry ∈ manifests.zipIdx start.tasks.length) :
    (Demand.addManifest entry.1, entry.2) ∈ start.callers actions := by
  rw [sequence.callers]
  exact List.mem_append_left _ (List.mem_map.2 ⟨entry, member, rfl⟩)

/-- The one that finishes came last. -/
theorem InSequence.finisher (sequence : InSequence manifests start actions)
    (arrived : (Demand.finish, caller) ∈ start.callers actions) :
    caller = start.tasks.length + manifests.length := by
  rw [sequence.callers, List.mem_append] at arrived
  rcases arrived with brings | last
  · -- All others bring something.
    obtain ⟨entry, -, same⟩ := List.mem_map.1 brings
    simp [Demand.addManifest] at same
  · simpa using last

/-- What only callers at work have is gone when nobody is at work. -/
private theorem across_idle {α : Type} {part : Stage → List α}
    (idle : ∀ task stage, relay.stage? task = some stage → part stage = []) :
    relay.across part = [] := by
  refine List.flatMap_eq_nil_iff.2 fun stage member => ?_
  obtain ⟨task, at_⟩ := List.mem_iff_getElem?.1 member
  exact idle task stage at_

/-- Parts that are not too large and add up to the same are equal. -/
private theorem map_eq_of_sum {α : Type} {parts : List α} {small large : α → Nat}
    (below : ∀ part ∈ parts, small part ≤ large part)
    (sum : (parts.map small).sum = (parts.map large).sum) : parts.map small = parts.map large := by
  induction parts with
  | nil => rfl
  | cons part rest ih =>
    have first := below part List.mem_cons_self
    have others : ∀ other ∈ rest, small other ≤ large other := fun other member =>
      below other (.tail _ member)
    -- Neither the first part nor the rest can be smaller, as the other one is not larger.
    have fewer : (rest.map small).sum ≤ (rest.map large).sum := List.sum_le_sum others
    simp only [List.map_cons, List.sum_cons] at sum ⊢
    rw [ih others (by omega), show small part = large part by omega]

/-- One that finishes is not told of any records. -/
theorem queued_of_finisher (counts : List Nat) (role : ending.role = .finisher) :
    (counts.map Ending.queued ++ [ending]).count .accepted = 0 ∧
      (counts.map Ending.queued ++ [ending]).filterMap Ending.queued? = counts := by
  -- The two endings that tell of records are those of other roles.
  obtain ⟨other, none_⟩ : ending ≠ .accepted ∧ ending.queued? = none := by
    cases ending <;> simp [Ending.role, Ending.queued?] at role ⊢
  constructor
  · simp [List.count_eq_zero, Ne.symm other]
  · simp [List.filterMap_append, List.filterMap_map, none_, Function.comp_def]

section Finished

-- From here on the one that finishes has its answer.
variable (sequence : InSequence manifests start actions) (fresh : Fresh config start)
  (ran : start.run actions = some relay) (arrived : (Demand.finish, caller) ∈ start.callers actions)
  (ended : relay.ending? caller = some ending)

include sequence fresh ran arrived ended

/-- When the one that finishes has its answer, nobody is at work. -/
theorem InSequence.idle {task : TaskId} {stage : Stage} (at_ : relay.stage? task = some stage) :
    stage.isActive = false := by
  refine Bool.eq_false_iff.2 fun active => ?_
  have orderly := orderly_of_run fresh ran sequence.visits sequence.inTurn
  -- Only the last one could be at work, and that one has its answer.
  have last := orderly.last task stage at_ active
  rw [length_of_run ran, sequence.demands, List.length_append, List.length_map] at last
  obtain rfl : task = caller := (Nat.succ.inj last).trans (sequence.finisher arrived).symm
  have told : stage.ending? = some ending := by simpa [ending?, at_] using ended
  rw [isActive_of_ending? (told ▸ rfl)] at active
  simp at active

/-- Whoever brought a manifest was told how many of its records were counted. -/
theorem InSequence.told {manifest : Manifest} {task : TaskId}
    (brings : (Demand.addManifest manifest, task) ∈ start.callers actions) :
    relay.ending? task = some (.queued (start.acceptedBy actions task).length) ∧
      (start.acceptedBy actions task).length ≤ manifest.named.length := by
  obtain ⟨stage, at_, role⟩ := stage_of_caller fresh ran brings
  have idle := sequence.idle fresh ran arrived ended at_
  have role : stage.role = .bringer := role
  -- What is counted of a caller is a part of what it brings.
  have brought := (brought_of_run fresh ran brings at_).length_le
  have goods : (Demand.addManifest manifest).records = manifest.named := manifest.goods_source
  rw [goods, List.length_append] at brought
  refine ⟨?_, by omega⟩
  rw [credited_of_run fresh ran, at_, ending?, at_, Option.bind_some, Option.elim_some]
  -- One that brings and is done was told of a count, and this is its credit.
  cases stage with
  | ended own =>
    cases own with
    | queued count => rfl
    | failed problem =>
      cases problem <;> simp [Stage.role, Ending.role, RelayError.isCompletion] at role
    | _ => simp [Stage.role, Ending.role] at role
  | _ => simp_all [Stage.isActive, Stage.ending?]

/-- The answers tell of the counted records of one manifest after another. -/
theorem InSequence.counts :
    start.answers actions relay =
      ((manifests.zipIdx start.tasks.length).map fun entry =>
        (start.acceptedBy actions entry.2).length).map Ending.queued ++ [ending] := by
  -- The callers stand in the order of the manifests, and the last answer is that to the finisher.
  have each : ((manifests.zipIdx start.tasks.length).filterMap fun entry =>
      relay.ending? entry.2) = (manifests.zipIdx start.tasks.length).map fun entry =>
        Ending.queued (start.acceptedBy actions entry.2).length := by
    refine List.filterMap_eq_map_iff_forall_eq_some.2 fun entry member => ?_
    exact (sequence.told fresh ran arrived ended (sequence.brings member)).1
  obtain rfl := sequence.finisher arrived
  rw [Relay.answers, sequence.callers, List.filterMap_append, List.filterMap_map, List.map_map]
  simp only [Function.comp_def, each, List.filterMap_cons, ended, List.filterMap_nil]

/-- When the one that finishes has its answer, all others have theirs. -/
theorem InSequence.answered :
    ∀ entry ∈ start.callers actions, (relay.ending? entry.2).isSome = true := by
  intro entry member
  have came : (entry.1, entry.2) ∈ start.callers actions := member
  obtain ⟨stage, at_, role⟩ := stage_of_caller fresh ran came
  rw [ending?, at_, Option.bind_some]
  -- A caller that is not at work has its answer.
  refine ending?_of_idle (sequence.idle fresh ran arrived ended at_) ?_
  exact role ▸ entry.1.role_ne_worker

/-- Whoever brought a manifest was told that all of its records are counted. -/
theorem InSequence.answers
    (all : relay.queue.submitted = (manifests.flatMap Manifest.named).length) :
    start.answers actions relay =
      (manifests.map fun manifest => manifest.named.length).map Ending.queued ++ [ending] := by
  have counts := sequence.counts fresh ran arrived ended
  -- Nobody was told more than it brought, and all were told as many as were counted.
  have total := submitted_of_answers fresh ran (sequence.answered fresh ran arrived ended)
  obtain ⟨-, role⟩ := ended_of_finish fresh ran arrived ended
  obtain ⟨none_, told⟩ := queued_of_finisher
    ((manifests.zipIdx start.tasks.length).map fun entry =>
      (start.acceptedBy actions entry.2).length) role
  have lengths : (manifests.zipIdx start.tasks.length).map (fun entry => entry.1.named.length) =
      manifests.map fun manifest => manifest.named.length := by
    conv_rhs => rw [← List.zipIdx_map_fst start.tasks.length manifests, List.map_map]
    rfl
  -- The sums over all callers agree, so each term is as great as it can be.
  rw [counts, none_, told, Nat.zero_add, all, List.length_flatMap, ← lengths] at total
  rw [counts, ← lengths]
  refine congrArg (·.map Ending.queued ++ [ending])
    (map_eq_of_sum (fun entry member => ?_) total.symm)
  exact (sequence.told fresh ran arrived ended (sequence.brings member)).2

/-- When the one that finishes has its answer, all sources were served and all records have left the
queue in the order of the manifests. -/
private theorem InSequence.served (drained : relay.queue.pending = 0)
    {served : List Source} (inOrder : InOrder config conduct start actions relay served) :
    served = manifests.map Manifest.source ∧
      (start.dispatched actions).map Prod.snd = manifests.flatMap Manifest.named ∧
      relay.across Stage.asking = [] := by
  -- All are idle, so whatever a stage could still have on its way is nothing.
  have gone {α : Type} {part : Stage → List α}
      (idle_of : ∀ {stage}, stage.isActive = false → part stage = []) : relay.across part = [] :=
    across_idle fun task stage at_ => idle_of (sequence.idle fresh ran arrived ended at_)
  have all : served = manifests.map Manifest.source := by
    have sources := inOrder.sources
    rw [gone awaiting_of_idle, List.append_nil, sequence.demands, List.flatMap_append,
      List.flatMap_map] at sources
    rw [sources, List.map_eq_flatMap]
    exact List.append_nil _
  refine ⟨all, ?_, gone asking_of_idle⟩
  -- Nothing is pending, so nothing is in the buffer or in line.
  have stock := (counted_of_run fresh ran).stock
  have zero : relay.books.pending = 0 := drained
  have noLine : relay.queue.submitters = [] := List.eq_nil_of_length_eq_zero (by
    show relay.books.submitters.length = 0
    omega)
  have noBuffer : relay.queue.buffer = [] := List.eq_nil_of_length_eq_zero (by
    show relay.books.buffer.length = 0
    omega)
  have records := inOrder.records
  rw [noLine, noBuffer, gone unlined_of_idle, List.map_nil, List.append_nil, List.append_nil,
    List.append_nil, all, List.flatMap_map] at records
  rw [records]
  exact List.flatMap_congr fun manifest _ => manifest.goods_source

end Finished

/-- However workers and callers alternate, manifests that are brought one after another come to the
outcome of the reference.

The service opens every session, and what it makes of a record depends on the request alone. -/
theorem agrees_with_reference {σ : Type} {service : Service σ} {state : σ}
    (launched : launch config service state = .ok start) (ran : start.run actions = some relay)
    (sequence : InSequence manifests start actions) (explains : conduct.Explains relay.journal)
    (plain : config.multiProject = true → ∀ manifest ∈ manifests, manifest.path ≠ globalKey)
    (arrived : (Demand.finish, caller) ∈ start.callers actions)
    (ended : relay.ending? caller = some ending) :
    Agrees config conduct manifests start actions relay := by
  have fresh := fresh_of_launch launched
  obtain ⟨served, inOrder, housed⟩ := order_of_run fresh (askable_of_launch launched) plain ran
    sequence.visits sequence.inTurn sequence.own explains
  -- All is finished, so every record has been resolved, and all manifests were served in turn.
  have once := exactlyOnce_of_finish fresh ran sequence.visits.whole arrived ended
  obtain ⟨rfl, dispatched, silent⟩ :=
    sequence.served fresh ran arrived ended once.pending inOrder
  have origins : (manifests.map Manifest.source).map Source.origin =
      manifests.map Manifest.origin := List.map_map
  have publications := housed.publications
  rw [← publications_of_run ran, origins] at publications
  -- The workers have looked up sessions for exactly the records that left the queue.
  have worked : ((start.routed actions).map Route.record).Perm
      (manifests.flatMap Manifest.named) := by
    have routed := once.routed.symm.map Prod.snd
    rwa [List.map_map, dispatched] at routed
  -- What goes out for a record is told by its origin, so the publications are those of the reference.
  have published : (((start.calls actions).filterMap publicationOf).map Prod.snd).Perm
      (reference config conduct manifests).published := by
    rw [publications, reference_published]
    exact worked.map _
  have submitted : relay.queue.submitted = (manifests.flatMap Manifest.named).length := by
    rw [once.submitted, ← dispatched, List.length_map]
    simpa using once.dispatched.length_eq
  have length : (reference config conduct manifests).published.length = relay.queue.submitted := by
    rw [reference_published, List.length_map, submitted]
  have granted : relay.queue.published = (reference config conduct manifests).published.countP
      fun request => (conduct.verdict request).isNone := by
    rw [once.published, explains.countP_isPublished (sent_of_run fresh ran),
      ← once.replied.countP_eq, ← published.countP_eq, List.countP_map]
    rfl
  have failed : relay.queue.failed = (reference config conduct manifests).published.countP
      fun request => (conduct.verdict request).isSome := by
    -- What is not published has failed.
    have both := List.length_eq_countP_add_countP
      (l := (reference config conduct manifests).published)
      fun request => (conduct.verdict request).isNone
    have balanced := once.balanced
    simp only [Bool.not_eq_true, Option.isNone_eq_false_iff, Bool.decide_eq_true] at both
    omega
  exact {
    created := by rw [inOrder.calls, silent, List.append_nil, inOrder.requests, origins]; rfl
    published := published
    inOrder := fun one => by
      have none_ : relay.across Stage.fetched = [] := across_idle fun task stage at_ =>
        fetched_of_record? (cargo_of_pending fresh ran once.pending at_)
      have alone := routed_of_one_worker fresh ran one
      rw [none_, List.append_nil, dispatched] at alone
      rw [publications, alone, reference_published]
    answers := ⟨ending, sequence.answers fresh ran arrived ended submitted⟩
    pending := once.pending
    submitted := length.symm
    granted := granted
    failed := failed }

end Sequences

/-- How the service replies in the rehearsal: it takes no record in the second session. -/
def rehearsalConduct : Conduct where
  session opened := if opened = 0 then "session-0" else "session-1"
  verdict request := if request.toolSession = some ⟨"session-1"⟩ then some .transport else none

/-- In the rehearsal one record of each manifest is accepted. -/
theorem agrees_with_reference_in_rehearsal :
    ∃ start relay, launch rehearsalConfig Script.smooth.service 0 = .ok start ∧
      start.run rehearsal = some relay ∧
      (reference rehearsalConfig rehearsalConduct [webManifest, coreManifest]).counts = [1, 1] ∧
      Agrees rehearsalConfig rehearsalConduct [webManifest, coreManifest] start rehearsal
        relay := by
  -- The service of the rehearsal takes no record in the second session, so both verdicts occur.
  obtain ⟨start, relay, launched, ran⟩ := exists_rehearsal
  have sequence : InSequence [webManifest, coreManifest] start rehearsal := by
    cases launched
    exact ⟨rfl, by decide, by decide⟩
  have explains : rehearsalConduct.Explains relay.journal := by
    cases launched
    cases ran
    decide
  have arrived := finisher_of_rehearsal launched
  obtain ⟨ending, ended⟩ : ∃ ending, relay.ending? 3 = some ending := by
    cases launched
    cases ran
    exact ⟨_, rfl⟩
  -- The premises are found by evaluation, and the agreement comes from the theorem.
  exact ⟨start, relay, launched, ran, by decide,
    agrees_with_reference launched ran sequence explains (by decide) arrived ended⟩

end Relay

end InsightRelay
