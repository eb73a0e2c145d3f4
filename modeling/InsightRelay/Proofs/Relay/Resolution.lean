import InsightRelay.Proofs.Relay.Account

/-! Resolution: when all is finished, every record that was counted was handed to one worker and came to
one end, and the counters of the queue tell so. -/

namespace InsightRelay.Relay

/-- The request that a call publishes, with the task that makes it. -/
def publicationOf (entry : TaskId × Call) :
    Option (TaskId × Message.PublishPackageInsightRequest) :=
  match entry.2 with
  | .publish request => some (entry.1, request)
  | _ => none

/-- All that was counted is resolved, each record by one worker and once. -/
structure ExactlyOnce (start : Relay) (actions : List Action) (relay : Relay) : Prop where
  pending : relay.queue.pending = 0
  /-- Each record that was counted left the queue once. -/
  dispatched : ((start.accepted actions).map Prod.snd).Perm ((start.dispatched actions).map Prod.snd)
  /-- It left the queue for a worker. -/
  workers : ∀ entry ∈ start.dispatched actions, entry.1 < start.config.effectiveWorkerCount
  /-- That worker looked up a session for it once. -/
  routed : (start.dispatched actions).Perm
    ((start.routed actions).map fun route => (route.worker, route.record))
  /-- For each record with a session there was one call, and no others were made. -/
  called : (start.calls actions).filterMap publicationOf =
    (start.routed actions).filterMap publication?
  /-- Each of these calls was replied to once. -/
  replied : ((start.calls actions).filterMap publicationOf).Perm
    (relay.journal.filterMap Exchange.publication?)
  resolved : (start.dispatched actions).Perm (start.resolved actions)
  submitted : relay.queue.submitted = (start.accepted actions).length
  published : relay.queue.published = relay.journal.countP Exchange.isPublished
  /-- Records fail by a refusal of the service or because they have no session. -/
  failed : relay.queue.failed = relay.journal.countP Exchange.isRejected +
    (start.routed actions).countP fun route => route.session.isNone
  balanced : relay.queue.published + relay.queue.failed = relay.queue.submitted

/-- A call that publishes begins when the session of a record is found, and at no other time. -/
theorem Move.publications {relay shared : Relay} {task : TaskId} {before after : Stage}
    (move : Move relay task before after shared) :
    (relay.seeCall task before after).filterMap publicationOf =
      (relay.seeRouted task before after).filterMap publication? := by
  -- The two moves that look up a session differ in whether a call begins.
  cases move with
  | drop homeless =>
    simp [seeCall, seeRouted, Stage.call?, homeless, publication?, Route.request?]
  | publish found =>
    simp [seeCall, seeRouted, Stage.call?, found, publication?, publicationOf, Route.request?]
  | @refuse record errand => cases errand <;> rfl
  | @place errand => cases errand <;> rfl
  | @pass finishing => cases finishing <;> rfl
  | @joined finishing => cases finishing <;> rfl
  | _ => rfl

/-- Records leave the queue for workers only. -/
theorem Move.dispatches {relay shared : Relay} {task : TaskId} {before after : Stage}
    (move : Move relay task before after shared) {entry : TaskId × PackageRecord}
    (leaves : entry ∈ relay.seeDispatched task before after) :
    entry.1 = task ∧ before.role = .worker := by
  cases move with
  | take =>
    exact ⟨by simpa [seeDispatched] using congrArg Prod.fst (List.mem_singleton.1 leaves), rfl⟩
  | _ => simp [seeDispatched] at leaves

section Runs

variable {config : Config} {start relay : Relay} {actions : List Action}

/-- The calls that publish are those for the records that have a session, in the same order. -/
theorem publications_of_run (ran : start.run actions = some relay) :
    (start.calls actions).filterMap publicationOf =
      (start.routed actions).filterMap publication? := by
  -- Move by move, a call begins exactly where a session is found.
  refine run_induction (fun actions _ => (start.calls actions).filterMap publicationOf =
    (start.routed actions).filterMap publication?) ?initial ?arrive ?register ?move ran
  case initial => rfl
  case arrive =>
    intro past relay demand ran ih
    simpa only [calls, routed, watch_arrive ran] using ih
  case register =>
    intro past relay key session ran ih
    simpa only [calls, routed, watch_register ran] using ih
  case move =>
    intro past relay action task before after shared ran ih acts at_ move stepped
    simp only [calls, routed] at ih
    -- Both sides grow by what the move adds, which is the same.
    simp only [calls, routed, watch_move ran acts at_ move stepped, List.filterMap_append, ih,
      move.publications]

/-- Whoever takes a record is one of the workers. -/
theorem workers_of_run (fresh : Fresh config start) (ran : start.run actions = some relay) :
    ∀ entry ∈ start.dispatched actions, entry.1 < config.effectiveWorkerCount := by
  refine forall_of_watch (fun began at_ move _ entry leaves => ?_) ran
  obtain ⟨same, worker⟩ := move.dispatches leaves
  -- A caller would be there for something else.
  rcases caller_of_stage fresh began at_ with ⟨inside, -⟩ | ⟨demand, -, role⟩
  · exact same ▸ inside
  · exact absurd (role.symm.trans worker) demand.role_ne_worker

/-- A relay without pending records has resolved all of them exactly once. -/
theorem exactlyOnce_of_pending (fresh : Fresh config start) (ran : start.run actions = some relay)
    (drained : relay.queue.pending = 0) : ExactlyOnce start actions relay := by
  -- The histories agree because nothing is on its way any more; the counters follow them.
  have counted := counted_of_run fresh ran
  have settled := settled_of_pending fresh ran drained
  have publications := publications_of_run ran
  have zero : relay.books.pending = 0 := drained
  have balance := counted.pending
  exact {
    pending := drained
    dispatched := settled.accepted
    workers := fresh.config_eq ▸ workers_of_run fresh ran
    routed := settled.dispatched
    called := publications
    replied := publications ▸ settled.routed
    resolved := settled.resolved
    submitted := counted.submitted
    published := counted.granted
    failed := counted.failed
    -- Every record that was counted is resolved, and one that is resolved succeeded or failed.
    balanced := by
      have submitted := counted.submitted
      have resolved := counted.settled
      simp only [books] at submitted resolved balance zero
      omega }

/-- One that finishes has no answer while anything is pending. -/
theorem exactlyOnce_of_finish {caller : TaskId} {ending : Ending} (fresh : Fresh config start)
    (ran : start.run actions = some relay) (whole : WholeDemands actions)
    (arrived : (Demand.finish, caller) ∈ start.callers actions)
    (ended : relay.ending? caller = some ending) : ExactlyOnce start actions relay := by
  -- Whoever has come through to the answer has left a relay that is quiet.
  obtain ⟨at_, role⟩ := ended_of_finish fresh ran arrived ended
  have through := (steered_of_run fresh ran whole).through caller _ at_
    (by simp [Stage.isThrough, role])
  exact exactlyOnce_of_pending fresh ran through.1.pending

end Runs

/-- However callers bring records and sources and finish, each record that is counted is resolved
exactly once before any of them is told that all is finished.

In the end the callers were told of as many records as were counted.
Each of them was told of its own ones, and one that was refused has none. -/
theorem resolved_exactly_once {σ : Type} {config : Config} {service : Service σ} {state : σ}
    {start relay : Relay} {actions : List Action}
    (launched : launch config service state = .ok start) (ran : start.run actions = some relay)
    (whole : WholeDemands actions) :
    (∀ caller ending, (Demand.finish, caller) ∈ start.callers actions →
      relay.ending? caller = some ending → ExactlyOnce start actions relay) ∧
    ((∀ entry ∈ start.callers actions, (relay.ending? entry.2).isSome = true) →
      relay.queue.submitted = (start.answers actions relay).count .accepted +
        ((start.answers actions relay).filterMap Ending.queued?).sum) ∧
    ∀ demand caller, (demand, caller) ∈ start.callers actions →
      (start.acceptedBy actions caller).Sublist demand.records ∧
        ∀ ending, relay.ending? caller = some ending →
          (start.acceptedBy actions caller).length = ending.credit := by
  have fresh := fresh_of_launch launched
  refine ⟨fun caller ending arrived ended => ?_, submitted_of_answers fresh ran,
    fun demand caller arrived => ?_⟩
  · exact exactlyOnce_of_finish fresh ran whole arrived ended
  · -- What is counted of a caller comes before what it has still to offer.
    obtain ⟨stage, at_, -⟩ := stage_of_caller fresh ran arrived
    refine ⟨(List.sublist_append_left _ _).trans (brought_of_run fresh ran arrived at_), ?_⟩
    intro ending ended
    rw [credited_of_run fresh ran, at_, Option.elim_some]
    exact credit_of_ending? (by simpa [ending?, at_] using ended)

/-- In the rehearsal both records are counted, and one of them is published. -/
theorem resolved_exactly_once_in_rehearsal :
    ∃ start relay, launch rehearsalConfig Script.smooth.service 0 = .ok start ∧
      start.run rehearsal = some relay ∧ (Demand.finish, 3) ∈ start.callers rehearsal ∧
      ExactlyOnce start rehearsal relay ∧ relay.queue.submitted = 2 ∧ relay.queue.published = 1 := by
  -- One record has no luck with the service, so both counts are seen.
  obtain ⟨start, relay, launched, ran⟩ := exists_rehearsal
  obtain ⟨ending, ended⟩ : ∃ ending, relay.ending? 3 = some ending := by
    cases launched
    cases ran
    exact ⟨_, rfl⟩
  have arrived := finisher_of_rehearsal launched
  refine ⟨start, relay, launched, ran, arrived, ?_, ?_⟩
  · exact (resolved_exactly_once launched ran (by decide)).1 3 ending arrived ended
  · -- The two counts are read off the state in the end.
    cases launched
    cases ran
    decide

end InsightRelay.Relay
