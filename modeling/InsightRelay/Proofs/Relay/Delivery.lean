import InsightRelay.Proofs.Relay.Confluence
import InsightRelay.Proofs.Relay.Start
import InsightRelay.Relay.Delivery

/-! Deliveries: all records of manifests that are brought in sequence are counted, and the one that
finishes completes all sessions. -/

namespace InsightRelay

/-- The session that was completed successfully in an exchange, if one was. -/
def Exchange.completed? (exchange : Exchange) : Option String :=
  match exchange.call, exchange.reply with
  | .complete session .success, .granted _ => some session
  | _, _ => none

/-- A caller that brings something and is not at work has nothing left to offer. -/
theorem upcoming_of_idle {stage : Stage} (bringer : stage.role = .bringer)
    (idle : stage.isActive = false) : stage.upcoming = [] := by
  -- A bringer that is idle has been told its ending, and no stage with an ending has records left.
  have told := ending?_of_idle idle (by simp [bringer])
  cases stage <;> simp_all [Stage.ending?, Stage.upcoming]

namespace Relay

section Sequences

variable {config : Config} {manifests : List Manifest} {start relay : Relay}
  {actions : List Action} {caller : TaskId} {ending : Ending}

/-- While callers come in turn, nothing is refused of what they bring. -/
theorem counted_of_visits (fresh : Fresh config start) (ran : start.run actions = some relay)
    (visits : Visits manifests actions) (inTurn : InTurn start actions) {manifest : Manifest}
    (brings : (Demand.addManifest manifest, caller) ∈ start.callers actions) {stage : Stage}
    (at_ : relay.stage? caller = some stage) :
    start.acceptedBy actions caller ++ stage.upcoming = manifest.named := by
  -- Only the caller itself changes what it has still to offer.
  refine caller_induction fresh (fun actions _ stage => Visits manifests actions →
    InTurn start actions → start.acceptedBy actions caller ++ stage.upcoming = manifest.named)
    ?come ?arrive ?register ?own ?others ran brings at_ visits inTurn
  case come =>
    rintro past relay ran rfl _ _
    -- Whoever comes has been told of nothing yet, so all of its records are still to come.
    have none_ := credited_of_run fresh ran relay.tasks.length
    rw [stage?, List.getElem?_eq_none (Nat.le_refl _)] at none_
    rw [acceptedBy_arrive ran, List.eq_nil_of_length_eq_zero none_, upcoming_stage]
    exact manifest.goods_source
  case arrive =>
    intro past relay other stage ran _ ih visits inTurn
    rw [acceptedBy_arrive ran]
    exact ih visits.earlier inTurn.earlier
  case register =>
    intro past relay key session stage ran _ ih visits inTurn
    simpa only [acceptedBy, accepted, watch_register ran] using ih visits.earlier inTurn.earlier
  case own =>
    intro past relay action before after shared ran came ih acts at_ move stepped visits inTurn
    rw [acceptedBy_move ran acts at_ move stepped, if_pos rfl]
    rcases move.upcoming with offered | ⟨closed, -, -⟩
    · -- A record goes from those that are to come to those that are counted.
      rw [List.append_assoc, offered]
      exact ih visits.earlier inTurn.earlier
    · -- While the caller is at work nobody has closed the queue.
      obtain ⟨stage, there, role⟩ := stage_of_caller fresh ran came
      obtain rfl : before = stage := Option.some.inj (at_.symm.trans there)
      have bringer : before.role = .bringer := role
      have orderly := orderly_of_run fresh ran visits.earlier inTurn.earlier
      have open_ := orderly.open_ caller before at_ bringer (move.active (by simp [bringer]))
      simp [open_] at closed
  case others =>
    intro past relay action task before after shared stage ran _ ih other acts at_ move stepped
      visits inTurn
    rw [acceptedBy_move ran acts at_ move stepped, if_neg other, List.append_nil]
    exact ih visits.earlier inTurn.earlier

/-- What was completed without a failure was completed successfully. -/
theorem completed_of_run (fresh : Fresh config start) (ran : start.run actions = some relay) :
    ∀ exchange ∈ relay.journal, ∀ session, exchange.completion? = some (session, none) →
      exchange.completed? = some session := by
  refine run_induction (fun _ relay => ∀ exchange ∈ relay.journal, ∀ session,
    exchange.completion? = some (session, none) → exchange.completed? = some session)
    ?initial ?arrive ?register ?move ran
  case initial =>
    intro exchange member session completes
    -- At first there was at most a request for a session.
    rcases fresh.sessions with ⟨-, journal, -⟩ | ⟨-, request, opened, -, journal, -⟩
    · simp [journal] at member
    · rw [journal, List.mem_singleton] at member
      simp [member, Exchange.completion?] at completes
  case arrive => exact fun past relay demand _ ih => by rwa [journal_arrive]
  case register => exact fun past relay key session _ ih => ih
  case move =>
    intro past relay action task before after shared _ ih _ _ move _ exchange member session completes
    cases move with
    | published | rejected | crash | opened | unopened | completed | incomplete =>
      rcases List.mem_append.1 member with earlier | now
      · exact ih exchange earlier session completes
      · -- Only the reply that grants the completion is one without a failure.
        rw [List.mem_singleton.1 now] at completes ⊢
        simp_all [Exchange.completion?, Exchange.completed?]
    | _ => exact ih exchange member session completes

/-- Where no completion failed, all of them were successful. -/
theorem filterMap_completed? (fresh : Fresh config start) (ran : start.run actions = some relay)
    (smooth : relay.completions.findSome? Prod.snd = none) :
    relay.journal.filterMap Exchange.completed? = relay.completions.map Prod.fst := by
  -- Exchange by exchange: one that completes a session did so without a failure.
  rw [completions, List.map_filterMap]
  refine List.filterMap_congr fun exchange member => ?_
  cases completes : exchange.completion? with
  | none =>
    obtain ⟨task, call, reply⟩ := exchange
    cases call <;> cases reply <;> simp_all [Exchange.completion?, Exchange.completed?]
  | some entry =>
    obtain ⟨session, failure⟩ := entry
    -- None of the failures was found, so this is none.
    obtain rfl : failure = none := by
      simpa using List.findSome?_eq_none_iff.1 smooth _ (List.mem_filterMap.2 ⟨_, member, completes⟩)
    exact completed_of_run fresh ran exchange member session completes

section Finished

variable (sequence : InSequence manifests start actions) (fresh : Fresh config start)
  (ran : start.run actions = some relay) (arrived : (Demand.finish, caller) ∈ start.callers actions)
  (ended : relay.ending? caller = some ending)

include sequence fresh ran arrived ended

/-- Whoever brought a manifest has brought all its records. -/
theorem InSequence.acceptedBy {manifest : Manifest} {task : TaskId}
    (brings : (Demand.addManifest manifest, task) ∈ start.callers actions) :
    start.acceptedBy actions task = manifest.named := by
  obtain ⟨stage, at_, role⟩ := stage_of_caller fresh ran brings
  have all := counted_of_visits fresh ran sequence.visits sequence.inTurn brings at_
  rwa [upcoming_of_idle role (sequence.idle fresh ran arrived ended at_), List.append_nil] at all

/-- The answers tell of all records of one manifest after another, and these are all that were
counted. -/
theorem InSequence.delivered :
    start.answers actions relay =
      (manifests.map fun manifest => manifest.named.length).map Ending.queued ++ [ending] ∧
    relay.queue.submitted = (manifests.map fun manifest => manifest.named.length).sum := by
  have counts := sequence.counts fresh ran arrived ended
  -- The callers are numbered in the order of the manifests, and each of them accounts for its own.
  have each : ((manifests.zipIdx start.tasks.length).map fun entry =>
      (start.acceptedBy actions entry.2).length) =
        manifests.map fun manifest => manifest.named.length := by
    conv_rhs => rw [← List.zipIdx_map_fst start.tasks.length manifests, List.map_map]
    refine List.map_congr_left fun entry member => ?_
    exact congrArg List.length
      (sequence.acceptedBy fresh ran arrived ended (sequence.brings member))
  rw [each] at counts
  -- The caller that finishes has queued nothing itself.
  have total := submitted_of_answers fresh ran (sequence.answered fresh ran arrived ended)
  obtain ⟨-, role⟩ := ended_of_finish fresh ran arrived ended
  obtain ⟨none_, told⟩ := queued_of_finisher (manifests.map fun manifest => manifest.named.length) role
  rw [counts, none_, told, Nat.zero_add] at total
  exact ⟨counts, total⟩

/-- The one that finishes has completed all sessions, and it is told of the first failure. -/
theorem InSequence.closed :
    (relay.completions.map Prod.fst).Perm relay.opened ∧
      ending = .ofFailure (relay.completions.findSome? Prod.snd) := by
  have whole := sequence.visits.whole
  have steered := steered_of_run fresh ran whole
  obtain ⟨there, role⟩ := ended_of_finish fresh ran arrived ended
  obtain ⟨-, done, idle⟩ := steered.through caller _ there (by simp [Stage.isThrough, role])
  -- The workers were taken by one that finishes, and there is only one.
  obtain ⟨closer, stage, owner, at_, busy⟩ := steered.claimed done
  have through : stage.isThrough = true := by simpa [idle closer stage at_] using busy
  obtain rfl : closer = caller := by
    have finisher : stage.role = .finisher := by
      cases stage <;> simp_all [Stage.isThrough, Stage.role]
    rcases caller_of_stage fresh ran at_ with ⟨-, worker⟩ | ⟨demand, came, same⟩
    · simp [finisher] at worker
    · cases demand <;> simp [finisher, Demand.role] at same
      rw [sequence.finisher came, sequence.finisher arrived]
  -- So it is the caller itself that has closed the sessions it found.
  obtain ⟨failure, told, -, all, rfl⟩ := ((completing_of_run fresh ran whole sequence.own).through
    closer ending there role).1 owner
  rw [List.append_nil] at all
  exact ⟨all.trans (registered_of_run fresh ran sequence.own).opened, told⟩

end Finished

end Sequences

/-- What has been answered stays answered. -/
theorem ending?_of_run {relay later : Relay} {more : List Action} {task : TaskId} {ending : Ending}
    (ran : relay.run more = some later) (ended : relay.ending? task = some ending) :
    later.ending? task = some ending := by
  refine run_induction (fun _ relay => relay.ending? task = some ending) ended
    ?arrive ?register ?move ran
  case arrive =>
    intro past relay demand _ ih
    -- The newcomer is another task.
    obtain ⟨stage, at_, told⟩ := Option.bind_eq_some_iff.1 ih
    have inside := (List.getElem?_eq_some_iff.1 at_).1
    rw [ending?, stage?_arrive, if_neg (Nat.ne_of_lt inside), at_]
    exact told
  case register => exact fun past relay key session _ ih => ih
  case move =>
    intro past relay action mover before after shared _ ih _ at_ move _
    obtain ⟨stage, there, told⟩ := Option.bind_eq_some_iff.1 ih
    -- Whoever has its answer moves no more.
    have other : task ≠ mover := by
      rintro rfl
      obtain rfl : before = stage := Option.some.inj (at_.symm.trans there)
      simp [move.unanswered] at told
    rw [ending?, move.stage? at_, if_neg other, there]
    exact told

/-- A caller that arrives when all others have their answers comes in turn. -/
theorem InTurn.arrive {start relay : Relay} {past more : List Action} (inTurn : InTurn start past)
    (ran : start.run past = some relay)
    (answered : ∀ entry ∈ start.callers past, (relay.ending? entry.2).isSome = true)
    (demand : Demand) (undisturbed : Undisturbed more) :
    InTurn start (past ++ .arrive demand :: more) := by
  -- The actions are those before the caller, its arrival, and those behind it.
  intro position other before there began
  rcases Nat.lt_trichotomy position past.length with earlier | rfl | later
  · rw [List.take_append_of_le_length earlier.le] at began ⊢
    rw [List.getElem?_append_left earlier] at there
    exact inTurn position other before there began
  · rw [List.take_left' rfl] at began ⊢
    obtain rfl : relay = before := Option.some.inj (ran.symm.trans began)
    exact answered
  · -- Behind the caller nobody else arrives.
    obtain ⟨further, rfl⟩ := Nat.exists_eq_add_of_lt later
    rw [List.getElem?_append_right (by omega), show past.length + further + 1 - past.length =
      further + 1 by omega, List.getElem?_cons_succ] at there
    simpa [Action.task?] using undisturbed _ (List.mem_of_getElem? there)

/-- Callers came with their demands in turn, no session came from elsewhere, and they all got their
answers. -/
structure Answered (start : Relay) (demands : List Demand) (told : List Ending)
    (actions : List Action) (relay : Relay) : Prop where
  ran : start.run actions = some relay
  demands : actions.filterMap Action.demand? = demands
  inTurn : InTurn start actions
  own : OwnSessions actions
  answers : (start.callers actions).map (fun entry => relay.ending? entry.2) = told.map some

namespace Answered

variable {start relay : Relay} {demands : List Demand} {told : List Ending} {actions : List Action}

/-- Whoever came has its answer. -/
theorem isSome (answered : Answered start demands told actions relay) :
    ∀ entry ∈ start.callers actions, (relay.ending? entry.2).isSome = true := by
  intro entry member
  have inside : relay.ending? entry.2 ∈ told.map some :=
    answered.answers ▸ List.mem_map_of_mem (f := fun entry => relay.ending? entry.2) member
  obtain ⟨ending, -, same⟩ := List.mem_map.1 inside
  rw [← same]
  rfl

/-- What the callers are told in the end is what they were told. -/
theorem answers_eq (answered : Answered start demands told actions relay) :
    start.answers actions relay = told := by
  have found := congrArg (List.filterMap id) answered.answers
  rwa [List.filterMap_map, List.filterMap_map, Function.id_comp, Function.id_comp,
    List.filterMap_some] at found

/-- One more caller comes, and in the end it has its answer too. -/
theorem arrive {last : Relay} {more : List Action} {ending : Ending}
    (answered : Answered start demands told actions relay)
    (demand : Demand) (ran : (relay.arrive demand).1.run more = some last)
    (undisturbed : Undisturbed more) (ended : last.ending? relay.tasks.length = some ending) :
    Answered start (demands ++ [demand]) (told ++ [ending])
      (actions ++ .arrive demand :: more) last := by
  -- Behind the arrival there are only moves, so no demand is added but its own.
  have stepped : relay.run (.arrive demand :: more) = some last := ran
  have silent := undisturbed.demands
  constructor
  case ran => rw [run_append answered.ran, stepped]
  case demands => simp [answered.demands, Action.demand?, silent]
  case inTurn => exact answered.inTurn.arrive answered.ran answered.isSome demand undisturbed
  case own =>
    intro key session member
    rcases List.mem_append.1 member with earlier | now
    · exact answered.own key session earlier
    · rcases List.mem_cons.1 now with same | later
      · cases same
      · simpa [Action.task?] using undisturbed _ later
  case answers =>
    have callers : start.callers (actions ++ .arrive demand :: more) =
        start.callers actions ++ [(demand, relay.tasks.length)] := by
      rw [← callers_arrive answered.ran]
      simp [Relay.callers, Action.demand?, silent]
    rw [callers, List.map_append, List.map_append, ← answered.answers]
    refine congrArg₂ (· ++ ·) (List.map_congr_left fun entry member => ?_) (by simp [ended])
    -- What was answered before stays answered.
    obtain ⟨earlier, known⟩ := Option.isSome_iff_exists.1 (answered.isSome entry member)
    exact (ending?_of_run stepped known).trans known.symm

end Answered

end Relay

namespace Workshop

open Relay

variable {σ : Type} {start : Relay} {demands : List Demand} {told : List Ending}
  {actions : List Action} {workshop : Workshop σ}

/-- A caller arrives and everything settles down in a run in which nobody else arrives. -/
theorem exists_run_of_arrive (workshop : Workshop σ) (demand : Demand) :
    ∃ actions, Undisturbed actions ∧ (workshop.relay.arrive demand).1.run actions =
      some (workshop.arrive demand).1.relay := by
  unfold Workshop.arrive settle
  exact exists_run_of_turns ⟨_, _, _, _, _⟩ _

/-- To await an answer is to come in turn. -/
theorem answered_await
    (answered : Answered start demands told actions workshop.relay) {demand : Demand}
    {ending : Ending} (ended : (workshop.await demand).2 = some ending) :
    ∃ actions, Answered start (demands ++ [demand]) (told ++ [ending]) actions
      (workshop.await demand).1.relay := by
  obtain ⟨more, undisturbed, ran⟩ := exists_run_of_arrive workshop demand
  exact ⟨_, answered.arrive demand ran undisturbed ended⟩

/-- To bring manifests is to come in turn with each of them, if all are answered. -/
theorem answered_bring
    (answered : Answered start demands told actions workshop.relay) {manifests : List Manifest}
    (all : ¬ (workshop.bring manifests).2.length < manifests.length) :
    ∃ actions, Answered start (demands ++ manifests.map Demand.addManifest)
      (told ++ (workshop.bring manifests).2.map Ending.queued) actions
      (workshop.bring manifests).1.relay := by
  -- Each manifest waits for its answer before the next one is brought.
  induction manifests generalizing workshop demands told actions with
  | nil => exact ⟨actions, by simpa [bring] using answered⟩
  | cons manifest manifests ih =>
    unfold bring at all ⊢
    rcases awaited : workshop.await (.addManifest manifest) with ⟨later, ending⟩
    simp only [awaited] at all ⊢
    cases counted : ending.bind Ending.count? with
    | none => simp [counted] at all
    | some count =>
      -- Only one kind of answer tells of a count.
      obtain rfl : ending = some (.queued count) := by
        obtain ⟨answer, rfl, told⟩ := Option.bind_eq_some_iff.1 counted
        cases answer <;> simp_all [Ending.count?]
      have told := congrArg Prod.snd awaited
      obtain ⟨actions, served⟩ := answered_await answered told
      rw [awaited] at served
      simp only [counted, List.length_cons, Nat.add_lt_add_iff_right] at all ⊢
      simpa using ih served all

/-- To deliver manifests is to come in turn with each of them and to finish. -/
theorem answered_deliver
    (answered : Answered start [] [] actions workshop.relay) {manifests : List Manifest}
    {ending : Ending} (ended : (workshop.deliver manifests).ending = some ending) :
    ∃ actions, Answered start (manifests.map Demand.addManifest ++ [.finish])
      ((workshop.deliver manifests).accepted.map Ending.queued ++ [ending]) actions
      (workshop.deliver manifests).workshop.relay := by
  -- Either one manifest stops the delivery, or all are answered and the finish comes after them.
  unfold deliver at ended ⊢
  rcases brought : workshop.bring manifests with ⟨later, accepted⟩
  simp only [brought] at ended ⊢
  split at ended
  · simp at ended
  · next all =>
    obtain ⟨actions, served⟩ : ∃ actions, Answered start ([] ++ manifests.map Demand.addManifest)
        ([] ++ (workshop.bring manifests).2.map Ending.queued) actions
        (workshop.bring manifests).1.relay := answered_bring answered (by rwa [brought])
    -- All are answered, so that the one that finishes comes in turn, too.
    rw [brought] at served
    rw [if_neg all]
    simp only [List.nil_append] at served
    exact answered_await served ended

end Workshop

end InsightRelay
