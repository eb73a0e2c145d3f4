import InsightRelay.Proofs.Relay.Finish

/-! Turns: callers bring manifests one after another, each when all before it have their answers, and the
last one finishes.

Then only one caller at a time is at work, and the queue is open for all that bring records. -/

namespace InsightRelay

/-- Whether a task is a caller without an answer. -/
def Stage.isActive (stage : Stage) : Bool :=
  stage.role != .worker && stage.ending?.isNone

/-- A worker is no caller. -/
theorem isActive_of_worker {stage : Stage} (worker : stage.role = .worker) :
    stage.isActive = false := by
  simp [Stage.isActive, worker]

/-- A caller with its answer is at work no more. -/
theorem isActive_of_ending? {stage : Stage} (ended : stage.ending?.isSome = true) :
    stage.isActive = false := by
  obtain ⟨ending, told⟩ := Option.isSome_iff_exists.1 ended
  simp [Stage.isActive, told]

/-- A caller that is not at work has its answer. -/
theorem ending?_of_idle {stage : Stage} (idle : stage.isActive = false)
    (caller : stage.role ≠ .worker) : stage.ending?.isSome = true := by
  simpa [Stage.isActive, caller, Option.isNone_eq_false_iff] using idle

namespace Relay

/-- Each caller arrives when all that came before it have their answers. -/
def InTurn (start : Relay) (actions : List Action) : Prop :=
  ∀ position demand relay, actions[position]? = some (.arrive demand) →
    start.run (actions.take position) = some relay →
      ∀ entry ∈ start.callers (actions.take position), (relay.ending? entry.2).isSome = true

/-- Whether the callers before a position of a run have their answers there. -/
private def isTurn (start : Relay) (actions : List Action) (position : Nat) : Bool :=
  (start.run (actions.take position)).all fun relay =>
    (start.callers (actions.take position)).all fun entry => (relay.ending? entry.2).isSome

instance (start : Relay) (actions : List Action) : Decidable (InTurn start actions) :=
  decidable_of_iff (∀ position : Fin actions.length,
    (actions[position].demand?).isSome = true → start.isTurn actions position = true) <| by
    -- Only the positions at which somebody arrives have to be looked at.
    constructor
    · intro all position demand relay there ran
      obtain ⟨inside, same⟩ := List.getElem?_eq_some_iff.1 there
      have turn := all ⟨position, inside⟩ (by simp [same, Action.demand?])
      simpa [isTurn, ran] using turn
    · intro inTurn position arrives
      cases ran : start.run (actions.take position) with
      | none => simp [isTurn, ran]
      | some relay =>
        obtain ⟨demand, brings⟩ := Option.isSome_iff_exists.1 arrives
        have there : actions[position.val]? = some (.arrive demand) := by
          rw [List.getElem?_eq_getElem position.isLt]
          cases action : actions[position.val] <;> simp_all [Action.demand?]
        simpa [isTurn, ran] using inTurn position demand relay there ran

/-- The callers bring manifests in their order, and one that finishes comes after all of them. -/
def Visits (manifests : List Manifest) (actions : List Action) : Prop :=
  actions.filterMap Action.demand? <+: manifests.map Demand.addManifest ++ [.finish]

section Prefixes

variable {start relay : Relay} {past : List Action} {action : Action} {manifests : List Manifest}

/-- What keeps to turns has done so from the beginning. -/
theorem InTurn.earlier (inTurn : InTurn start (past ++ [action])) : InTurn start past := by
  intro position demand relay there ran
  -- Up to a position of the shorter run both runs are the same.
  have inside := (List.getElem?_eq_some_iff.1 there).1
  have same : (past ++ [action]).take position = past.take position :=
    List.take_append_of_le_length (Nat.le_of_lt inside)
  refine same ▸ inTurn position demand relay ?_ (same.symm ▸ ran)
  rwa [List.getElem?_append_left inside]

/-- When a caller arrives in turn, all others have their answers. -/
theorem InTurn.answered {demand : Demand} (inTurn : InTurn start (past ++ [.arrive demand]))
    (ran : start.run past = some relay) :
    ∀ entry ∈ start.callers past, (relay.ending? entry.2).isSome = true := by
  have same : (past ++ [Action.arrive demand]).take past.length = past := List.take_left' rfl
  exact same ▸ inTurn past.length demand relay (by simp) (same.symm ▸ ran)

/-- Those that came are the first of those that were to come. -/
theorem Visits.earlier (visits : Visits manifests (past ++ [action])) : Visits manifests past := by
  refine (List.prefix_append _ ([action].filterMap Action.demand?)).trans ?_
  rw [← List.filterMap_append]
  exact visits

/-- Nobody comes after the one that finishes. -/
theorem Visits.before {demand : Demand} (visits : Visits manifests (past ++ [.arrive demand])) :
    past.filterMap Action.demand? <+: manifests.map Demand.addManifest := by
  -- There is room for one more, so those that came are not all yet.
  have shorter := visits.length_le
  refine List.prefix_of_prefix_length_le visits.earlier (List.prefix_append _ _) ?_
  simp only [List.filterMap_append, List.length_append, List.length_map, List.filterMap_cons,
    Action.demand?, List.filterMap_nil, List.length_cons, List.length_nil] at shorter ⊢
  omega

/-- Whoever arrives brings a manifest or finishes. -/
theorem Visits.demand {demand : Demand} (visits : Visits manifests (past ++ [.arrive demand])) :
    (∃ manifest ∈ manifests, demand = .addManifest manifest) ∨ demand = .finish := by
  have came : demand ∈ (past ++ [Action.arrive demand]).filterMap Action.demand? :=
    mem_demands (by simp)
  rcases List.mem_append.1 (visits.mem came) with brought | last
  · obtain ⟨manifest, inside, rfl⟩ := List.mem_map.1 brought
    exact .inl ⟨manifest, inside, rfl⟩
  · exact .inr (List.mem_singleton.1 last)

/-- Callers that bring manifests and finish are callers of a whole relay. -/
theorem Visits.whole {actions : List Action} (visits : Visits manifests actions) :
    WholeDemands actions := by
  intro demand member
  rcases List.mem_append.1 (visits.mem (mem_demands member)) with brought | last
  · obtain ⟨manifest, -, rfl⟩ := List.mem_map.1 brought
    rfl
  · rw [List.mem_singleton.1 last]
    rfl

end Prefixes

/-- One caller at a time is at work, and none that brings records after the queue is closed. -/
structure Orderly (relay : Relay) : Prop where
  last : ∀ task stage, relay.stage? task = some stage → stage.isActive = true →
    task + 1 = relay.tasks.length
  closed : relay.queue.closed = true →
    ∃ task stage, relay.stage? task = some stage ∧ stage.role = .finisher
  open_ : ∀ task stage, relay.stage? task = some stage → stage.role = .bringer →
    stage.isActive = true → relay.queue.closed = false

section Moves

variable {relay shared : Relay} {task : TaskId} {before after : Stage}

/-- Whoever has its answer moves no more. -/
theorem Move.unanswered (move : Move relay task before after shared) : before.ending? = none := by
  cases move <;> rfl

/-- Only one that finishes closes the queue. -/
theorem Move.closes (move : Move relay task before after shared)
    (closed : shared.queue.closed = true) :
    relay.queue.closed = true ∨ before.role = .finisher := by
  rcases move.lock with same | ⟨finisher, -⟩
  · exact .inl (same ▸ closed)
  · exact .inr finisher

/-- A caller is at work whenever it moves. -/
theorem Move.active (move : Move relay task before after shared) (caller : before.role ≠ .worker) :
    before.isActive = true := by
  simp [Stage.isActive, caller, move.unanswered]

/-- Two callers at work are the same one. -/
theorem Orderly.unique (orderly : Orderly relay) {other : TaskId} {stage : Stage}
    (at_ : relay.stage? task = some before) (active : before.isActive = true)
    (there : relay.stage? other = some stage) (too : stage.isActive = true) : other = task := by
  have one := orderly.last task before at_ active
  have another := orderly.last other stage there too
  exact Nat.succ.inj (another.trans one.symm)

/-- Whatever move is made, one caller at a time is at work. -/
theorem Orderly.move (orderly : Orderly relay) (at_ : relay.stage? task = some before)
    (move : Move relay task before after shared) : Orderly (shared.withStage task after) := by
  -- The one that is at work after the move was so before it.
  have earlier (active : after.isActive = true) : before.isActive = true := by
    refine move.active fun worker => ?_
    simp [isActive_of_worker (move.role.trans worker)] at active
  constructor
  · intro other stage there active
    rw [move.stage? at_] at there
    -- A move makes no new task, so the last one is the same as before.
    show other + 1 = (shared.tasks.set task after).length
    rw [List.length_set, move.tasks]
    split at there
    · next same =>
      obtain rfl : after = stage := Option.some.inj there
      exact same ▸ orderly.last task before at_ (earlier active)
    · exact orderly.last other stage there active
  · intro closed
    rcases move.closes closed with already | finisher
    · -- The one that closed the queue is still there, and it may be the mover.
      obtain ⟨other, stage, there, role⟩ := orderly.closed already
      by_cases same : other = task
      · obtain rfl : before = stage := by simpa [same, at_] using there
        exact ⟨task, after, by rw [move.stage? at_, if_pos rfl], move.role.trans role⟩
      · exact ⟨other, stage, by rw [move.stage? at_, if_neg same, there], role⟩
    · exact ⟨task, after, by rw [move.stage? at_, if_pos rfl], move.role.trans finisher⟩
  · intro other stage there bringer active
    refine Bool.eq_false_iff.2 fun closed => ?_
    rw [move.stage? at_] at there
    split at there
    · obtain rfl : after = stage := Option.some.inj there
      rw [move.role] at bringer
      rcases move.closes closed with already | finisher
      · simp [orderly.open_ task before at_ bringer (earlier active)] at already
      · simp [bringer] at finisher
    · next differ =>
      rcases move.closes closed with already | finisher
      · simp [orderly.open_ other stage there bringer active] at already
      · -- The mover closes the queue now, so it is at work, and no one else can be.
        have moving := move.active (by simp [finisher])
        exact differ (orderly.unique at_ moving there active)

end Moves

section Runs

variable {config : Config} {start relay : Relay} {actions : List Action} {manifests : List Manifest}

/-- Callers that have their answers are at work no more, and neither are workers. -/
theorem idle_of_answered (fresh : Fresh config start) (ran : start.run actions = some relay)
    (answered : ∀ entry ∈ start.callers actions, (relay.ending? entry.2).isSome = true)
    {task : TaskId} {stage : Stage} (at_ : relay.stage? task = some stage) :
    stage.isActive = false := by
  -- Workers are never at work for callers, and callers with their answers are done.
  rcases caller_of_stage fresh ran at_ with ⟨-, worker⟩ | ⟨demand, arrived, -⟩
  · exact isActive_of_worker worker
  · exact isActive_of_ending? (by simpa [ending?, at_] using answered _ arrived)

/-- While callers come in turn, one at a time is at work. -/
theorem orderly_of_run (fresh : Fresh config start) (ran : start.run actions = some relay)
    (visits : Visits manifests actions) (inTurn : InTurn start actions) : Orderly relay := by
  refine run_induction (fun actions relay => Visits manifests actions → InTurn start actions →
    Orderly relay) ?initial ?arrive ?register ?move ran visits inTurn
  case initial =>
    refine fun _ _ =>
      ⟨fun task stage at_ active => ?_, fun closed => ?_, fun task stage at_ role => ?_⟩
    · obtain rfl := fresh.seeking at_
      simp [Stage.isActive, Stage.role] at active
    · simp [fresh.queue, Queue.empty] at closed
    · obtain rfl := fresh.seeking at_
      simp [Stage.role] at role
  case arrive =>
    intro past relay demand ran ih visits inTurn
    have orderly := ih visits.earlier inTurn.earlier
    -- All that came before have their answers, so the new one is the only one at work.
    have idle {task : TaskId} {stage : Stage} (at_ : relay.stage? task = some stage) :
        stage.isActive = false := idle_of_answered fresh ran (inTurn.answered ran) at_
    have same := arrive_of_isWhole (visits.whole demand (by simp)) relay
    constructor
    · intro task stage there active
      rw [stage?_arrive] at there
      split at there
      · next last => simp [same, last]
      · simp [idle there] at active
    · rw [queue_arrive]
      intro closed
      -- Whoever has closed the queue is still there.
      obtain ⟨task, stage, at_, role⟩ := orderly.closed closed
      have inside := (List.getElem?_eq_some_iff.1 at_).1
      exact ⟨task, stage, by rw [stage?_arrive, if_neg (Nat.ne_of_lt inside), at_], role⟩
    · intro task stage there bringer active
      rw [queue_arrive]
      refine Bool.eq_false_iff.2 fun closed => ?_
      rw [stage?_arrive] at there
      split at there
      · -- Whoever closed the queue would have come as the last of all.
        obtain ⟨closer, other, at_, role⟩ := orderly.closed closed
        rcases caller_of_stage fresh ran at_ with ⟨-, worker⟩ | ⟨wish, arrived, same⟩
        · simp [worker] at role
        · obtain ⟨manifest, -, rfl⟩ := List.mem_map.1 (visits.before.mem (demand_of_callers arrived))
          simp [role, Demand.role, Demand.addManifest] at same
      · simp [idle there] at active
  case register =>
    intro past relay key session _ ih visits inTurn
    have orderly := ih visits.earlier inTurn.earlier
    exact ⟨orderly.last, orderly.closed, orderly.open_⟩
  case move =>
    intro past relay action task before after shared _ ih _ at_ move _ visits inTurn
    exact (ih visits.earlier inTurn.earlier).move at_ move

end Runs

end Relay

end InsightRelay
