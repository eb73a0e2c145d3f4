import InsightRelay.Proofs.Relay.Balance
import InsightRelay.Proofs.Relay.Sessions
import InsightRelay.Relay.Effort
import Mathlib.Algebra.Order.BigOperators.Group.List
import Mathlib.Algebra.Order.Group.Nat

/-! Effort: every step and every reply uses up some of it, so without new callers a relay comes to
rest. -/

namespace InsightRelay

/-- Another session does not lessen any effort, and neither does another worker. -/
theorem Stage.effort_mono {sessions more workers others : Nat} (known : sessions ≤ more)
    (there : workers ≤ others) (stage : Stage) :
    stage.effort sessions workers ≤ stage.effort more others := by
  cases stage <;> simp only [Stage.effort] <;> omega

/-- A source has as many records to queue in the end as when it is brought. -/
theorem effort_batch (source : Source) : source.batch.effort = 10 * source.records.length + 1 := rfl

namespace Registry

/-- A session that is registered makes at most one more. -/
theorem count_add_le {Client : Type} (registry : Registry Client) (key : String)
    (session : Session Client) :
    (registry.add key session).1.count ≤ registry.count + 1 := by
  -- On the way to the place of the key nothing changes.
  suffices placed : ∀ entries : List (String × Session Client),
      (Dictionary.place key session entries).length ≤ entries.length + 1 from placed _
  intro entries
  induction entries with
  | nil => simp [Dictionary.place]
  | cons head rest ih =>
    simp only [Dictionary.place]
    split
    · simp
    · -- An entry comes in, or one is replaced, or the search goes on.
      split
      · simp
      · simpa using ih

end Registry

namespace Relay

/-- The effort that is left in the tasks, given how many sessions and workers there may be at the
end. -/
def labor (relay : Relay) (sessions workers : Nat) : Nat :=
  (relay.tasks.map (Stage.effort sessions workers)).sum

/-- What is left in a relay is left in the buffer and in the tasks. -/
theorem effort_eq (relay : Relay) : relay.effort =
    5 * relay.queue.buffer.length + relay.labor relay.sessionBound relay.workerCount := rfl

/-- With fewer sessions and workers there is no more to do. -/
theorem labor_mono {relay : Relay} {sessions more workers others : Nat} (known : sessions ≤ more)
    (there : workers ≤ others) : relay.labor sessions workers ≤ relay.labor more others :=
  List.sum_le_sum fun stage _ => stage.effort_mono known there

/-- With fewer workers there is less to do for one that waits for them to end. -/
theorem labor_lt {relay : Relay} {task : TaskId} {finishing : Bool}
    {sessions more workers others : Nat} (at_ : relay.stage? task = some (.joining finishing))
    (known : sessions ≤ more) (there : workers < others) :
    relay.labor sessions workers < relay.labor more others := by
  refine List.sum_lt_sum _ _ (fun stage _ => stage.effort_mono known (Nat.le_of_lt there))
    ⟨.joining finishing, List.mem_of_getElem? at_, ?_⟩
  simp only [Stage.effort]
  omega

section Moves

variable {relay shared : Relay} {task : TaskId} {before after : Stage}

/-- A move exchanges the effort for one stage for that for another. -/
theorem labor_move (at_ : relay.stage? task = some before)
    (move : Move relay task before after shared) (sessions workers : Nat) :
    (shared.withStage task after).labor sessions workers + before.effort sessions workers =
      relay.labor sessions workers + after.effort sessions workers := by
  -- The labor is the sum of the efforts of all tasks, of which only the mover changes its own.
  have tallied (relay : Relay) : relay.labor sessions workers =
      relay.tally fun _ stage => stage.effort sessions workers := by
    rw [labor, tally]
    exact congrArg List.sum (List.ext_getElem (by simp) (by simp))
  rw [tallied, tallied]
  exact tally_move move.tasks at_ after fun _ stage => stage.effort sessions workers

/-- Who cannot register a session any more never can again. -/
theorem Move.mayRegister (move : Move relay task before after shared)
    (may : after.mayRegister = true) :
    before.mayRegister = true ∧ shared.registry = relay.registry := by
  -- Only the first three stages of a bringer may still register, and they follow one another.
  cases move with
  | approach | enter | ask => exact ⟨rfl, rfl⟩
  | @refuse record errand => cases errand <;> simp [Errand.refused, Stage.mayRegister] at may
  | @place errand => cases errand <;> simp [Errand.placed, Stage.mayRegister] at may
  | @pass finishing => cases finishing <;> simp [Stage.mayRegister] at may
  | @joined finishing => cases finishing <;> simp [Stage.mayRegister] at may
  | _ => simp [Stage.mayRegister] at may

/-- How many tasks may register a session changes with the task that moves. -/
private theorem registering_move (at_ : relay.stage? task = some before)
    (move : Move relay task before after shared) :
    ((shared.withStage task after).tasks.filter Stage.mayRegister).length +
        before.mayRegister.toNat =
      (relay.tasks.filter Stage.mayRegister).length + after.mayRegister.toNat := by
  obtain ⟨inside, rfl⟩ := List.getElem?_eq_some_iff.1 at_
  simp only [withStage, move.tasks, ← List.countP_eq_length_filter, List.countP_set inside]
  -- One that may is itself among those that are counted.
  cases may : relay.tasks[task].mayRegister with
  | false => cases after.mayRegister <;> simp
  | true =>
    have counted : 0 < relay.tasks.countP Stage.mayRegister :=
      List.countP_pos_iff.2 ⟨_, List.getElem_mem inside, may⟩
    cases after.mayRegister <;> simp <;> omega

/-- A session is registered by one that can register no other. -/
theorem sessionBound_move (at_ : relay.stage? task = some before)
    (move : Move relay task before after shared) :
    (shared.withStage task after).sessionBound ≤ relay.sessionBound := by
  have counted := registering_move at_ move
  simp only [sessionBound]
  rcases move.registers with
    ⟨registry, -⟩ | ⟨source, request, session, rfl, rfl, registry, -⟩
  · -- Without a new session the number can change with the mover only.
    have kept : (shared.withStage task after).registry = relay.registry := registry
    rw [kept]
    cases may : after.mayRegister with
    | false => simp only [may, Bool.toNat_false] at counted; omega
    | true =>
      simp only [may, (move.mayRegister may).1, Bool.toNat_true] at counted
      omega
  · -- There may be one more session now, but the mover can register no other.
    have grown := relay.registry.count_add_le source.origin.path ⟨session, ()⟩
    have kept : (shared.withStage task (.queueing source.batch)).registry =
      (relay.registry.add source.origin.path ⟨session, ()⟩).1 := registry
    simp only [Stage.mayRegister, Bool.toNat_true, Bool.toNat_false] at counted
    rw [kept]
    omega

/-- The workers are those of the pool at hand and of the pools that callers have taken. -/
theorem workerCount_eq (relay : Relay) : relay.workerCount =
    (relay.pool.toList.map fun pool => pool.workers.length).sum +
      (relay.taken.map fun entry => entry.2.workers.length).sum := by
  simp [workerCount, List.length_flatMap, Function.comp_def]

/-- Of pools that are taken, one with fewer workers makes them fewer in all. -/
private theorem taken_lt {relay : Relay} {task worker : TaskId}
    (waited : worker ∈ relay.workersTakenBy task) :
    ((relay.changeTaken task fun pool =>
        { pool with workers := pool.workers.filter (· != worker) }).taken.map
      fun entry => entry.2.workers.length).sum <
    (relay.taken.map fun entry => entry.2.workers.length).sum := by
  -- The worker is in some pool that the task has taken.
  obtain ⟨⟨owner, pool⟩, member, inside⟩ := List.mem_flatMap.1 waited
  obtain ⟨there, owns⟩ := List.mem_filter.1 member
  obtain rfl : owner = task := by simpa using owns
  -- No pool gets greater, and the one that the worker is in gets smaller.
  simp only [changeTaken, List.map_map]
  refine List.sum_lt_sum _ _ (fun entry _ => ?_) ⟨(owner, pool), there, ?_⟩
  · simp only [Function.comp_apply]
    split
    · exact List.length_filter_le _ _
    · exact Nat.le_refl _
  · simpa using (List.length_filter_lt_length_iff_exists (p := (· != worker))).2
      ⟨worker, inside, by simp⟩

/-- Workers come from nowhere, and they are the fewer for each that is seen to end. -/
theorem workerCount_move (move : Move relay task before after shared) :
    (shared.withStage task after).workerCount ≤ relay.workerCount ∧
      (after = before → (shared.withStage task after).workerCount < relay.workerCount) := by
  simp only [workerCount_eq, withStage]
  -- The pool at hand may change hands as a whole, and only the one that joins its workers lets go.
  cases move with
  | join waited =>
    -- The stage stays the same here, so it is the workers that have to be fewer.
    have fewer := taken_lt waited
    exact ⟨by simpa [changeTaken] using Nat.le_of_lt fewer, by simpa [changeTaken] using fewer⟩
  | stop => simp [changeTaken, Function.comp_def, apply_ite]
  | begin => simp [takePool, Function.comp_def, Nat.add_comm]
  | @refuse record errand => cases errand <;> simp [Errand.refused]
  | @place errand => cases errand <;> simp [Errand.placed]
  | @pass finishing => cases finishing <;> simp
  | @joined finishing => cases finishing <;> simp
  | skip => simp
  | _ => exact ⟨Nat.le_refl _, fun same => by simp at same⟩

/-- Either the one that moves gets on with its work, or it has seen a worker end. -/
theorem Move.lessens (move : Move relay task before after shared) {sessions : Nat}
    (known : shared.registry.count ≤ sessions) (workers : Nat) :
    5 * shared.queue.buffer.length + after.effort sessions workers <
        5 * relay.queue.buffer.length + before.effort sessions workers ∨
      after = before ∧ shared.queue = relay.queue ∧ ∃ finishing, before = .joining finishing := by
  -- A record weighs the less the further it has come, be it with a task or in the buffer.
  cases move with
  | join => exact .inr ⟨rfl, rfl, _, rfl⟩
  | @take looked record queue taken =>
    obtain ⟨takers, buffer, -, front, rfl⟩ := Queue.eq_of_take? taken
    simp only [front, List.length_cons, Stage.effort]
    cases looked <;> simp <;> omega
  | seek | look => simp [Stage.effort, Queue.joinTakers]
  | @rest looked => cases looked <;> simp [Stage.effort, Queue.leave]
  | @place errand queue placed =>
    obtain ⟨record, -, rfl⟩ := Queue.eq_of_place? placed
    cases errand <;>
      simp only [List.length_append, List.length_singleton, Errand.placed, Stage.effort,
        Errand.effort, Batch.effort] <;> omega
  | @refuse record errand => cases errand <;> simp [Errand.refused, Errand.effort, Stage.effort]
  | @pass finishing queue passed =>
    obtain ⟨-, rfl⟩ := Queue.eq_of_pass? passed
    cases finishing <;> simp [Stage.effort]
  | @joined finishing =>
    cases finishing with
    | true => simp only [Stage.effort, if_true]; omega
    | false => simp [Stage.effort]
  | collect first all =>
    -- What was reckoned for all sessions that there may be is now spent on those that there are.
    have listed : relay.registry.entries.length ≤ sessions := known
    have length := all.length_eq
    simp only [Relay.sessions, List.length_map] at length
    simp only [Stage.effort]
    omega
  | drop | published | rejected =>
    simp only [Queue.resolve, Stage.effort]
    omega
  | shut | known | unasked | opened | unopened =>
    -- The records of the source weigh what they weighed, and the way to the desk is behind it.
    simp only [Stage.effort, effort_batch]
    omega
  | _ =>
    simp only [Stage.effort, Errand.effort, Batch.effort, List.length_cons, List.length_nil,
      Queue.joinSubmitters, Queue.joinBarriers, Queue.close,
      changeTaken]
    omega

/-- Every move lessens the effort. -/
theorem effort_move (at_ : relay.stage? task = some before)
    (move : Move relay task before after shared) :
    (shared.withStage task after).effort < relay.effort := by
  -- The old stages and the new one are weighed with the sessions and workers there are afterwards.
  have sessions := sessionBound_move at_ move
  obtain ⟨workers, fewer⟩ := workerCount_move move
  have exchange := labor_move at_ move (shared.withStage task after).sessionBound
    (shared.withStage task after).workerCount
  have known : shared.registry.count ≤ (shared.withStage task after).sessionBound :=
    Nat.le_add_right _ _
  simp only [effort_eq]
  rcases move.lessens known (shared.withStage task after).workerCount with
    lighter | ⟨same, queue, finishing, rfl⟩
  · have kept := relay.labor_mono sessions workers
    have buffer : (shared.withStage task after).queue.buffer = shared.queue.buffer := rfl
    rw [buffer]
    omega
  · -- A caller that lets a worker go stays where it is, but has one worker less to wait for.
    obtain rfl := same
    have less := labor_lt at_ sessions (fewer rfl)
    have buffer : (shared.withStage task (.joining finishing)).queue.buffer =
      relay.queue.buffer := congrArg Queue.buffer queue
    rw [buffer]
    omega

end Moves

/-- Without new callers, a run takes no more steps and replies than the effort that was left. -/
theorem length_le_effort {relay last : Relay} {more : List Action}
    (ran : relay.run more = some last) (alone : ∀ action ∈ more, action.task?.isSome = true) :
    more.length + last.effort ≤ relay.effort := by
  -- Each action of the run is a move, and no move is without effort.
  refine run_induction (fun more last => (∀ action ∈ more, action.task?.isSome = true) →
    more.length + last.effort ≤ relay.effort) ?initial ?arrive ?register ?move ran alone
  case initial => simp
  case arrive =>
    intro past last demand _ _ alone
    simpa [Action.task?] using alone (.arrive demand) (by simp)
  case register =>
    intro past last key session _ _ alone
    simpa [Action.task?] using alone (.register key session) (by simp)
  case move =>
    intro past last action task before after shared _ ih _ at_ move _ alone
    have earlier := ih fun action member => alone action (List.mem_append_left _ member)
    -- One action more, and at least one less to do.
    have less := effort_move at_ move
    rw [List.length_append, List.length_singleton]
    omega

end Relay

end InsightRelay
