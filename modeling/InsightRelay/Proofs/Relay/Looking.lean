import InsightRelay.Proofs.Relay.Custody
import Mathlib.Data.List.Infix

/-! Looking: a worker in line looks for a record and after that at the signal to stop, and it can miss a
record that comes in between. -/

namespace InsightRelay.Relay

section Moves

variable {relay shared next : Relay} {task : TaskId} {before after : Stage} {action : Action}

/-- A worker ends in line when it was told to stop, and has found nothing to take before or finds
nothing now, or it breaks down. -/
theorem Move.leaves (move : Move relay task before after shared) (left : after.hasLeft = true) :
    (∃ looked, before = .inLine looked ∧ relay.mustStop task = true ∧
      (looked = false → relay.queue.take? task = none)) ∨ ∃ record, after = .lost record := by
  -- Only leaving the line without a record and breaking down lead to a stage that is the last one.
  cases move with
  | rest idle told => exact .inl ⟨_, rfl, told, idle⟩
  | crash => exact .inr ⟨_, rfl⟩
  | @refuse record errand => cases errand <;> simp [Errand.refused, Stage.hasLeft] at left
  | @place errand => cases errand <;> simp [Errand.placed, Stage.hasLeft] at left
  | @pass finishing => cases finishing <;> simp [Stage.hasLeft] at left
  | @joined finishing => cases finishing <;> simp [Stage.hasLeft] at left
  | _ => simp [Stage.hasLeft] at left

/-- Only a worker that finds nothing to take comes to stand between its two looks. -/
theorem Move.of_looked (move : Move relay task before after shared) (looked : after = .inLine true) :
    before = .inLine false := by
  cases move with
  | look => rfl
  | @refuse record errand => cases errand <;> simp [Errand.refused] at looked
  | @place errand => cases errand <;> simp [Errand.placed] at looked
  | @pass finishing => cases finishing <;> simp at looked
  | @joined finishing => cases finishing <;> simp at looked
  | _ => simp at looked

/-- A task is at the stage that it was brought to. -/
theorem eq_of_stage?_withStage {stage found : Stage}
    (there : (relay.withStage task stage).stage? task = some found) : found = stage := by
  obtain ⟨inside, same⟩ := List.getElem?_eq_some_iff.1 there
  simpa [withStage] using same.symm

/-- A worker that looks for a record and at the signal without a break is not between the two looks
afterwards. -/
theorem looked_of_take {told : List TaskId} (took : relay.take task = some (next, told)) :
    next.stage? task ≠ some (.inLine true) := by
  intro there
  unfold take at took
  split at took
  · obtain ⟨rfl, -⟩ := by simpa using took
    simpa using eq_of_stage?_withStage there
  · rw [Option.ite_none_right_eq_some, Option.some.injEq] at took
    obtain rfl : (relay.retire task).1 = next := by rw [took.2]
    simpa using eq_of_stage?_withStage there

/-- A worker in line goes on or looks for a record only. -/
theorem action_of_inLine {looked : Bool} (at_ : relay.stage? task = some (.inLine looked))
    (acts : action.task? = some task) (stepped : relay.step action = some next) :
    action = .advance task ∨ action = .look task := by
  rcases Action.eq_of_task? acts with same | same | ⟨order, rfl⟩ | ⟨reply, rfl⟩
  · exact .inl same
  · exact .inr same
  -- A worker collects no sessions, and one in line waits for no reply.
  · simp [step, collect, at_] at stepped
  · simp [step, answer, call?, at_, Stage.call?] at stepped

/-- A worker comes to stand between its two looks only when it looks for a record only. -/
theorem eq_look (at_ : relay.stage? task = some (.inLine false)) (acts : action.task? = some task)
    (stepped : relay.step action = some next) (looks : next.stage? task = some (.inLine true)) :
    action = .look task := by
  refine (action_of_inLine at_ acts stepped).resolve_left ?_
  rintro rfl
  obtain ⟨⟨_, told⟩, advanced, rfl⟩ := Option.map_eq_some_iff.1 stepped
  exact looked_of_take (by simpa [advance, at_] using advanced) looks

/-- A worker between its two looks can do nothing but look at the signal. -/
theorem eq_advance (at_ : relay.stage? task = some (.inLine true)) (acts : action.task? = some task)
    (stepped : relay.step action = some next) : action = .advance task := by
  refine (action_of_inLine at_ acts stepped).resolve_right ?_
  rintro rfl
  simp [step, look, at_] at stepped

end Moves

/-- No worker is between its two looks. -/
def Attentive (relay : Relay) : Prop :=
  ∀ task, relay.stage? task ≠ some (.inLine true)

/-- While all workers look for records and at the signal without a break, none is between the two. -/
theorem Attentive.run {relay later : Relay} {more : List Action} (attentive : Attentive relay)
    (ran : relay.run more = some later) (unbroken : ∀ worker, .look worker ∉ more) :
    Attentive later := by
  refine run_induction (fun more later => (∀ worker, .look worker ∉ more) → Attentive later)
    (fun _ => attentive) ?arrive ?register ?move ran unbroken
  case arrive =>
    intro past later demand _ ih unbroken
    have earlier := ih fun worker member => unbroken worker (List.mem_append_left _ member)
    have all : ∀ task stage, (later.arrive demand).1.stage? task = some stage → stage ≠ .inLine true :=
      stages_arrive (fun task stage at_ same => earlier task (same ▸ at_))
        (demand.stage_ne_of_worker later.config rfl)
    exact fun task there => all task _ there rfl
  case register =>
    exact fun past later key session _ ih unbroken =>
      ih fun worker member => unbroken worker (List.mem_append_left _ member)
  case move =>
    intro past later action task before after shared _ ih acts at_ move stepped unbroken other there
    have earlier := ih fun worker member => unbroken worker (List.mem_append_left _ member)
    rw [move.stage? at_] at there
    split at there
    · -- Whoever comes to stand there has looked for a record only.
      obtain rfl := Option.some.inj there
      obtain rfl := move.of_looked rfl
      have looked := eq_look at_ acts stepped (by rw [move.stage? at_, if_pos rfl])
      exact unbroken task (by simp [looked])
    · exact earlier other there

/-- The last of the workers is about to end although a record is at hand for it, which was not so when
it looked for one. -/
structure Misses (crew : List TaskId) (relay : Relay) (worker : TaskId) : Prop where
  looked : relay.stage? worker = some (.inLine true)
  told : relay.mustStop worker = true
  atHand : (relay.queue.take? worker).isSome = true
  last : ∀ other ∈ crew, other ≠ worker → relay.HasLeft other

/-- In a run the last of the workers ends although a record is at hand for it. -/
def Overlooks (crew : List TaskId) (relay : Relay) (more : List Action) : Prop :=
  ∃ past moment worker, past ++ [.advance worker] <+: more ∧ relay.run past = some moment ∧
    Misses crew moment worker

/-- What was overlooked in a run was overlooked in every longer one. -/
theorem Overlooks.mono {crew : List TaskId} {relay : Relay} {more further : List Action}
    (overlooks : Overlooks crew relay more) (longer : more <+: further) :
    Overlooks crew relay further := by
  obtain ⟨past, moment, worker, ends, ran, misses⟩ := overlooks
  exact ⟨past, moment, worker, ends.trans longer, ran, misses⟩

/-- Workers that look for records and at the signal without a break overlook nothing. -/
theorem Attentive.not_overlooks {crew : List TaskId} {relay : Relay} {more : List Action}
    (attentive : Attentive relay) (unbroken : ∀ worker, .look worker ∉ more) :
    ¬Overlooks crew relay more := by
  rintro ⟨past, moment, worker, ends, ran, misses⟩
  have earlier : past <+: more := (List.prefix_append ..).trans ends
  exact attentive.run ran (fun worker member => unbroken worker (earlier.subset member)) worker
    misses.looked

end InsightRelay.Relay
