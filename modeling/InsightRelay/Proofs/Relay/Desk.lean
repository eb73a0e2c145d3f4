import InsightRelay.Proofs.Relay.Ledger

/-! The session desk: only its first caller may open a session, and none does once the queue is closed.

A relay that is closed, drained and without a caller at work at the desk stays so whatever happens. -/

namespace InsightRelay

/-- Whether a task is a caller at the desk that may still register a session. -/
def Stage.isBusy : Stage → Bool
  | checking _ => true
  | opening .. => true
  | _ => false

namespace Relay

/-- No caller is at work at the desk. -/
def DeskFree (relay : Relay) : Prop :=
  ∀ task stage, relay.stage? task = some stage → stage.isBusy = false

/-- The queue takes no record and none is unresolved. -/
structure Drained (relay : Relay) : Prop where
  closed : relay.queue.closed = true
  pending : relay.queue.pending = 0

/-- No record is unresolved, and no call for a record or for a session can follow. -/
structure Quiet (relay : Relay) : Prop extends Drained relay where
  free : DeskFree relay

/-- Whoever is at work at the desk is the first in line there. -/
def Attended (relay : Relay) : Prop :=
  ∀ task stage, relay.stage? task = some stage → stage.isBusy = true →
    relay.desk.head? = some task

section Moves

variable {relay shared : Relay} {task : TaskId} {before after : Stage}

/-- The queue is closed by one that begins to finish, and never opened again. -/
theorem Move.lock (move : Move relay task before after shared) :
    shared.queue.closed = relay.queue.closed ∨
      before.role = .finisher ∧ shared.queue.closed = true := by
  -- Workers and callers in line change other parts of the queue; one that begins to finish closes it.
  cases move with
  | take taken =>
    obtain ⟨takers, buffer, -, -, rfl⟩ := Queue.eq_of_take? taken
    exact .inl rfl
  | place placed =>
    obtain ⟨record, -, rfl⟩ := Queue.eq_of_place? placed
    exact .inl rfl
  | pass passed =>
    obtain ⟨-, rfl⟩ := Queue.eq_of_pass? passed
    exact .inl rfl
  | begin => exact .inr ⟨rfl, rfl⟩
  | _ => exact .inl rfl

/-- A closed queue stays closed. -/
theorem Move.closed (move : Move relay task before after shared)
    (closed : relay.queue.closed = true) : shared.queue.closed = true := by
  rcases move.lock with same | ⟨-, closing⟩
  · exact same.trans closed
  · exact closing

/-- A closed queue counts no record. -/
theorem Move.unaccepted (move : Move relay task before after shared)
    (closed : relay.queue.closed = true) : relay.seeAccepted task before after = [] := by
  cases move with
  | accept open_ => simp [open_] at closed
  | @refuse record errand => cases errand <;> rfl
  | _ => rfl

/-- Work at the desk goes on, or it begins for the first in line while the queue is open. -/
theorem Move.busy (move : Move relay task before after shared) (busy : after.isBusy = true) :
    shared.desk = relay.desk ∧ (before.isBusy = true ∨
      relay.desk.head? = some task ∧ relay.queue.closed = false) := by
  -- One enters from the line only after a look at the queue.
  cases move with
  | enter first open_ => exact ⟨rfl, .inr ⟨first, open_⟩⟩
  | ask => exact ⟨rfl, .inl rfl⟩
  | @refuse record errand => cases errand <;> simp [Errand.refused, Stage.isBusy] at busy
  | @place errand => cases errand <;> simp [Errand.placed, Stage.isBusy] at busy
  | @pass finishing => cases finishing <;> simp [Stage.isBusy] at busy
  | @joined finishing => cases finishing <;> simp [Stage.isBusy] at busy
  | _ => simp [Stage.isBusy] at busy

/-- The line at the desk grows at its end, and only the first in line can leave it. -/
theorem Move.desk (attended : Attended relay) (at_ : relay.stage? task = some before)
    (move : Move relay task before after shared) :
    (∃ joining, shared.desk = relay.desk ++ joining) ∨
      (shared.desk = relay.desk.drop 1 ∧ relay.desk.head? = some task) := by
  -- Whoever leaves was at work at the desk or has just come to its turn.
  cases move with
  | approach | gather => exact .inl ⟨[task], rfl⟩
  | shut first => exact .inr ⟨rfl, first⟩
  | collect first => exact .inr ⟨rfl, first⟩
  | known | unasked | opened | unopened => exact .inr ⟨rfl, attended task _ at_ rfl⟩
  | _ => exact .inl ⟨[], (List.append_nil _).symm⟩

/-- Whatever move is made, whoever is at work at the desk is the first in line there. -/
theorem Attended.move (attended : Attended relay) (at_ : relay.stage? task = some before)
    (move : Move relay task before after shared) : Attended (shared.withStage task after) := by
  intro other stage there busy
  rw [move.stage? at_] at there
  split at there
  · next same =>
    -- The mover itself is at work, so the line is as it was.
    obtain rfl : after = stage := Option.some.inj there
    obtain ⟨desk, before_ | ⟨first, -⟩⟩ := move.busy busy
    · simpa [withStage, desk, same] using attended task before at_ before_
    · simpa [withStage, desk, same] using first
  · next differ =>
    -- Another one is at work, so the mover cannot be the first in line.
    have first := attended other stage there busy
    rcases move.desk attended at_ with ⟨joining, desk⟩ | ⟨-, mover⟩
    · simp [withStage, desk, List.head?_append, first]
    · rw [first] at mover
      exact absurd (Option.some.inj mover) differ

/-- A relay that is drained stays so. -/
theorem Drained.move (drained : Drained relay) (lined : Lined relay)
    (at_ : relay.stage? task = some before) (move : Move relay task before after shared) :
    Drained (shared.withStage task after) := by
  -- A closed queue accepts nothing, so the number of pending records can only fall.
  have pending : shared.queue.pending = _ := (lined.flow at_ move).pending
  have zero : relay.books.pending = 0 := drained.pending
  refine ⟨move.closed drained.closed, ?_⟩
  rw [move.unaccepted drained.closed, zero] at pending
  simpa [withStage] using pending

/-- A relay that is quiet stays so. -/
theorem Quiet.move (quiet : Quiet relay) (lined : Lined relay)
    (at_ : relay.stage? task = some before) (move : Move relay task before after shared) :
    Quiet (shared.withStage task after) := by
  refine ⟨quiet.toDrained.move lined at_ move, fun other stage there => ?_⟩
  rw [move.stage? at_] at there
  split at there
  · obtain rfl : after = stage := Option.some.inj there
    refine Bool.eq_false_iff.2 fun busy => ?_
    -- Nobody was at work at the desk, and with a closed queue nobody begins to be.
    rcases (move.busy busy).2 with before_ | ⟨-, open_⟩
    · simp [quiet.free task before at_] at before_
    · simp [quiet.closed] at open_
  · exact quiet.free other stage there
end Moves

/-- A caller that has just arrived is not at work at the desk. -/
theorem isBusy_stage (demand : Demand) (config : Config) :
    (demand.stage config).isBusy = false := by
  cases demand with
  | bring source => cases mode : config.multiProject <;> simp [Demand.stage, mode] <;> rfl
  | _ => rfl

/-- A relay that is drained stays so when a caller arrives. -/
theorem Drained.arrive {relay : Relay} (drained : Drained relay) (demand : Demand) :
    Drained (relay.arrive demand).1 := by
  constructor
  · rw [queue_arrive]
    exact drained.closed
  · rw [queue_arrive]
    exact drained.pending

/-- A relay that is drained stays so when a session is registered from elsewhere. -/
theorem Drained.register {relay : Relay} (drained : Drained relay) (key session : String) :
    Drained (relay.register key session) :=
  ⟨drained.closed, drained.pending⟩

/-- A relay that is quiet stays so when a caller arrives. -/
theorem Quiet.arrive {relay : Relay} (quiet : Quiet relay) (demand : Demand) :
    Quiet (relay.arrive demand).1 :=
  ⟨quiet.toDrained.arrive demand, stages_arrive quiet.free (isBusy_stage demand relay.config)⟩

/-- A relay that is quiet stays so when a session is registered from elsewhere. -/
theorem Quiet.register {relay : Relay} (quiet : Quiet relay) (key session : String) :
    Quiet (relay.register key session) :=
  ⟨quiet.toDrained.register key session, quiet.free⟩

section Runs

variable {config : Config} {start relay : Relay} {actions : List Action}

/-- After every run, whoever is at work at the desk is the first in line there. -/
theorem attended_of_run (fresh : Fresh config start) (ran : start.run actions = some relay) :
    Attended relay := by
  -- Callers arrive behind the desk, and only the first one there gets on.
  refine run_induction (fun _ relay => Attended relay) ?initial ?arrive ?register ?move ran
  case initial =>
    intro task stage at_ busy
    obtain rfl := fresh.seeking at_
    simp [Stage.isBusy] at busy
  case arrive =>
    intro past relay demand _ attended
    refine stages_arrive (fun task stage at_ busy => ?_) fun busy => ?_
    · rw [desk_arrive]
      exact attended task stage at_ busy
    · simp [isBusy_stage] at busy
  case register => exact fun past relay key session _ attended => attended
  case move =>
    exact fun past relay action task before after shared _ attended _ at_ move _ =>
      attended.move at_ move

/-- A relay that is quiet stays so, however it runs on. -/
theorem quiet_of_run {more : List Action} {last : Relay} (fresh : Fresh config start)
    (ran : start.run actions = some relay) (quiet : Quiet relay)
    (ranOn : relay.run more = some last) : Quiet last := by
  -- The induction is on what comes after, and the line is that of the whole run.
  refine run_induction (fun _ last => Quiet last) ?initial ?arrive ?register ?move ranOn
  case initial => exact quiet
  case arrive => exact fun past last demand _ quiet => quiet.arrive demand
  case register => exact fun past last key session _ quiet => quiet.register key session
  case move =>
    intro past last action task before after shared began quiet _ at_ move _
    exact quiet.move (lined_of_run fresh ((run_append ran past).trans began)) at_ move

/-- A quiet relay waits for no reply that concerns a record or the opening of a session. -/
theorem call_of_quiet (fresh : Fresh config start) (ran : start.run actions = some relay)
    (quiet : Quiet relay) {task : TaskId} {call : Call} (waits : relay.call? task = some call) :
    call.kind = .complete := by
  obtain ⟨stage, at_, calls⟩ := Option.bind_eq_some_iff.1 waits
  -- Three stages wait for a reply.
  cases stage with
  | publishing record request =>
    -- A record that is being published is pending.
    have none_ := cargo_of_pending fresh ran quiet.pending at_
    simp [Stage.cargo, Cargo.record?] at none_
  | opening source request =>
    have free := quiet.free task _ at_
    simp [Stage.isBusy] at free
  | completing session remaining failure =>
    obtain rfl : Call.complete session .success = call := by simpa [Stage.call?] using calls
    rfl
  | _ => simp [Stage.call?] at calls

end Runs

end Relay

end InsightRelay
