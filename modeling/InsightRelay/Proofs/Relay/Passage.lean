import InsightRelay.Proofs.Relay.Reference
import InsightRelay.Proofs.Relay.Sessions
import InsightRelay.Proofs.Relay.Turns

/-! Passages: what a move does to the order of records and of sessions, while callers come in turn.

Each record and each manifest is with the one caller at work until the move that hands it on. -/

namespace InsightRelay

/-- The sources that a demand brings. -/
def Demand.sources : Demand → List Source
  | bring source => [source]
  | _ => []

/-- The records that a caller at a stage has still to put in line. -/
def Stage.unlined : Stage → List PackageRecord
  | offering record errand => record :: errand.upcoming
  | counted record errand => record :: errand.upcoming
  | placing errand => errand.upcoming
  | queueing batch => batch.remaining.filterMap Except.toOption
  | _ => []

/-- The source that a caller at a stage needs a session for before all else. -/
def Stage.awaiting : Stage → List Source
  | arriving source => [source]
  | atDesk source => [source]
  | checking source => [source]
  | opening source _ => [source]
  | _ => []

/-- The request for a session that a caller at a stage waits for. -/
def Stage.asking : Stage → List Message.CreateToolSessionRequest
  | opening _ request => [request]
  | _ => []

@[simp] theorem unlined_placed (errand : Errand) : errand.placed.unlined = errand.upcoming := by
  cases errand <;> rfl

@[simp] theorem unlined_placing (errand : Errand) :
    (Stage.placing errand).unlined = errand.upcoming := rfl

@[simp] theorem awaiting_placed (errand : Errand) : errand.placed.awaiting = [] := by
  cases errand <;> rfl

@[simp] theorem asking_placed (errand : Errand) : errand.placed.asking = [] := by
  cases errand <;> rfl

/-- Whoever has records to put in line is a caller at work. -/
theorem unlined_of_idle {stage : Stage} (idle : stage.isActive = false) : stage.unlined = [] := by
  -- A stage with records is that of a caller without an answer, so it is not idle.
  cases stage with
  | offering record errand | counted record errand | placing errand =>
    cases errand <;> simp [Stage.isActive, Stage.role, Errand.role, Stage.ending?] at idle
  | queueing batch => simp [Stage.isActive, Stage.role, Stage.ending?] at idle
  | _ => rfl

/-- Whoever needs a session is a caller at work. -/
theorem awaiting_of_idle {stage : Stage} (idle : stage.isActive = false) : stage.awaiting = [] := by
  cases stage with
  | arriving | atDesk | checking | opening =>
    simp [Stage.isActive, Stage.role, Stage.ending?] at idle
  | _ => rfl

/-- Whoever asks for a session is a caller at work. -/
theorem asking_of_idle {stage : Stage} (idle : stage.isActive = false) : stage.asking = [] := by
  cases stage with
  | opening => simp [Stage.isActive, Stage.role, Stage.ending?] at idle
  | _ => rfl

/-- A caller that has just arrived asks for no session yet. -/
theorem asking_of_new (demand : Demand) (config : Config) : (demand.stage config).asking = [] := by
  cases demand with
  | bring source => cases mode : config.multiProject <;> simp [Demand.stage, mode] <;> rfl
  | _ => rfl

namespace Relay

/-- What all tasks have of something, in the order of their names. -/
def across {α : Type} (relay : Relay) (part : Stage → List α) : List α :=
  relay.tasks.flatMap part

/-- The requests for sessions that have been replied to. -/
def created (relay : Relay) : List Message.CreateToolSessionRequest :=
  relay.journal.filterMap Exchange.creation?

/-- The request for a session that a call makes. -/
def creationOf (entry : TaskId × Call) : Option Message.CreateToolSessionRequest :=
  match entry.2 with
  | .create request => some request
  | _ => none

section Across

variable {α : Type} {part : Stage → List α} {relay shared : Relay} {task : TaskId}
  {before after : Stage}

private theorem flatMap_set {stages : List Stage} {position : Nat} (part : Stage → List α)
    (there : stages[position]? = some before) (same : part after = part before) :
    (stages.set position after).flatMap part = stages.flatMap part := by
  -- The list is walked along up to the stage that changes.
  induction stages generalizing position with
  | nil => simp at there
  | cons first rest ih =>
    cases position with
    | zero =>
      obtain rfl : first = before := by simpa using there
      simp [same]
    | succ position =>
      rw [List.set_cons_succ, List.flatMap_cons, List.flatMap_cons, ih (by simpa using there)]

/-- A move that keeps the part of its own task keeps that of all. -/
theorem across_same (move : Move relay task before after shared)
    (at_ : relay.stage? task = some before) (same : part after = part before) :
    (shared.withStage task after).across part = relay.across part := by
  simp only [across, withStage, move.tasks]
  exact flatMap_set part at_ same

private theorem flatMap_alone {stages : List Stage} {position : Nat}
    (there : stages[position]? = some before)
    (others : ∀ other stage, stages[other]? = some stage → other ≠ position → part stage = []) :
    stages.flatMap part = part before := by
  -- Before the stage and behind it there are only stages without a part.
  induction stages generalizing position with
  | nil => simp at there
  | cons first rest ih =>
    cases position with
    | zero =>
      obtain rfl : first = before := by simpa using there
      have empty : rest.flatMap part = [] := by
        refine List.flatMap_eq_nil_iff.2 fun stage member => ?_
        obtain ⟨other, at_⟩ := List.mem_iff_getElem?.1 member
        exact others (other + 1) stage (by simpa using at_) (by simp)
      rw [List.flatMap_cons, empty, List.append_nil]
    | succ position =>
      have empty := others 0 first (by simp) (by simp)
      rw [List.flatMap_cons, empty, List.nil_append]
      refine ih (by simpa using there) fun other stage at_ differ => ?_
      exact others (other + 1) stage (by simpa using at_) (by simpa using differ)

/-- What only one task has a part of, that task has all of. -/
theorem across_alone (at_ : relay.stage? task = some before)
    (others : ∀ other stage, relay.stage? other = some stage → other ≠ task → part stage = []) :
    relay.across part = part before :=
  flatMap_alone at_ others

/-- Where only callers at work have a part, the one that moves has all of it. -/
theorem across_caller (orderly : Orderly relay) (at_ : relay.stage? task = some before)
    (active : before.isActive = true) (idle : ∀ {stage}, stage.isActive = false → part stage = []) :
    relay.across part = part before := by
  -- Only one caller is at work, so no other stage has a part.
  refine across_alone at_ fun other stage there differ => idle (Bool.eq_false_iff.2 fun too => ?_)
  exact differ (orderly.unique at_ active there too)

/-- After its move such a caller has all of it again. -/
theorem across_moved (orderly : Orderly relay) (at_ : relay.stage? task = some before)
    (active : before.isActive = true) (move : Move relay task before after shared)
    (idle : ∀ {stage}, stage.isActive = false → part stage = []) :
    (shared.withStage task after).across part = part after := by
  have own : (shared.withStage task after).stage? task = some after := by
    rw [move.stage? at_, if_pos rfl]
  refine across_alone own fun other stage there differ => idle (Bool.eq_false_iff.2 fun too => ?_)
  -- The others stay where they were, and none of them was at work.
  rw [move.stage? at_, if_neg differ] at there
  exact differ (orderly.unique at_ active there too)

/-- An arrival adds the part of its own stage. -/
theorem across_arrive (relay : Relay) (demand : Demand) (part : Stage → List α) :
    (relay.arrive demand).1.across part =
      relay.across part ++ part (demand.stage relay.config) := by
  simp [across, tasks_arrive]

end Across

/-- What a move does to the order of records and of sessions, while callers come in turn. -/
inductive Passage (relay shared : Relay) (task : TaskId) : Stage → Stage → Prop
  /-- The move is about neither records in the queue nor sessions. -/
  | still {before after : Stage} (unlined : after.unlined = before.unlined)
      (awaiting : after.awaiting = before.awaiting) (asking : after.asking = before.asking)
      (undispatched : relay.seeDispatched task before after = [])
      (uncalled : (relay.seeCall task before after).filterMap creationOf = [])
      (buffer : shared.queue.buffer = relay.queue.buffer)
      (submitters : shared.queue.submitters = relay.queue.submitters)
      (registry : shared.registry = relay.registry) (created : shared.created = relay.created) :
      Passage relay shared task before after
  | line {record : PackageRecord} {errand : Errand}
      (queue : shared = { relay with queue := relay.queue.joinSubmitters task record }) :
      Passage relay shared task (.counted record errand) (.placing errand)
  | place {record : PackageRecord} {errand : Errand}
      (member : (task, record) ∈ relay.queue.submitters)
      (queue : shared = { relay with queue := { relay.queue with
        buffer := relay.queue.buffer ++ [record]
        submitters := relay.queue.submitters.filter fun entry => entry.1 != task } }) :
      Passage relay shared task (.placing errand) errand.placed
  | take {looked : Bool} {record : PackageRecord} {takers : List Ticket} {buffer : List PackageRecord}
      (front : relay.queue.buffer = record :: buffer)
      (queue : shared = { relay with queue := { relay.queue with
        takers := takers, buffer := buffer } }) :
      Passage relay shared task (.inLine looked) (.dispatching record)
  | known {source : Source} (served : relay.registry.contains source.origin.path = true)
      (left : shared = { relay with desk := relay.desk.drop 1 }) :
      Passage relay shared task (.checking source) (.queueing source.batch)
  | ask {source : Source} {request : Message.CreateToolSessionRequest} (same : shared = relay) :
      Passage relay shared task (.checking source) (.opening source request)
  | opened {source : Source} {request : Message.CreateToolSessionRequest} {session : String}
      {events : List Event}
      (added : shared = { relay with
        registry := (relay.registry.add source.origin.path ⟨session, ()⟩).1
        desk := relay.desk.drop 1
        journal := relay.journal ++ [⟨some task, .create request, .granted session⟩]
        events := events }) :
      Passage relay shared task (.opening source request) (.queueing source.batch)

/-- With an open queue and a service that opens sessions, every move is one of these. -/
theorem Move.passage {relay shared : Relay} {task : TaskId} {before after : Stage}
    {conduct : Conduct} (move : Move relay task before after shared)
    (absent : ∀ looked, before = .inLine looked → ∀ entry ∈ relay.queue.submitters, entry.1 ≠ task)
    (open_ : before.role = .bringer → relay.queue.closed = false)
    (brings : before.role ≠ .submitter)
    (askable : ∀ project, ∃ request, relay.config.sessionRequest project = .ok request)
    (explains : conduct.Explains shared.journal) : Passage relay shared task before after := by
  cases move with
  | line => exact .line rfl
  | place placed =>
    obtain ⟨record, member, rfl⟩ := Queue.eq_of_place? placed
    exact .place member rfl
  | take taken =>
    obtain ⟨takers, buffer, -, front, rfl⟩ := Queue.eq_of_take? taken
    exact .take front rfl
  | known served => exact .known served rfl
  | ask => exact .ask rfl
  | opened => exact .opened rfl
  | @refuse record errand closed =>
    -- Nothing is refused, as whoever brings records finds the queue open.
    cases errand with
    | single => exact absurd rfl brings
    | batch records => simp [open_ rfl] at closed
  | shut first closed => simp [open_ rfl] at closed
  | unasked refused =>
    -- The configuration was checked before the relay began.
    obtain ⟨request, written⟩ := askable _
    cases written.symm.trans refused
  | unopened problem =>
    -- The service opens whatever session it is asked for.
    have allowed := explains.last
    simp [Conduct.allows] at allowed
  | rest =>
    -- A worker that leaves its line was not in that of the submitters.
    exact .still rfl rfl rfl rfl rfl rfl (Queue.submitters_leave (absent _ rfl)) rfl rfl
  | @pass finishing queue passed =>
    obtain ⟨-, rfl⟩ := Queue.eq_of_pass? passed
    cases finishing <;> exact .still rfl rfl rfl rfl rfl rfl rfl rfl rfl
  | @joined finishing => cases finishing <;> exact .still rfl rfl rfl rfl rfl rfl rfl rfl rfl
  | published | rejected | crash | completed | incomplete =>
    -- These replies are about other calls than the opening of a session.
    exact .still rfl rfl rfl rfl rfl rfl rfl rfl (by simp [created, Exchange.creation?])
  | _ => exact .still rfl rfl rfl rfl rfl rfl rfl rfl rfl

end Relay

end InsightRelay
