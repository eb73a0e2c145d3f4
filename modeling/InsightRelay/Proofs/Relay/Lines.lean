import InsightRelay.Proofs.Relay.Finish

/-! Lines: where tasks wait for each other, and that nobody waits there unknown or is left out.

A stage tells in which lines a task stands, and in each line stands exactly who is at such a
stage. -/

namespace InsightRelay

/-- Where tasks wait for each other. -/
inductive Line
  | takers
  | submitters
  | barriers
  | desk
  | finishers

/-- Whether a task at a stage stands in a line. -/
def Stage.standsIn : Stage → Line → Bool
  | inLine _, .takers => true
  | placing _, .submitters => true
  | atBarrier _, .barriers => true
  | atDesk _, .desk => true
  | checking _, .desk => true
  | opening .., .desk => true
  | atDeskToCollect, .desk => true
  | inFinishLine, .finishers => true
  -- The caller that finishes keeps its place until it has its answer.
  | stage, .finishers => stage.hasBegun
  | _, _ => false

namespace Relay

/-- Those that stand in a line, the first come first. -/
def standing (relay : Relay) : Line → List TaskId
  | .takers => relay.queue.takers
  | .submitters => relay.queue.submitters.map Prod.fst
  | .barriers => relay.queue.barriers
  | .desk => relay.desk
  | .finishers => relay.finishers

@[simp] theorem standing_withStage (relay : Relay) (task : TaskId) (stage : Stage) (line : Line) :
    (relay.withStage task stage).standing line = relay.standing line := by
  cases line <;> rfl

/-- What becomes of a line when a task moves that stood in it or not, and stands in it afterwards or
not. -/
inductive Shift (task : TaskId) (line : List TaskId) : List TaskId → Bool → Bool → Prop
  | stay {stands : Bool} : Shift task line line stands stands
  | join : Shift task line (line ++ [task]) false true
  /-- The task leaves the line wherever it stands. -/
  | quit {stood : Bool} : Shift task line (line.filter (· != task)) stood false
  /-- The task leaves the line from its front. -/
  | lead (first : line.head? = some task) : Shift task line (line.drop 1) true false

namespace Shift

variable {task : TaskId} {line next : List TaskId} {stood stands : Bool}

/-- Nobody stands twice in a line where nobody did before. -/
theorem nodup (shift : Shift task line next stood stands) (once : line.Nodup)
    (known : task ∈ line ↔ stood = true) : next.Nodup := by
  -- Only one that joins could stand in line twice, and it did not stand there before.
  cases shift with
  | stay => exact once
  | join =>
    have absent : task ∉ line := by simpa using known
    refine List.nodup_append.2 ⟨once, by simp, fun other member last single same => absent ?_⟩
    rwa [← List.mem_singleton.1 single, ← same]
  | quit => exact once.filter _
  | lead => exact once.sublist (List.drop_sublist _ _)

/-- After the move the task stands in the line if its new stage says so. -/
theorem mem_self (shift : Shift task line next stood stands) (once : line.Nodup)
    (known : task ∈ line ↔ stood = true) : task ∈ next ↔ stands = true := by
  -- One that leaves from the front was there once, so it is not found behind the front.
  cases shift with
  | stay => exact known
  | join => simp
  | quit => simp
  | lead first =>
    obtain ⟨rest, rfl⟩ := List.head?_eq_some_iff.1 first
    simpa using (List.nodup_cons.1 once).1

/-- All others stand in the line as before. -/
theorem mem_other (shift : Shift task line next stood stands) {other : TaskId}
    (differ : other ≠ task) : other ∈ next ↔ other ∈ line := by
  -- Only the mover is put into the line or taken out of it.
  cases shift with
  | stay => exact Iff.rfl
  | join => simp [differ]
  | quit => simp [differ]
  | lead first =>
    obtain ⟨rest, rfl⟩ := List.head?_eq_some_iff.1 first
    simp [differ]

end Shift

/-- In a line stands once who is at a stage that belongs there, and nobody else. -/
structure StandsIn (relay : Relay) (line : Line) : Prop where
  once : (relay.standing line).Nodup
  known : ∀ task, task ∈ relay.standing line ↔
    ∃ stage, relay.stage? task = some stage ∧ stage.standsIn line = true

/-- In each line stands who belongs there. -/
def Stands (relay : Relay) : Prop :=
  ∀ line, StandsIn relay line

section Moves

variable {relay shared : Relay} {task : TaskId} {before after : Stage}

/-- One that leaves the line of submitters leaves it with its record. -/
private theorem quit_submitters (relay : Relay) (task : TaskId) (stood : Bool) :
    Shift task (relay.standing .submitters)
      ((relay.queue.submitters.filter fun entry => entry.1 != task).map Prod.fst) stood false := by
  have left : (relay.queue.submitters.filter fun entry => entry.1 != task).map Prod.fst =
      (relay.standing .submitters).filter (· != task) := by
    rw [standing, List.filter_map]
    rfl
  exact left ▸ .quit

/-- A move leads into a line, or out of it, or does not touch it.

Only the lines outside the queue depend on who is at work there. -/
theorem Move.shift (move : Move relay task before after shared) (line : Line)
    (attended : line = .desk → Attended relay) (steered : line = .finishers → Steered relay)
    (at_ : relay.stage? task = some before) :
    Shift task (relay.standing line) (shared.standing line) (before.standsIn line)
      (after.standsIn line) := by
  -- Most moves concern one line at most; the others are left as they are.
  cases move with
  -- The lines are gone through in their order: takers, submitters, barriers, the desk, those that finish.
  | seek => cases line; exacts [.join, .stay, .stay, .stay, .stay]
  | take taken =>
    obtain ⟨takers, buffer, inLine, -, rfl⟩ := Queue.eq_of_take? taken
    cases line with
    | takers =>
      have shorter : relay.queue.takers.drop 1 = takers := by simp [inLine]
      exact shorter ▸ .lead (by simp [standing, inLine])
    | _ => exact .stay
  -- A worker that is told to stop leaves the line of takers wherever it stands in it.
  | rest =>
    cases line with
    | submitters => exact quit_submitters relay task _
    | takers | barriers => exact .quit
    | _ => exact .stay
  | @line record errand =>
    cases line with
    | submitters =>
      show Shift task _ ((relay.queue.submitters ++ [(task, record)]).map Prod.fst) false true
      rw [List.map_append]
      exact .join
    | _ => exact .stay
  | @place errand queue placed =>
    obtain ⟨record, -, rfl⟩ := Queue.eq_of_place? placed
    cases errand <;> cases line with
    | submitters => exact quit_submitters relay task _
    | _ => exact .stay
  | approach | gather => cases line; exacts [.stay, .stay, .stay, .join, .stay]
  | shut first => cases line; exacts [.stay, .stay, .stay, .lead first, .stay]
  | collect first => cases line; exacts [.stay, .stay, .stay, .lead first, .stay]
  | known | unasked | opened | unopened =>
    -- Whoever is at work at the desk is the first there.
    cases line; exacts [.stay, .stay, .stay, .lead (attended rfl task _ at_ rfl), .stay]
  | queueUp => cases line; exacts [.stay, .stay, .stay, .stay, .join]
  | late first => cases line; exacts [.stay, .stay, .stay, .stay, .lead first]
  | finish =>
    -- The one that finishes has been at the front of its line since it began.
    cases line
    case finishers => exact .lead ((steered rfl).begun task _ at_ rfl).2.1
    all_goals exact .stay
  | wait => cases line; exacts [.stay, .stay, .join, .stay, .stay]
  | @pass finishing queue passed =>
    obtain ⟨-, rfl⟩ := Queue.eq_of_pass? passed
    cases finishing <;> cases line with
    | barriers => exact .quit
    | _ => exact .stay
  | @refuse record errand => cases errand <;> cases line <;> exact .stay
  | @joined finishing => cases finishing <;> cases line <;> exact .stay
  | _ => cases line <;> exact .stay

/-- Whatever move is made, in a line stands who belongs there. -/
theorem StandsIn.move {line : Line} (stands : StandsIn relay line)
    (attended : line = .desk → Attended relay) (steered : line = .finishers → Steered relay)
    (at_ : relay.stage? task = some before) (move : Move relay task before after shared) :
    StandsIn (shared.withStage task after) line := by
  -- Only the mover can come into the line or out of it.
  have shift := move.shift line attended steered at_
  have known : task ∈ relay.standing line ↔ before.standsIn line = true := by
    rw [stands.known, at_]
    simp
  constructor
  · rw [standing_withStage]
    exact shift.nodup stands.once known
  · intro other
    rw [standing_withStage, move.stage? at_]
    split
    · -- The mover stands where its new stage says, and everybody else where they stood.
      next same =>
      rw [same, shift.mem_self stands.once known]
      simp
    · next differ => rw [shift.mem_other differ, stands.known]

end Moves

/-- A caller that has just arrived stands in no line. -/
theorem standsIn_stage (demand : Demand) (config : Config) (line : Line) :
    (demand.stage config).standsIn line = false := by
  cases demand with
  | bring source =>
    cases mode : config.multiProject <;> cases line <;> simp [Demand.stage, mode] <;> rfl
  | _ => cases line <;> rfl

/-- An arrival changes no line. -/
@[simp] theorem standing_arrive (relay : Relay) (demand : Demand) (line : Line) :
    (relay.arrive demand).1.standing line = relay.standing line := by
  cases line <;> cases demand <;> rfl

/-- A caller that arrives stands in no line. -/
theorem StandsIn.arrive {relay : Relay} {line : Line} (stands : StandsIn relay line)
    (demand : Demand) : StandsIn (relay.arrive demand).1 line := by
  -- The new caller comes behind all others, so that nobody has its number yet.
  constructor
  · rw [standing_arrive]
    exact stands.once
  · intro task
    rw [standing_arrive, stands.known, stage?_arrive]
    split
    · next same =>
      have unused : relay.stage? task = none := List.getElem?_eq_none (Nat.le_of_eq same.symm)
      simp [unused, standsIn_stage]
    · exact Iff.rfl

section Runs

variable {config : Config} {start relay : Relay} {actions : List Action}

/-- However a relay runs, in a line of its queue stands who belongs there. -/
theorem StandsIn.run {line : Line} (stands : StandsIn start line) (noDesk : line ≠ .desk)
    (noFinishers : line ≠ .finishers) (ran : start.run actions = some relay) :
    StandsIn relay line := by
  -- Who may leave such a line is told by the line itself, wherever the run starts.
  refine run_induction (fun _ relay => StandsIn relay line) stands ?arrive ?register ?move ran
  case arrive => exact fun past relay demand _ stands => stands.arrive demand
  case register => exact fun past relay key session _ stands => ⟨stands.once, stands.known⟩
  case move =>
    exact fun past relay action task before after shared _ stands _ at_ move _ =>
      stands.move (fun desk => absurd desk noDesk)
        (fun finishers => absurd finishers noFinishers) at_ move

/-- After every run, in each line stands who belongs there. -/
theorem stands_of_run (fresh : Fresh config start) (ran : start.run actions = some relay)
    (whole : WholeDemands actions) : Stands relay := by
  -- In a fresh relay all lines are empty, and no worker stands in one yet.
  refine run_induction (fun actions relay => WholeDemands actions → Stands relay)
    ?initial ?arrive ?register ?move ran whole
  case initial =>
    intro _
    have empty (line : Line) : start.standing line = [] := by
      cases line <;> simp [standing, fresh.queue, fresh.desk, fresh.finishers, Queue.empty]
    refine fun line => ⟨by simp [empty], fun task => ?_⟩
    rw [empty]
    constructor
    · intro member
      simp at member
    · rintro ⟨stage, at_, there⟩
      -- Workers that look for a record stand in no line.
      obtain rfl := fresh.seeking at_
      cases line <;> simp [Stage.standsIn, Stage.hasBegun] at there
  case arrive =>
    exact fun past relay demand _ ih whole line => (ih whole.earlier line).arrive demand
  case register =>
    intro past relay key session _ ih whole line
    exact ⟨(ih whole.earlier line).once, (ih whole.earlier line).known⟩
  case move =>
    intro past relay action task before after shared ran ih _ at_ move _ whole line
    exact (ih whole.earlier line).move (fun _ => attended_of_run fresh ran)
      (fun _ => steered_of_run fresh ran whole.earlier) at_ move

end Runs

end Relay

end InsightRelay
