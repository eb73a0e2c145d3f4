import InsightRelay.Proofs.Relay.Lines
import InsightRelay.Proofs.Relay.Routing

/-! Approaches: callers come to the session desk one after the other, and they leave it in the same order.

So whatever session was opened before, it was opened for one that is gone. -/

namespace InsightRelay

/-- A caller that comes to the session desk, with the path for which it may need a session. -/
structure Approach where
  caller : TaskId
  path : Option String
deriving DecidableEq

namespace Relay

/-- A caller joins the line before the session desk. -/
def seeApproach (_ : Relay) (task : TaskId) (before _ : Stage) : List Approach :=
  match before with
  | .arriving source => [⟨task, some source.origin.path⟩]
  | .collecting => [⟨task, none⟩]
  | _ => []

/-- Those that come to the session desk during a run, in their order. -/
def approaches (start : Relay) (actions : List Action) : List Approach :=
  start.watch seeApproach actions

/-- The first that comes to the session desk for a path. -/
def first? (start : Relay) (actions : List Action) (path : String) : Option TaskId :=
  ((start.approaches actions).find? fun approach => approach.path == some path).map Approach.caller

/-- What a move has to do with the line before the session desk. -/
inductive Attends (relay shared : Relay) (task : TaskId) (before after : Stage) :
    List Landmark → List Approach → Prop
  | aside {marks : List Landmark} (desk : shared.desk = relay.desk)
    (awaiting : after.awaiting = before.awaiting) (opens : marks.filterMap Landmark.session? = []) :
    Attends relay shared task before after marks []
  | come {approach : Approach} (own : approach.caller = task) (desk : shared.desk = relay.desk ++ [task])
    (awaiting : after.awaiting = before.awaiting)
    (wants : ∀ source ∈ after.awaiting, approach.path = some source.origin.path) :
    Attends relay shared task before after [] [approach]
  | leave {marks : List Landmark} (first : relay.desk.head? = some task)
    (desk : shared.desk = relay.desk.drop 1) (served : after.awaiting = [])
    (opens : ∀ path session, .opened path session ∈ marks →
      ∃ source ∈ before.awaiting, path = source.origin.path) :
    Attends relay shared task before after marks []

/-- Every move has one of these parts in the line. -/
theorem Move.attends {relay shared : Relay} {task : TaskId} {before after : Stage}
    (move : Move relay task before after shared) (attended : Attended relay)
    (at_ : relay.stage? task = some before) :
    Attends relay shared task before after (relay.passed shared task before after)
      (relay.seeApproach task before after) := by
  -- One leaves the desk with a session or without, and all others keep what they wait for.
  cases move with
  | @approach source =>
    exact .come rfl rfl rfl fun other awaits => congrArg (fun source : Source =>
      some source.origin.path) (List.mem_singleton.1 awaits).symm
  | gather => exact .come rfl rfl rfl fun source awaits => absurd awaits List.not_mem_nil
  | shut first => exact .leave first rfl rfl fun path session opens => absurd opens List.not_mem_nil
  | collect first =>
    exact .leave first rfl rfl fun path session opens => absurd opens List.not_mem_nil
  | known | unasked =>
    exact .leave (attended task _ at_ rfl) rfl rfl
      fun path session opens => absurd opens List.not_mem_nil
  | opened | unopened =>
    refine .leave (attended task _ at_ rfl) rfl rfl fun path session opens => ?_
    -- What was opened is for the one source that was waited for.
    simp only [passed, List.mem_map, Landmark.opened.injEq] at opens
    obtain ⟨_, -, rfl, -⟩ := opens
    exact ⟨_, List.mem_singleton_self _, rfl⟩
  | @refuse record errand => cases errand <;> exact .aside rfl rfl rfl
  | @place errand => cases errand <;> exact .aside rfl rfl rfl
  | @pass finishing => cases finishing <;> exact .aside rfl rfl rfl
  | @joined finishing => cases finishing <;> exact .aside rfl rfl rfl
  | _ => exact .aside rfl rfl rfl

/-- Those that are gone wait for no session, and those that stand in line come behind them. -/
structure Attendance (gone waiting : List Approach) (marks : List Landmark) (relay : Relay) : Prop where
  desk : waiting.map Approach.caller = relay.desk
  left : ∀ approach ∈ gone, ∃ stage, relay.stage? approach.caller = some stage ∧ stage.awaiting = []
  wants : ∀ approach ∈ waiting, ∃ stage, relay.stage? approach.caller = some stage ∧
    ∀ source ∈ stage.awaiting, approach.path = some source.origin.path
  /-- Sessions were opened only for those that are gone. -/
  opened : ∀ path session, .opened path session ∈ marks → some path ∈ gone.map Approach.path

section Moves

variable {gone waiting : List Approach} {marks more : List Landmark} {approaches : List Approach}
  {relay shared : Relay} {task : TaskId} {before after : Stage}

/-- A move that leaves the mover to wait as before leaves everybody so. -/
private theorem stage_same (at_ : relay.stage? task = some before)
    (move : Move relay task before after shared) (awaiting : after.awaiting = before.awaiting)
    {caller : TaskId} {stage : Stage} (there : relay.stage? caller = some stage) :
    ∃ stage', (shared.withStage task after).stage? caller = some stage' ∧
      stage'.awaiting = stage.awaiting := by
  -- Everybody but the mover stays at its stage.
  rw [move.stage? at_]
  by_cases same : caller = task
  · obtain rfl : before = stage := by simpa [same, at_] using there
    exact ⟨after, if_pos same, awaiting⟩
  · exact ⟨stage, by rw [if_neg same, there], rfl⟩

/-- Where nobody waits otherwise than before, those that are gone and those in line do so, too. -/
private theorem Attendance.waits_same (attendance : Attendance gone waiting marks relay)
    (at_ : relay.stage? task = some before) (move : Move relay task before after shared)
    (awaiting : after.awaiting = before.awaiting) :
    (∀ approach ∈ gone, ∃ stage, (shared.withStage task after).stage? approach.caller = some stage ∧
      stage.awaiting = []) ∧
    ∀ approach ∈ waiting, ∃ stage,
      (shared.withStage task after).stage? approach.caller = some stage ∧
        ∀ source ∈ stage.awaiting, approach.path = some source.origin.path := by
  -- Either part keeps its witnesses: each stage that was there waits as it did.
  constructor
  · intro approach member
    obtain ⟨stage, there, none_⟩ := attendance.left approach member
    obtain ⟨stage', now, kept⟩ := stage_same at_ move awaiting there
    exact ⟨stage', now, kept.trans none_⟩
  · intro approach member
    obtain ⟨stage, there, path⟩ := attendance.wants approach member
    obtain ⟨stage', now, kept⟩ := stage_same at_ move awaiting there
    exact ⟨stage', now, kept ▸ path⟩

/-- The first in line goes over to those that are gone, and a session may be opened for it. -/
private theorem Attendance.leave {approach : Approach}
    (attendance : Attendance gone (approach :: waiting) marks relay)
    (at_ : relay.stage? approach.caller = some before)
    (move : Move relay approach.caller before after shared)
    (desk : shared.desk = relay.desk.drop 1) (served : after.awaiting = [])
    (opens : ∀ path session, .opened path session ∈ more →
      ∃ source ∈ before.awaiting, path = source.origin.path)
    (once : relay.desk.Nodup) :
    Attendance (gone ++ [approach]) waiting (marks ++ more)
      (shared.withStage approach.caller after) where
  desk := by simp [withStage, desk, ← attendance.desk]
  left := by
    intro other member
    -- The one that leaves is served now, and those that left before it have been.
    by_cases mover : other.caller = approach.caller
    · exact ⟨after, by rw [move.stage? at_, if_pos mover], served⟩
    · have earlier : other ∈ gone := by
        rcases List.mem_append.1 member with earlier | last
        · exact earlier
        · exact absurd (congrArg Approach.caller (List.mem_singleton.1 last)) mover
      obtain ⟨stage, there, none_⟩ := attendance.left other earlier
      exact ⟨stage, by rw [move.stage? at_, if_neg mover, there], none_⟩
  wants := by
    intro other member
    -- Nobody stands in line twice, so the others in line are not the one that leaves.
    have differ : other.caller ≠ approach.caller := fun twice => by
      rw [← attendance.desk, List.map_cons, List.nodup_cons] at once
      exact once.1 (twice ▸ List.mem_map_of_mem member)
    obtain ⟨stage, there, wanted⟩ := attendance.wants other (List.mem_cons_of_mem _ member)
    exact ⟨stage, by rw [move.stage? at_, if_neg differ, there], wanted⟩
  opened := by
    intro path session member
    rw [List.map_append, List.mem_append]
    rcases List.mem_append.1 member with earlier | now
    · exact .inl (attendance.opened path session earlier)
    · -- A session is opened for the one that leaves.
      obtain ⟨source, awaits, rfl⟩ := opens path session now
      obtain ⟨stage, there, wanted⟩ := attendance.wants approach List.mem_cons_self
      obtain rfl : before = stage := by simpa [at_] using there
      exact .inr (by simp [wanted source awaits])

/-- Whatever move is made, those that are gone and those in line stay apart. -/
theorem Attendance.move (attendance : Attendance gone waiting marks relay)
    (at_ : relay.stage? task = some before) (move : Move relay task before after shared)
    (attends : Attends relay shared task before after more approaches) (once : relay.desk.Nodup) :
    ∃ gone' waiting', gone ++ waiting ++ approaches = gone' ++ waiting' ∧
      Attendance gone' waiting' (marks ++ more) (shared.withStage task after) := by
  cases attends with
  | aside same awaiting opens =>
    obtain ⟨left, wants⟩ := attendance.waits_same at_ move awaiting
    refine ⟨gone, waiting, List.append_nil _, attendance.desk.trans same.symm, left, wants, ?_⟩
    intro path session member
    rcases List.mem_append.1 member with earlier | now
    · exact attendance.opened path session earlier
    · -- A move made aside opens nothing.
      have found := List.filterMap_eq_nil_iff.1 opens _ now
      simp [Landmark.session?] at found
  | @come approach own same awaiting path =>
    obtain ⟨left, wants⟩ := attendance.waits_same at_ move awaiting
    refine ⟨gone, waiting ++ [approach], List.append_assoc .., ?_, left, ?_,
      by simpa using attendance.opened⟩
    · simp [withStage, same, attendance.desk, own]
    · intro other member
      rcases List.mem_append.1 member with earlier | last
      · exact wants other earlier
      · -- The newcomer in line is the mover, and it comes for what it waits for.
        obtain rfl := List.mem_singleton.1 last
        exact ⟨after, by rw [move.stage? at_, if_pos own], path⟩
  | leave first same served opens =>
    have desk := attendance.desk
    obtain ⟨approach, rest, rfl⟩ : ∃ approach rest, waiting = approach :: rest := by
      cases waiting with
      | nil => simp [← desk] at first
      | cons approach rest => exact ⟨approach, rest, rfl⟩
    obtain rfl : approach.caller = task := by simpa [← desk] using first
    exact ⟨gone ++ [approach], rest, by simp, attendance.leave at_ move same served opens once⟩

end Moves

section Runs

variable {config : Config} {start relay : Relay} {actions : List Action}

/-- After every run those that came to the desk are gone or, behind these, stand in line. -/
theorem attendance_of_run (fresh : Fresh config start) (ran : start.run actions = some relay)
    (whole : WholeDemands actions) : ∃ gone waiting, start.approaches actions = gone ++ waiting ∧
      Attendance gone waiting (start.landmarks actions) relay := by
  -- Newcomers stay away from the desk, so only moves change who is gone and who is in line.
  refine run_induction (fun actions relay => WholeDemands actions →
    ∃ gone waiting, start.approaches actions = gone ++ waiting ∧
      Attendance gone waiting (start.landmarks actions) relay)
    ?initial ?arrive ?register ?move ran whole
  case initial =>
    refine fun _ => ⟨[], [], rfl, fresh.desk.symm, ?_, ?_, ?_⟩ <;> simp [landmarks]
  case arrive =>
    intro past relay demand began ih whole
    obtain ⟨gone, waiting, split, attendance⟩ := ih whole.earlier
    -- Whoever has come to the desk has its stage already.
    have kept {caller : TaskId} {stage : Stage} (there : relay.stage? caller = some stage) :
        (relay.arrive demand).1.stage? caller = some stage := by
      rw [stage?_arrive, if_neg (Nat.ne_of_lt (List.getElem?_eq_some_iff.1 there).1), there]
    refine ⟨gone, waiting, ?_, ?_, ?_, ?_, ?_⟩
    · rw [approaches, watch_arrive began, ← split, approaches]
    · exact attendance.desk.trans (standing_arrive relay demand .desk).symm
    · intro approach member
      obtain ⟨stage, there, none_⟩ := attendance.left approach member
      exact ⟨stage, kept there, none_⟩
    · intro approach member
      obtain ⟨stage, there, wanted⟩ := attendance.wants approach member
      exact ⟨stage, kept there, wanted⟩
    · rw [landmarks_arrive began]
      exact attendance.opened
  case register =>
    intro past relay key session began ih whole
    obtain ⟨gone, waiting, split, attendance⟩ := ih whole.earlier
    refine ⟨gone, waiting, ?_, attendance.desk, attendance.left, attendance.wants, ?_⟩
    · rw [approaches, watch_register began, ← split, approaches]
    · rw [landmarks_register began]
      exact attendance.opened
  case move =>
    intro past relay action task before after shared began ih acts at_ move stepped whole
    obtain ⟨gone, waiting, split, attendance⟩ := ih whole.earlier
    have once := (stands_of_run fresh began whole.earlier .desk).once
    obtain ⟨gone', waiting', whole', now⟩ := attendance.move at_ move
      (move.attends (attended_of_run fresh began) at_) once
    refine ⟨gone', waiting', ?_, ?_⟩
    · rw [approaches, watch_move began acts at_ move stepped, ← approaches, split, whole']
    · rw [landmarks_move began acts at_ move stepped]
      exact now

/-- One that is at work at the desk and has come first for its path finds no session for it. -/
theorem unopened_of_first (fresh : Fresh config start) (ran : start.run actions = some relay)
    (whole : WholeDemands actions) {caller : TaskId} {stage : Stage} {source : Source}
    (at_ : relay.stage? caller = some stage) (awaits : source ∈ stage.awaiting)
    (first : ∀ other ∈ start.first? actions source.origin.path, other = caller)
    (session : String) : .opened source.origin.path session ∉ start.landmarks actions := by
  intro opened
  obtain ⟨gone, waiting, split, attendance⟩ := attendance_of_run fresh ran whole
  -- The first for the path is gone, so it waits for no session, while the caller does.
  have served : ∃ approach ∈ gone, approach.path == some source.origin.path := by
    obtain ⟨approach, member, path⟩ := List.mem_map.1 (attendance.opened _ session opened)
    exact ⟨approach, member, by simp [path]⟩
  obtain ⟨approach, found⟩ := Option.isSome_iff_exists.1 (List.find?_isSome.2 served)
  have own : approach.caller = caller := by
    refine first approach.caller ?_
    simp [first?, split, List.find?_append, found]
  obtain ⟨stage', there, none_⟩ := attendance.left approach (List.mem_of_find?_eq_some found)
  obtain rfl : stage = stage' := by simpa [own, at_] using there
  -- The first for the path is the caller itself, which is still waiting.
  simp [none_] at awaits

end Runs

end Relay

end InsightRelay
