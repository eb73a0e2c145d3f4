import InsightRelay.Proofs.Relay.Finish

/-! Draining: sessions are completed when everything accepted is resolved and all other calls are
answered, and then no other call is made any more. -/

namespace InsightRelay.Relay

section Calls

variable {config : Config} {start relay after : Relay} {actions : List Action}

/-- What an action shows of calls is the call that one task waits for after it. -/
theorem call_of_glimpse {action : Action} {caller : TaskId} {call : Call}
    (stepped : relay.step action = some after)
    (began : (caller, call) ∈ relay.glimpse seeCall action after) :
    ∃ before next shared, relay.stage? caller = some before ∧
      Move relay caller before next shared ∧ after = shared.withStage caller next ∧
        next.call? = some call := by
  -- Neither an arrival nor a session from elsewhere begins a call, so it is a move that does.
  rcases step_cases stepped with
    ⟨demand, rfl, -⟩ | ⟨key, session, rfl, -⟩ | ⟨task, acts, before, next, shared, at_, move, rfl⟩
  · simp [glimpse, Action.task?] at began
  · simp [glimpse, Action.task?] at began
  · simp only [glimpse, acts, at_, move.stage? at_, if_true, seeCall, List.mem_map,
      Option.mem_toList, Prod.mk.injEq, exists_eq_right_right] at began
    obtain ⟨waits, rfl⟩ := began
    exact ⟨before, next, shared, at_, move, rfl, waits⟩

/-- Only a caller that goes through the sessions completes one. -/
theorem Move.completes {shared : Relay} {task : TaskId} {before next : Stage} {session : String}
    {completion : Completion} (move : Move relay task before next shared)
    (begins : next.call? = some (.complete session completion)) :
    ∃ remaining failure, before = .closing (session :: remaining) failure := by
  -- A completion begins when the next session to close is taken up.
  cases move with
  | complete =>
    obtain ⟨rfl, -⟩ : _ ∧ _ := by simpa [Stage.call?] using begins
    exact ⟨_, _, rfl⟩
  | @refuse record errand => cases errand <;> simp [Errand.refused, Stage.call?] at begins
  | @place errand => cases errand <;> simp [Errand.placed, Stage.call?] at begins
  | @pass finishing => cases finishing <;> simp [Stage.call?] at begins
  | @joined finishing => cases finishing <;> simp [Stage.call?] at begins
  | _ => simp [Stage.call?] at begins

/-- However a quiet relay runs on, all its calls complete sessions. -/
theorem calls_of_quiet {more : List Action} {last : Relay} (fresh : Fresh config start)
    (ran : start.run actions = some relay) (quiet : Quiet relay)
    (ranOn : relay.run more = some last) : ∀ entry ∈ relay.calls more, entry.2.kind = .complete := by
  refine forall_of_watch (fun {_ _ _ task _ after shared} _ at_ move further entry begins => ?_)
    ranOn
  -- The call that begins is one that the relay waits for, and the relay is still quiet.
  simp only [seeCall, List.mem_map, Option.mem_toList] at begins
  obtain ⟨call, waits, rfl⟩ := begins
  have out : (shared.withStage task after).call? task = some call := by
    simpa [call?, move.stage? at_] using waits
  exact call_of_quiet fresh ((run_append ran _).trans further)
    (quiet_of_run fresh ran quiet further) out

end Calls

/-- Nothing is under way when a session begins to be completed, and no record or session is asked for
after that.

Records and sessions that callers bring later lead to no call. -/
theorem drained_before_completion {σ : Type} {config : Config} {service : Service σ} {state : σ}
    {start before after : Relay} {past : List Action} {action : Action} {caller : TaskId}
    {session : String} {completion : Completion}
    (launched : launch config service state = .ok start)
    (ran : start.run past = some before) (whole : WholeDemands past)
    (stepped : before.step action = some after)
    (began : (caller, .complete session completion) ∈ before.glimpse seeCall action after) :
    (before.queue.pending = 0 ∧
      ((start.accepted past).map Prod.snd).Perm ((start.resolved past).map Prod.snd) ∧
      ∀ task call, before.call? task = some call → call.kind = .complete) ∧
    ∀ more last, after.run more = some last →
      ∀ entry ∈ after.calls more, entry.2.kind = .complete := by
  have fresh := fresh_of_launch launched
  have steered := steered_of_run fresh ran whole
  -- The caller goes through the sessions, which it does only when all is quiet.
  obtain ⟨_, next, shared, at_, move, rfl, begins⟩ := call_of_glimpse stepped began
  obtain ⟨remaining, failure, rfl⟩ := move.completes begins
  have quiet := steered.closing caller _ at_ rfl
  have settled := settled_of_pending fresh ran quiet.pending
  refine ⟨⟨quiet.pending, settled.accepted.trans (settled.resolved.map Prod.snd), ?_⟩, ?_⟩
  · exact fun task call waits => call_of_quiet fresh ran quiet waits
  · -- A quiet relay stays quiet, whatever comes after this step.
    intro more last ranOn
    have later := quiet.move (lined_of_run fresh ran) at_ move
    exact calls_of_quiet fresh (run_snoc.2 ⟨before, ran, stepped⟩) later ranOn

/-- In the rehearsal the second session is completed first, and everything is drained by then. -/
theorem drained_before_completion_in_rehearsal :
    ∃ start before after, launch rehearsalConfig Script.smooth.service 0 = .ok start ∧
      start.run rehearsalToDrain = some before ∧ before.step (.advance 3) = some after ∧
      (3, .complete "session-1" .success) ∈ before.glimpse seeCall (.advance 3) after ∧
      before.queue.pending = 0 ∧
      ∀ more last, after.run more = some last →
        ∀ entry ∈ after.calls more, entry.2.kind = .complete := by
  -- The rehearsal is stopped just before its first completion.
  obtain ⟨start, launched⟩ : ∃ start, launch rehearsalConfig Script.smooth.service 0 = .ok start :=
    ⟨_, rfl⟩
  obtain ⟨before, ran⟩ : ∃ before, start.run rehearsalToDrain = some before := by
    cases launched
    exact ⟨_, rfl⟩
  obtain ⟨after, stepped⟩ : ∃ after, before.step (.advance 3) = some after := by
    cases launched
    cases ran
    exact ⟨_, rfl⟩
  have began : (3, .complete "session-1" .success) ∈
      before.glimpse seeCall (.advance 3) after := by
    cases launched
    cases ran
    cases stepped
    decide
  -- The call has begun, which is all that the theorem asks for.
  have drained := drained_before_completion launched ran (by decide) stepped began
  exact ⟨start, before, after, launched, ran, stepped, began, drained.1.1, drained.2⟩

end InsightRelay.Relay
