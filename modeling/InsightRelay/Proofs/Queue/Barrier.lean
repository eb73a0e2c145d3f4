import InsightRelay.Proofs.Queue.Conservation

/-! What keeps those waiting that wait until no record is pending. -/

namespace InsightRelay.Queue.Usage

variable {α : Type} {usage : Usage α} {happenings : List (Happening α)} {capacity : Nat}

/-- At no moment have more records been resolved than taken. -/
def ResolvesDelivered (start : Usage α) (happenings : List (Happening α)) : Prop :=
  start.Always (fun past usage => usage.queue.resolved ≤ (start.delivered past).length) happenings

instance (start : Usage α) (happenings : List (Happening α)) :
    Decidable (start.ResolvesDelivered happenings) :=
  inferInstanceAs (Decidable (Always ..))

/-- The accepted records whose submitters gave up while they waited. -/
def forsaken (start : Usage α) (happenings : List (Happening α)) : List (Ticket × α) :=
  (start.accepted happenings).filter fun entry => entry.1 ∈ start.abandoned happenings

/-- An accepted record was kept or forsaken. -/
theorem length_accepted (start : Usage α) (happenings : List (Happening α)) :
    (start.accepted happenings).length =
      (start.kept happenings).length + (start.forsaken happenings).length := by
  -- To keep and to forsake are opposite conditions on the same list.
  have parts := List.length_eq_length_filter_add (l := start.accepted happenings)
    fun entry => decide (entry.1 ∈ start.abandoned happenings)
  simpa only [kept, forsaken, decide_not, Nat.add_comm] using parts

/-- A record that was kept has been taken, is stored, or is still brought by its submitter. -/
theorem Held.length_kept {start : Usage α} (held : Held start happenings usage) :
    (start.kept happenings).length = (start.delivered happenings).length +
      usage.queue.buffer.length + usage.queue.submitters.length := by
  -- The places that were given are those taken away and those still in the buffer.
  have places := congrArg List.length held.places
  have records := held.records.length_eq
  simp only [List.length_append, List.length_map] at places records
  omega

/-- Whoever resolves only what was taken resolves only what was accepted. -/
theorem ResolvesDelivered.accepted
    (resolves : (fresh (.empty capacity)).ResolvesDelivered happenings) :
    (fresh (.empty capacity)).ResolvesAccepted happenings := by
  intro past member before ran
  -- What was taken was kept, and what was kept was accepted.
  have fewer := resolves past member before ran
  have counted := submitted_of_run ran
  have kept := (held_of_run ran).length_kept
  have accepted := length_accepted (fresh (.empty capacity)) past
  omega

/-- Once every record that was taken is resolved and none is on its way, the records that are still
pending are those whose submitters gave up while they waited. Whoever waits for the last record goes
on if and only if there are none of these. -/
theorem pending_eq_forsaken {queue : Queue α} (made : Queue.create? capacity = some queue)
    (ran : (fresh queue).run happenings = some usage)
    (resolves : (fresh queue).ResolvesDelivered happenings)
    (nobody : usage.queue.submitters = []) (nothing : usage.queue.buffer = [])
    (done : usage.queue.resolved = ((fresh queue).delivered happenings).length) :
    usage.queue.pending = ((fresh queue).forsaken happenings).length ∧
      ∀ ticket ∈ usage.queue.barriers, (usage.queue.pass? ticket).isSome = true ↔
        (fresh queue).forsaken happenings = [] := by
  obtain ⟨-, rfl⟩ := create?_eq_some_iff.1 made
  have balanced := balanced_of_run resolves.accepted ran
  have kept := (held_of_run ran).length_kept
  have accepted := length_accepted (fresh (.empty capacity)) happenings
  -- All that was kept is resolved, so what is left of the accepted records is what was forsaken.
  rw [submitted_of_run ran, done] at balanced
  rw [nobody, nothing] at kept
  have pending : usage.queue.pending = ((fresh (.empty capacity)).forsaken happenings).length := by
    simp only [List.length_nil] at kept
    omega
  -- A barrier looks at nothing but the number that is pending.
  refine ⟨pending, fun ticket waits => ?_⟩
  simp [pass?, pending, waits]

/-- A run in which a submitter gives up while it waits, and all else is taken and resolved. -/
def leakage : List (Happening Nat) :=
  [.ask (.submit 10), .ask (.submit 11), .poll 0, .ask (.cancel 1), .ask .next, .poll 3,
    .ask (.resolve .published), .ask .waitDrained]

/-- In the run where a submitter gives up, its record stays pending. -/
theorem pending_eq_forsaken_in_leakage : ∃ queue usage,
    Queue.create? 1 = some queue ∧ (fresh queue).run leakage = some usage ∧
      (fresh queue).ResolvesDelivered leakage ∧ usage.queue.submitters = [] ∧
      usage.queue.buffer = [] ∧ usage.queue.resolved = ((fresh queue).delivered leakage).length ∧
      usage.queue.pending = ((fresh queue).forsaken leakage).length ∧
      (fresh queue).forsaken leakage = [(1, 11)] ∧ usage.queue.pass? 5 = none := by
  -- Each equation is read off the finished run, apart from the balance, which the general theorem gives.
  have made : Queue.create? 1 = some (.empty 1 : Queue Nat) := rfl
  exact ⟨_, _, made, rfl, by decide, rfl, rfl, rfl,
    (pending_eq_forsaken made rfl (by decide) rfl rfl rfl).1, rfl, rfl⟩

/-- Records that nobody will ever take can keep those waiting that wait for the last record. -/
theorem barrier_leaks : ¬ ∀ (capacity : Nat) (queue : Queue Nat) (happenings : List (Happening Nat))
    (usage : Usage Nat), Queue.create? capacity = some queue →
      (fresh queue).run happenings = some usage → (fresh queue).ResolvesDelivered happenings →
      usage.queue.submitters = [] → usage.queue.buffer = [] →
      usage.queue.resolved = ((fresh queue).delivered happenings).length →
        usage.queue.pending = 0 ∧
          ∀ ticket ∈ usage.queue.barriers, (usage.queue.pass? ticket).isSome = true := by
  -- The run above meets every premise, and one record is still pending at its end.
  intro promised
  have drained := (promised 1 _ leakage _ rfl rfl (by decide) rfl rfl rfl).1
  exact absurd drained (by decide)

end InsightRelay.Queue.Usage
