import InsightRelay.Proofs.Queue.Overtaking

/-! A queue loses and doubles nothing, whatever is asked of it and whoever gives up, and it keeps
records in order but for submitters that own places at the same time. -/

namespace InsightRelay.Queue.Usage

variable {α : Type} {start usage next : Usage α} {past happenings : List (Happening α)}
variable {happening : Happening α} {told : List (Ticket × Outcome α)} {capacity : Nat}

/-- At no moment have more records been resolved than accepted. -/
def ResolvesAccepted (start : Usage α) (happenings : List (Happening α)) : Prop :=
  start.Always (fun _ usage => usage.queue.resolved ≤ usage.queue.submitted) happenings

instance (start : Usage α) (happenings : List (Happening α)) :
    Decidable (start.ResolvesAccepted happenings) :=
  inferInstanceAs (Decidable (Always ..))

/-- Only a record for which there is room is placed. -/
theorem Turn.stored (turn : Turn usage happening told next)
    (stored : usage.queue.buffer.length ≤ usage.queue.capacity) :
    next.queue.buffer.length ≤ next.queue.capacity := by
  cases turn with
  | place owned =>
    -- Somebody owns a place, so there is one.
    have free := List.length_pos_of_mem (mem_of_owned? owned)
    rw [List.length_take, room] at free
    simp only [List.length_append, List.length_singleton]
    omega
  | take unplaced inLine full =>
    rw [full, List.length_cons] at stored
    exact Nat.le_of_succ_le stored
  | _ => exact stored

/-- No more records are stored than the capacity allows. -/
theorem stored_of_run (ran : (fresh (.empty capacity)).run happenings = some usage) :
    usage.queue.buffer.length ≤ usage.queue.capacity :=
  run_induction (fun _ usage => usage.queue.buffer.length ≤ usage.queue.capacity)
    (Nat.zero_le _) (fun _ _ _ _ _ _ ih _ turn => turn.stored ih) ran

/-- Every accepted record is counted. -/
theorem submitted_of_run (ran : (fresh (.empty capacity)).run happenings = some usage) :
    usage.queue.submitted = ((fresh (.empty capacity)).accepted happenings).length := by
  -- Only a submission that is accepted adds to the count and to the list, one each.
  refine run_induction (fun past usage =>
    usage.queue.submitted = ((fresh (.empty capacity)).accepted past).length) rfl ?_ ran
  intro past usage happening told next began ih stepped turn
  rw [accepted_snoc began stepped, List.length_append, ← ih]
  cases turn <;> rfl

/-- A queue is closed when that was asked of it. -/
theorem closed_of_run (ran : (fresh (.empty capacity)).run happenings = some usage) :
    usage.queue.closed = true ↔ .close ∈ requests happenings := by
  -- Only the request to close closes a queue, and nothing opens it again.
  refine run_induction (fun past usage => usage.queue.closed = true ↔ .close ∈ requests past)
    (by simp [fresh, Queue.empty, requests]) ?_ ran
  intro past usage happening told next began ih stepped turn
  rw [requests, List.filterMap_append, List.mem_append, ← requests, ← ih]
  cases turn <;> simp_all [Happening.request?, leave]

/-- Every accepted record is pending or resolved. -/
theorem balanced_of_run (resolves : (fresh (.empty capacity)).ResolvesAccepted happenings)
    (ran : (fresh (.empty capacity)).run happenings = some usage) :
    usage.queue.submitted = usage.queue.pending + usage.queue.resolved := by
  refine run_induction (fun past usage => (fresh (.empty capacity)).ResolvesAccepted past →
    usage.queue.submitted = usage.queue.pending + usage.queue.resolved) (fun _ => rfl) ?_ ran
    resolves
  intro past usage happening told next began ih stepped turn resolves
  have balanced := ih resolves.earlier
  -- A record that is resolved must have been pending, or the counter would stop at zero.
  have fewer := resolves.last (run_snoc.2 ⟨usage, told, began, stepped⟩)
  cases turn <;> simp_all [resolved, leave] <;> omega

/-- What is refused is a record that is submitted after the queue was closed. -/
theorem Turn.refused_iff (turn : Turn usage happening told next) (ticket : Ticket) :
    (ticket, .refused) ∈ told ↔ ticket = usage.asked ∧ usage.queue.closed = true ∧
      ∃ record, happening.request? = some (.submit record) := by
  cases turn <;> simp_all [Happening.request?]

/-- A record is refused if and only if the queue was closed before it was submitted. -/
theorem refused_iff (ran : (fresh (.empty capacity)).run happenings = some usage)
    (ticket : Ticket) :
    (ticket, .refused) ∈ (fresh (.empty capacity)).ended happenings ↔
      (∃ record, Made happenings ticket (.submit record)) ∧
        .close ∈ (requests happenings).take ticket := by
  -- Along the run, for a ticket that is old, new or not made yet.
  refine run_induction (fun past _ => (ticket, .refused) ∈ (fresh (.empty capacity)).ended past ↔
    (∃ record, Made past ticket (.submit record)) ∧ .close ∈ (requests past).take ticket)
    (by simp [Made, requests, Usage.ended, watch]) ?_ ran
  intro past usage happening told next began ih stepped turn
  have asked := (ticketed_of_run began).asked
  have closed := closed_of_run began
  have grown : requests (past ++ [happening]) = requests past ++ happening.request?.toList := by
    cases made : happening.request? <;> simp [requests, made]
  rw [ended_snoc began stepped, List.mem_append, turn.refused_iff, asked, closed]
  unfold Made at ih ⊢
  rw [grown, ih]
  -- Older requests are as they were, and the newest one comes after all of them.
  rcases Nat.lt_trichotomy ticket (requests past).length with old | rfl | unmade
  · grind
  · cases happening.request? <;> grind
  · grind

/-- Where everything is that was brought to a queue of a capacity. -/
structure Conserved (capacity : Nat) (start : Usage α) (happenings : List (Happening α))
    (usage : Usage α) : Prop where
  /-- Every record that was kept has had its place or is still brought by its submitter, and none is
  doubled. -/
  records : (start.kept happenings).Perm (start.placed happenings ++ usage.queue.submitters)
  /-- Records are delivered in the order in which they got their places, and those that are not are
  stored in that order. -/
  places : (start.placed happenings).map Prod.snd =
    (start.delivered happenings).map Prod.snd ++ usage.queue.buffer
  /-- Submitters stand in line in the order in which their records were accepted. -/
  line : usage.queue.submitters.Sublist (start.kept happenings)
  /-- Of two records the one that was accepted first comes first, unless at some moment both of
  their submitters owned places and the other one took its own. -/
  order : (start.placed happenings ++ usage.queue.submitters).Pairwise fun first second =>
    first.1 < second.1 ∨ start.Overtakes happenings first second
  /-- No record comes before as many records that were accepted earlier as there are places. -/
  few : ∀ before entry after,
    start.placed happenings ++ usage.queue.submitters = before ++ entry :: after →
      after.countP (·.1 < entry.1) < capacity
  /-- Where submitters own places one by one, as they always do when there is only one place,
  records stay in the order in which they were accepted. -/
  ordered : capacity = 1 ∨ start.OneByOne happenings →
    (start.kept happenings).map Prod.snd = (start.delivered happenings).map Prod.snd ++
      usage.queue.buffer ++ usage.queue.submitters.map Prod.snd
  /-- Takers get their records in the order in which they came. -/
  takers : start.served happenings =
    (start.delivered happenings).map Prod.fst ++ usage.queue.takers
  stored : usage.queue.buffer.length ≤ capacity
  counted : usage.queue.submitted = (start.accepted happenings).length
  /-- Unless more records are resolved than accepted, none drops out of the counters. -/
  balanced : start.ResolvesAccepted happenings → usage.queue.submitted =
    usage.queue.pending + usage.queue.published + usage.queue.failed
  /-- A record is refused if and only if the queue was closed before it was submitted. -/
  refused : ∀ ticket, (ticket, .refused) ∈ start.ended happenings ↔
    (∃ record, Made happenings ticket (.submit record)) ∧
      .close ∈ (requests happenings).take ticket
  /-- A record that is refused leaves the queue as it is. -/
  unchanged : ∀ record told next, usage.step (.ask (.submit record)) = some (told, next) →
    (usage.asked, .refused) ∈ told → next.queue = usage.queue

/-- A queue can be created with every capacity, and in whatever order things happen, it conserves
what is brought to it. Making requests one after the other, and letting everything go on that can
after each of them, is one such order, in which never do two submitters own places at the same
time. -/
theorem records_conserved (positive : 0 < capacity) (fits : capacity ≤ greatestCapacity) :
    ∃ queue : Queue α, Queue.create? capacity = some queue ∧
      (∀ happenings usage, (fresh queue).run happenings = some usage →
        Conserved capacity (fresh queue) happenings usage) ∧
      ∀ requested, ∃ happenings, requests happenings = requested ∧
        (fresh queue).run happenings =
          some ⟨(queue.performAll 0 requested).2, requested.length⟩ ∧
        (fresh queue).ended happenings = (queue.performAll 0 requested).1 ∧
        (fresh queue).OneByOne happenings := by
  -- What holds of every run comes from `held_of_run` and `lined_of_run`, as a step keeps it; the run
  -- that follows a list of requests is put together from the looks that settle the queue after each
  -- of them.
  refine ⟨.empty capacity, create?_eq_some_iff.2 ⟨⟨positive, fits⟩, rfl⟩,
    fun happenings usage ran => ?conserved, fun requested => ?performed⟩
  case conserved =>
    have held := held_of_run ran
    have lined := lined_of_run ran
    have stays : usage.queue.capacity = capacity := capacity_of_run ran
    constructor
    case records => exact held.records
    case places => exact held.places
    case line => exact lined.line
    case order => exact lined.order
    case few =>
      subst stays
      exact fun before entry after => lined.countP_lt (ticketed_of_run ran) positive
    case ordered =>
      -- The places that were told are the records kept, in the order in which they came in.
      intro single
      have apart := single.elim (fun one => oneByOne_of_le_one one.le) id
      rw [kept_eq apart ran, List.map_append, held.places]
    case takers => exact held.takers
    case stored => exact stays ▸ stored_of_run ran
    case counted => exact submitted_of_run ran
    case balanced =>
      intro resolves
      rw [balanced_of_run resolves ran, Queue.resolved, Nat.add_assoc]
    case refused => exact refused_iff ran
    case unchanged =>
      intro record told next stepped refused
      cases turn_of_step stepped with
      | accept record opened => simp at refused
      | refuse record closed => rfl
  case performed =>
    have rests : (Queue.empty capacity : Queue α).Rests := ⟨.inl rfl, .inl rfl⟩
    obtain ⟨happenings, asks, ran, ended, single⟩ :=
      exists_run_of_performAll 0 requested positive rests
    rw [Nat.zero_add] at ran
    exact ⟨happenings, asks, ran, ended, single⟩

/-- A queue with room for one record, where a submitter and a taker give up while they wait, and
where a record comes too late. -/
def rehearsal : List (Happening Nat) :=
  [.ask (.submit 10), .ask (.submit 11), .ask (.submit 12), .poll 0, .ask (.cancel 1), .ask .next,
    .poll 4, .poll 2, .ask .next, .poll 5, .ask .next, .ask .next, .ask (.cancel 6),
    .ask (.submit 13), .poll 9, .poll 7, .ask (.resolve .published), .ask (.submit 14), .poll 11,
    .ask (.submit 15), .ask .close, .ask (.submit 16), .ask (.resolve .failed)]

/-- The rehearsal conserves its records in their order. -/
theorem records_conserved_in_rehearsal : ∃ queue usage,
    Queue.create? 1 = some queue ∧ (fresh queue).run rehearsal = some usage ∧
      (fresh queue).ResolvesAccepted rehearsal ∧ (fresh queue).OneByOne rehearsal ∧
      Conserved 1 (fresh queue) rehearsal usage ∧ usage.queue.submitters = [(12, 15)] := by
  obtain ⟨queue, made, conserved, -⟩ := records_conserved (α := Nat) (by decide : 0 < 1) (by decide)
  obtain ⟨-, rfl⟩ := create?_eq_some_iff.1 made
  exact ⟨_, _, made, rfl, by decide, by decide, conserved _ _ rfl, rfl⟩

/-- A queue with room for two records, where the second of two submitters that own places takes its
own before the first one does. -/
def overtaking : List (Happening Nat) :=
  [.ask (.submit 10), .ask (.submit 11), .poll 0, .poll 1, .ask (.submit 12), .ask (.submit 13),
    .ask .next, .ask .next, .poll 4, .poll 5, .poll 3, .poll 2]

/-- Records need not stay in the order in which they were accepted. -/
theorem records_reordered : ¬ ∀ capacity (queue : Queue Nat), Queue.create? capacity = some queue →
    ∀ happenings usage, (fresh queue).run happenings = some usage →
      (fresh queue).ResolvesAccepted happenings →
      ((fresh queue).kept happenings).map Prod.snd =
        ((fresh queue).delivered happenings).map Prod.snd ++ usage.queue.buffer ++
          usage.queue.submitters.map Prod.snd := by
  intro ordered
  -- The record 12 was accepted before 13, and is stored behind it.
  have same : [10, 11, 12, 13] = [10, 11, 13, 12] := ordered 2 _ rfl overtaking _ rfl (by decide)
  exact absurd same (by decide)

end InsightRelay.Queue.Usage
