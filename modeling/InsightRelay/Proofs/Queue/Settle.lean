import InsightRelay.Proofs.Queue.History

/-! Letting everything go on that can is one of the runs of a queue, and in it never do two
submitters own places at the same time. -/

namespace InsightRelay.Queue

variable {α : Type} {queue : Queue α}

/-- Nothing can go on but those that wait for the last record. -/
structure Rests (queue : Queue α) : Prop where
  submitters : queue.submitters = [] ∨ queue.room = 0
  takers : queue.takers = [] ∨ queue.buffer = []

/-- Nothing that waits can go on. -/
def Quiet (queue : Queue α) : Prop :=
  ∀ ticket ∈ queue.waiting, queue.poll ticket = none

instance (queue : Queue α) : Decidable queue.Quiet :=
  decidable_of_iff (∀ ticket ∈ queue.waiting, (queue.poll ticket).isNone) <|
    forall₂_congr fun _ _ => Option.isNone_iff_eq_none

/-- At most one submitter owns a place, and no taker is about to make room for another one. -/
def Narrow (queue : Queue α) : Prop :=
  queue.submitters.length ≤ 1 ∨ queue.room + queue.takers.length ≤ 1 ∨ queue.capacity ≤ 1

/-- Where there are few submitters or little room, one submitter at most owns a place. -/
theorem Narrow.single (narrow : queue.Narrow) : (queue.submitters.take queue.room).length ≤ 1 := by
  rw [List.length_take]
  unfold Narrow room at *
  omega

/-- Where nothing can go on, no submitter owns a place. -/
theorem Rests.single (rests : queue.Rests) : (queue.submitters.take queue.room).length ≤ 1 := by
  rcases rests.submitters with none | full
  · simp [none]
  · simp [full]

/-- To look at more operations is to take up the looks where they ended. -/
theorem pollAll_append (queue : Queue α) (looks more : List Ticket) :
    queue.pollAll (looks ++ more) =
      ((queue.pollAll looks).1 ++ ((queue.pollAll looks).2.pollAll more).1,
        ((queue.pollAll looks).2.pollAll more).2) := by
  -- A look that ends nothing leaves the queue as it was, and one that ends tells it in front.
  induction looks generalizing queue with
  | nil => rfl
  | cons ticket looks ih =>
    simp only [List.cons_append, pollAll]
    cases queue.poll ticket with
    | none => exact ih queue
    | some ending => simp [ih ending.2]

/-- Looking at all that waits, round by round, is to look at operations in turn. -/
theorem exists_looks_of_settleWithin (queue : Queue α) (rounds : Nat) :
    ∃ looks : List Ticket, queue.settleWithin rounds = queue.pollAll looks := by
  -- The rounds are put one behind the other; the last is the one that ends nothing.
  induction rounds generalizing queue with
  | zero => exact ⟨[], rfl⟩
  | succ rounds ih =>
    unfold settleWithin
    cases looked : queue.pollAll queue.waiting with
    | mk told settled =>
      cases told with
      -- A round that ends nothing is the last.
      | nil => exact ⟨queue.waiting, looked.symm⟩
      | cons one others =>
        obtain ⟨looks, later⟩ := ih settled
        exact ⟨queue.waiting ++ looks, by simp [pollAll_append, looked, later]⟩

namespace Usage

variable {start usage next : Usage α} {happening : Happening α}
variable {told : List (Ticket × Outcome α)}

/-- Never do two submitters own places at the same time. -/
def OneByOne (start : Usage α) (happenings : List (Happening α)) : Prop :=
  start.Always (fun _ usage => (usage.queue.submitters.take usage.queue.room).length ≤ 1) happenings

instance (start : Usage α) (happenings : List (Happening α)) :
    Decidable (start.OneByOne happenings) :=
  inferInstanceAs (Decidable (Always ..))

/-- Nothing that happens changes the capacity. -/
theorem Turn.capacity (turn : Turn usage happening told next) :
    next.queue.capacity = usage.queue.capacity := by
  cases turn <;> rfl

/-- No run changes the capacity. -/
theorem capacity_of_run {happenings : List (Happening α)}
    (ran : start.run happenings = some usage) : usage.queue.capacity = start.queue.capacity :=
  run_induction (fun _ usage => usage.queue.capacity = start.queue.capacity) rfl
    (fun _ _ _ _ _ _ ih _ turn => turn.capacity.trans ih) ran

/-- A single request leaves a queue narrow in which nothing can go on. -/
theorem Turn.narrow_of_rests {request : Request α} (turn : Turn usage (.ask request) told next)
    (positive : 0 < usage.queue.capacity) (rests : usage.queue.Rests) : next.queue.Narrow := by
  -- A submitter comes to an empty line, or it comes when there is neither room nor a taker.
  have full : usage.queue.room = 0 → usage.queue.takers = [] := fun none =>
    rests.takers.resolve_right fun empty => by simp [room, empty] at none; omega
  have alone := rests.submitters
  cases turn <;> grind [Narrow, leave, room]

/-- Going on leaves a queue narrow. -/
theorem Turn.narrow {ticket : Ticket} (turn : Turn usage (.poll ticket) told next)
    (narrow : usage.queue.Narrow) : next.queue.Narrow := by
  cases turn <;> grind [Narrow, room]

/-- While a narrow queue goes on, it stays narrow and its submitters own places one by one. -/
theorem oneByOne_of_polls {tickets : List Ticket} (narrow : start.queue.Narrow)
    (ran : start.run (tickets.map .poll) = some usage) :
    start.OneByOne (tickets.map .poll) ∧ usage.queue.Narrow := by
  -- The induction follows the looks from the front, since narrowness is handed on.
  induction tickets generalizing start with
  | nil =>
    obtain rfl : start = usage := by simpa [run] using ran
    exact ⟨always_nil.2 narrow.single, narrow⟩
  | cons ticket tickets ih =>
    obtain ⟨⟨told, next⟩, stepped, rest⟩ := Option.bind_eq_some_iff.1 ran
    have later := ih ((turn_of_step stepped).narrow narrow) rest
    refine ⟨always_cons.2 ⟨narrow.single, fun told' next' stepped' => ?_⟩, later.2⟩
    obtain ⟨-, rfl⟩ := Prod.mk.inj (Option.some.inj (stepped.symm.trans stepped'))
    exact later.1

/-- Looking at operations in turn is a run that tells what ends. -/
theorem exists_run_of_pollAll (queue : Queue α) (asked : Nat) (tickets : List Ticket) :
    ∃ polls : List Ticket,
      (Usage.mk queue asked).run (polls.map .poll) = some ⟨(queue.pollAll tickets).2, asked⟩ ∧
      (Usage.mk queue asked).ended (polls.map .poll) = (queue.pollAll tickets).1 := by
  -- Only the looks that end an operation are part of the run, the others change nothing.
  induction tickets generalizing queue with
  | nil => exact ⟨[], rfl, rfl⟩
  | cons ticket tickets ih =>
    unfold pollAll
    cases polled : queue.poll ticket with
    | none => exact ih queue
    | some ending =>
      obtain ⟨polls, ran, ended⟩ := ih ending.2
      -- A look that ends an operation is a step of its own.
      have stepped : (Usage.mk queue asked).step (.poll ticket) =
          some ([(ticket, ending.1)], ⟨ending.2, asked⟩) := by
        simp [step, polled]
      refine ⟨ticket :: polls, ?_, ?_⟩
      · simp [run, stepped, ran]
      · simp only [Usage.ended, List.map_cons, watch, stepped] at ended ⊢
        rw [ended]
        rfl

/-- Looking at all that waits, round by round, is a run that tells what ends. -/
theorem exists_run_of_settleWithin (queue : Queue α) (asked rounds : Nat) :
    ∃ polls : List Ticket,
      (Usage.mk queue asked).run (polls.map .poll) =
        some ⟨(queue.settleWithin rounds).2, asked⟩ ∧
      (Usage.mk queue asked).ended (polls.map .poll) = (queue.settleWithin rounds).1 := by
  -- All rounds together are one row of looks.
  obtain ⟨looks, same⟩ := queue.exists_looks_of_settleWithin rounds
  exact same ▸ exists_run_of_pollAll queue asked looks

end Usage

/-- As many operations wait as there are in the three lines. -/
theorem length_waiting (queue : Queue α) : queue.waiting.length =
    queue.submitters.length + queue.takers.length + queue.barriers.length := by
  simp [waiting, Nat.add_assoc]

/-- To look at an operation that ends is one of the turns of a queue in use. -/
theorem turn_of_poll {ticket : Ticket} {outcome : Outcome α} {after : Queue α}
    (polled : queue.poll ticket = some (outcome, after)) :
    Usage.Turn ⟨queue, 0⟩ (.poll ticket) [(ticket, outcome)] ⟨after, 0⟩ :=
  Usage.turn_of_step (by simp [Usage.step, polled])

/-- Whatever ends waits no longer. -/
theorem length_waiting_of_poll {ticket : Ticket} {outcome : Outcome α} {after : Queue α}
    (polled : queue.poll ticket = some (outcome, after)) :
    after.waiting.length < queue.waiting.length := by
  -- Each of the three lines loses whoever ends in it, and the other two stay as they are.
  simp only [length_waiting]
  cases turn_of_poll polled with
  | place owned =>
    have shorter : (queue.submitters.filter fun entry => entry.1 != ticket).length <
        queue.submitters.length :=
      List.length_filter_lt_length_iff_exists.2
        ⟨_, List.mem_of_mem_take (mem_of_owned? owned), by simp⟩
    simp only
    omega
  | take unplaced inLine stored =>
    -- The first in line is the one that ends.
    have shorter : queue.takers.length = _ + 1 := congrArg List.length inLine
    simp only
    omega
  | pass unplaced idle waits =>
    have shorter : (queue.barriers.filter (· != ticket)).length < queue.barriers.length :=
      List.length_filter_lt_length_iff_exists.2 ⟨ticket, waits, by simp⟩
    simp only
    omega

/-- Where a round of looks ends nothing, no operation that was looked at could go on. -/
theorem poll_of_pollAll {tickets : List Ticket} (silent : (queue.pollAll tickets).1 = []) :
    (queue.pollAll tickets).2 = queue ∧ ∀ ticket ∈ tickets, queue.poll ticket = none := by
  -- An operation that could go on would have ended, and that would have been told.
  induction tickets with
  | nil => simp [pollAll]
  | cons ticket tickets ih =>
    unfold pollAll at silent ⊢
    cases polled : queue.poll ticket with
    | some ending => simp [polled] at silent
    | none =>
      simp only [polled] at silent ⊢
      exact ⟨(ih silent).1, List.forall_mem_cons.2 ⟨polled, (ih silent).2⟩⟩

/-- Whatever ends in a round of looks waits no longer. -/
theorem length_waiting_of_pollAll (queue : Queue α) (tickets : List Ticket) :
    (queue.pollAll tickets).2.waiting.length + (queue.pollAll tickets).1.length ≤
      queue.waiting.length := by
  -- Each look that ends an operation takes it out of its line.
  induction tickets generalizing queue with
  | nil => simp [pollAll]
  | cons ticket tickets ih =>
    unfold pollAll
    cases polled : queue.poll ticket with
    | none => exact ih queue
    | some ending =>
      -- The others wait in a shorter queue, and there is one more to count.
      have shorter := length_waiting_of_poll polled
      have rest := ih ending.2
      simp only [List.length_cons]
      omega

/-- A queue rests when nothing that waits can go on. -/
theorem Quiet.rests (stuck : queue.Quiet) : queue.Rests := by
  constructor
  case submitters =>
    -- The first submitter would be placed if there were room.
    cases line : queue.submitters with
    | nil => exact .inl rfl
    | cons entry rest =>
      refine .inr (Nat.eq_zero_of_not_pos fun free => ?_)
      have none := stuck entry.1 (by simp [waiting, line])
      obtain ⟨room, more⟩ := Nat.exists_eq_add_one.2 free
      simp [poll, place?_eq, owned?, line, more] at none
  case takers =>
    -- The first taker would take the first record if there were one.
    cases line : queue.takers with
    | nil => exact .inl rfl
    | cons ticket rest =>
      refine .inr (List.eq_nil_iff_forall_not_mem.2 fun record stored => ?_)
      have none := stuck ticket (by simp [waiting, line])
      obtain ⟨front, back, buffer⟩ := List.exists_cons_of_ne_nil (List.ne_nil_of_mem stored)
      cases owned : queue.owned? ticket <;>
        simp [poll, place?_eq, owned, take?, line, buffer] at none

/-- With enough rounds of looks nothing that waits can go on any more. -/
theorem quiet_settleWithin {rounds : Nat} (enough : queue.waiting.length < rounds) :
    (queue.settleWithin rounds).2.Quiet := by
  -- Every round but the last ends an operation that has waited.
  induction rounds generalizing queue with
  | zero => simp at enough
  | succ rounds ih =>
    have shorter := length_waiting_of_pollAll queue queue.waiting
    unfold settleWithin
    cases looked : queue.pollAll queue.waiting with
    | mk told settled =>
      simp only [looked] at shorter
      cases told with
      | nil =>
        -- The round that ends nothing has looked at all that waits.
        have silent : (queue.pollAll queue.waiting).1 = [] := by rw [looked]
        obtain ⟨same, stuck⟩ := poll_of_pollAll silent
        rw [looked] at same
        exact same ▸ stuck
      | cons one others =>
        simp only [List.length_cons] at shorter
        exact ih (by omega)

/-- To make one request and to let everything go on that can is a run that comes to rest. -/
theorem exists_run_of_perform (asked : Nat) (request : Request α) (positive : 0 < queue.capacity)
    (rests : queue.Rests) :
    ∃ happenings, requests happenings = [request] ∧
      (Usage.mk queue asked).run happenings =
        some ⟨(queue.perform asked request).2, asked + 1⟩ ∧
      (Usage.mk queue asked).ended happenings = (queue.perform asked request).1 ∧
      (Usage.mk queue asked).OneByOne happenings ∧ (queue.perform asked request).2.Rests := by
  have stepped : (Usage.mk queue asked).step (.ask request) =
    some ((queue.begin asked request).1, ⟨(queue.begin asked request).2, asked + 1⟩) := rfl
  -- One request makes one more operation wait, so the looks after it start from a narrow queue.
  have narrow := (Usage.turn_of_step stepped).narrow_of_rests positive rests
  obtain ⟨polls, settled, told⟩ := Usage.exists_run_of_settleWithin
    (queue.begin asked request).2 (asked + 1) ((queue.begin asked request).2.waiting.length + 1)
  obtain ⟨single, -⟩ := Usage.oneByOne_of_polls narrow settled
  refine ⟨.ask request :: polls.map .poll, by simp [requests, Happening.request?],
    (Usage.run_cons stepped _).trans settled, ?_, ?_,
    (quiet_settleWithin (Nat.lt_succ_self _)).rests⟩
  · exact (Usage.watch_cons stepped _).trans (congrArg _ told)
  · -- Before the request nothing could go on, and after it only one at a time.
    refine Usage.always_cons.2 ⟨rests.single, fun told next again => ?_⟩
    obtain ⟨-, rfl⟩ := Prod.mk.inj (Option.some.inj (stepped.symm.trans again))
    exact single

/-- To make requests one after the other, and to let everything go on that can after each of them,
is a run in which submitters own places one by one. -/
theorem exists_run_of_performAll (asked : Nat) (requested : List (Request α))
    (positive : 0 < queue.capacity) (rests : queue.Rests) :
    ∃ happenings, requests happenings = requested ∧
      (Usage.mk queue asked).run happenings =
        some ⟨(queue.performAll asked requested).2, asked + requested.length⟩ ∧
      (Usage.mk queue asked).ended happenings = (queue.performAll asked requested).1 ∧
      (Usage.mk queue asked).OneByOne happenings := by
  -- Between two requests the queue comes to rest, which the next one relies on.
  induction requested generalizing queue asked with
  | nil => exact ⟨[], rfl, rfl, rfl, Usage.always_nil.2 rests.single⟩
  | cons request requested ih =>
    obtain ⟨first, asks, ran, ended, single, quiet⟩ :=
      exists_run_of_perform asked request positive rests
    obtain ⟨second, more, later, told, further⟩ :=
      ih (asked + 1) ((Usage.capacity_of_run ran).symm ▸ positive) quiet
    -- The runs are put one behind the other, and so is what they tell.
    refine ⟨first ++ second, ?_, ?_, ?_, single.append ran further⟩
    · exact List.filterMap_append.trans (congrArg₂ (· ++ ·) asks more)
    · rw [Usage.run_append ran, later, List.length_cons, Nat.add_right_comm, Nat.add_assoc]
      rfl
    · exact (Usage.watch_append ran _).trans (congrArg₂ (· ++ ·) ended told)

end InsightRelay.Queue
