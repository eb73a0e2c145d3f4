import InsightRelay.Proofs.Queue.Conservation
import InsightRelay.Proofs.Queue.Confluence
import Mathlib.Data.List.Perm.Basic
import Mathlib.Data.Prod.Basic

/-! Letting everything go on that can wakes those that can go on, and nobody else. -/

namespace InsightRelay.Queue

variable {α β : Type} {queue after : Queue α} {ticket : Ticket} {outcome : Outcome α}

/-- The outcome with another record. -/
def Outcome.map (rename : α → β) : Outcome α → Outcome β
  | placed => .placed
  | refused => .refused
  | taken record => .taken (rename record)
  | drained => .drained

/-- The queue with other records. -/
def map (rename : α → β) (queue : Queue α) : Queue β where
  capacity := queue.capacity
  closed := queue.closed
  pending := queue.pending
  submitted := queue.submitted
  published := queue.published
  failed := queue.failed
  buffer := queue.buffer.map rename
  submitters := queue.submitters.map (Prod.map id rename)
  takers := queue.takers
  barriers := queue.barriers

/-- The same submitters own places whatever their records are. -/
theorem owned?_map (rename : α → β) (queue : Queue α) (ticket : Ticket) :
    (queue.map rename).owned? ticket = (queue.owned? ticket).map rename := by
  simp [owned?, map, room, ← List.map_take, List.find?_map, Function.comp_def]

/-- The same takers are served whatever the records are. -/
theorem take?_map (rename : α → β) (queue : Queue α) (ticket : Ticket) :
    (queue.map rename).take? ticket =
      (queue.take? ticket).map (Prod.map rename (Queue.map rename)) := by
  unfold take? map
  cases queue.takers <;> cases queue.buffer <;> simp

/-- The same operations see that nothing is pending whatever the records are. -/
theorem pass?_map (rename : α → β) (queue : Queue α) (ticket : Ticket) :
    (queue.map rename).pass? ticket = (queue.pass? ticket).map (Queue.map rename) := by
  unfold pass? map
  split <;> rfl

/-- The same operations end whatever the records are. -/
theorem poll_map (rename : α → β) (queue : Queue α) (ticket : Ticket) :
    (queue.map rename).poll ticket =
      (queue.poll ticket).map (Prod.map (Outcome.map rename) (Queue.map rename)) := by
  -- A place, a record and the end of all work are looked for in turn.
  simp only [poll, place?_eq, owned?_map, take?_map, pass?_map]
  cases queue.owned? ticket with
  | some record => simp [Outcome.map, map, List.filter_map, Function.comp_def]
  | none =>
    cases queue.take? ticket with
    | some taken => rfl
    | none => cases queue.pass? ticket <;> rfl

/-- Looks end the same operations whatever the records are. -/
theorem pollAll_map (rename : α → β) (queue : Queue α) (looks : List Ticket) :
    (queue.map rename).pollAll looks =
      ((queue.pollAll looks).1.map (Prod.map id (Outcome.map rename)),
        (queue.pollAll looks).2.map rename) := by
  -- A look does not read the records, so it ends the same operation of both queues or none.
  induction looks generalizing queue with
  | nil => rfl
  | cons ticket looks ih =>
    have renamed := poll_map rename queue ticket
    cases polled : queue.poll ticket with
    | none =>
      rw [polled] at renamed
      rw [pollAll_cons_of_none polled, pollAll_cons_of_none renamed, ih]
    | some ended =>
      rw [polled] at renamed
      rw [pollAll_cons polled, pollAll_cons renamed, ih]
      rfl

/-- Nothing can go on whatever the records are. -/
theorem Quiet.map (rename : α → β) (quiet : queue.Quiet) : (queue.map rename).Quiet :=
  fun ticket _ => by rw [poll_map, quiet.poll ticket, Option.map_none]

/-- Those that wait are apart whatever the records are. -/
theorem Apart.map (rename : α → β) (apart : queue.Apart) : (queue.map rename).Apart := by
  -- Records may change, but nobody gets another ticket.
  have tickets : (queue.map rename).submitters.map Prod.fst = queue.submitters.map Prod.fst := by
    simp [Queue.map]
  constructor
  case once => exact tickets ▸ apart.once
  case turns => exact apart.turns
  case takers => exact tickets ▸ apart.takers
  case barriers => exact tickets ▸ apart.barriers

/-- Rounds of looks, each of which looks in any order at everything that waits then. -/
def Thorough (queue : Queue α) : (rounds : List (List Ticket)) → Prop
  | [] => True
  | round :: rounds => queue.waiting ⊆ round ∧ (queue.pollAll round).2.Thorough rounds

/-- Rounds of looks come to an end after as many rounds as operations wait. -/
theorem Thorough.quiet {rounds : List (List Ticket)} (thorough : queue.Thorough rounds)
    (enough : queue.waiting.length ≤ rounds.length) :
    (queue.pollAll rounds.flatten).2.Quiet := by
  -- A round ends an operation, or none can go on and none will.
  induction rounds generalizing queue with
  | nil =>
    have nobody : queue.waiting = [] := List.length_eq_zero_iff.1 (Nat.le_zero.1 enough)
    simp [pollAll, Quiet, nobody]
  | cons round rounds ih =>
    rw [List.flatten_cons, pollAll_append]
    have shorter := length_waiting_of_pollAll queue round
    cases told : (queue.pollAll round).1 with
    | nil =>
      -- The round has looked at all that waits, and left the queue as it was.
      obtain ⟨same, stuck⟩ := poll_of_pollAll told
      have quiet : queue.Quiet := fun ticket waits => stuck ticket (thorough.1 waits)
      rw [same, quiet.pollAll]
      exact quiet
    | cons one others =>
      rw [told] at shorter
      simp only [List.length_cons] at shorter enough
      exact ih thorough.2 (by omega)

/-- Everything that can go on has gone on. -/
structure Still (queue : Queue α) : Prop extends queue.Rests where
  barriers : queue.barriers = [] ∨ queue.pending ≠ 0
  lines : queue.takers = [] ∨ queue.submitters = []

/-- A queue in which nothing can go on is still. -/
theorem Quiet.still (quiet : queue.Quiet) (apart : queue.Apart) (positive : 0 < queue.capacity) :
    queue.Still := by
  refine ⟨quiet.rests, ?barriers, ?lines⟩
  case barriers =>
    refine or_iff_not_imp_left.2 fun some => ?_
    obtain ⟨ticket, waits⟩ := List.exists_mem_of_ne_nil _ some
    exact fun idle => absurd (quiet.poll ticket) (by simp [poll_of_idle apart waits idle])
  case lines =>
    -- If a taker waits, nothing is stored, so there is room and no submitter waits.
    refine quiet.rests.takers.imp_right fun empty => quiet.rests.submitters.resolve_right ?_
    rw [room, empty]
    exact positive.ne'

/-- Those that wait stay apart however they are looked at. -/
theorem Apart.pollAll (apart : queue.Apart) (looks : List Ticket) :
    (queue.pollAll looks).2.Apart := by
  -- Look by look, as each of them keeps those that wait apart.
  induction looks generalizing queue with
  | nil => exact apart
  | cons ticket looks ih =>
    cases polled : queue.poll ticket with
    | none => exact pollAll_cons_of_none polled looks ▸ ih apart
    | some ended => exact pollAll_cons polled looks ▸ ih (apart.poll polled)

/-- No look changes the capacity. -/
theorem capacity_pollAll (queue : Queue α) (looks : List Ticket) :
    (queue.pollAll looks).2.capacity = queue.capacity := by
  obtain ⟨polls, ran, -⟩ := Usage.exists_run_of_pollAll queue 0 looks
  exact Usage.capacity_of_run ran

/-- Where a record is stored for each taker, a taker gets the one that stands where it stands. -/
theorem getElem?_of_pollAll {looks : List Ticket} {record : α}
    (fed : queue.takers.length ≤ queue.buffer.length)
    (told : (ticket, .taken record) ∈ (queue.pollAll looks).1) :
    ∃ place : Nat, queue.takers[place]? = some ticket ∧ queue.buffer[place]? = some record := by
  -- The induction follows the looks, as each of them leaves a record for each taker.
  induction looks generalizing queue with
  | nil => simp [pollAll] at told
  | cons other looks ih =>
    cases polled : queue.poll other with
    | none => exact ih fed (pollAll_cons_of_none polled looks ▸ told)
    | some ended =>
      obtain ⟨outcome, after⟩ := ended
      rw [pollAll_cons polled, List.mem_cons] at told
      cases turn_of_poll polled with
      | place owned =>
        -- A record that is placed goes behind those that are meant for the takers.
        obtain ⟨place, inLine, stored⟩ := ih
          (by simpa using fed.trans (Nat.le_succ _)) (told.resolve_left (by simp))
        have within : place < queue.takers.length := (List.getElem?_eq_some_iff.1 inLine).1
        exact ⟨place, inLine, (List.getElem?_append_left (within.trans_le fed)).symm.trans stored⟩
      | take unplaced inLine stored =>
        change queue.takers = _ at inLine
        change queue.buffer = _ at stored
        rw [inLine, stored] at fed ⊢
        rcases told with now | later
        · obtain ⟨rfl, same⟩ := Prod.mk.inj now
          obtain rfl := Outcome.taken.inj same
          exact ⟨0, rfl, rfl⟩
        · obtain ⟨place, behind, also⟩ := ih (Nat.le_of_succ_le_succ fed) later
          exact ⟨place + 1, behind, also⟩
      | pass unplaced idle waits =>
        -- One that has waited for the last record takes none.
        exact @ih { queue with barriers := queue.barriers.filter (· != other) } fed
          (told.resolve_left (by simp))

/-- Outcomes that differ in a record do so in another type of records, too, that tells them
apart. -/
theorem Outcome.map_injective (rename : α → β) (apart : rename.Injective) :
    (Outcome.map rename).Injective := by
  intro left right same
  cases left <;> cases right <;> simp_all [Outcome.map, apart.eq_iff]

/-- An ending in which a taker gets what is stored for the place where it stands in line. -/
def fill (queue : Queue α) (ending : Ticket × Outcome Unit) : Ticket × Outcome (Option α) :=
  (ending.1, ending.2.map fun _ => queue.buffer[queue.takers.idxOf ending.1]?)

/-- Where a record is stored for each taker, the queue at the start tells what takers get. -/
theorem Apart.map_fill (apart : queue.Apart) (fed : queue.takers.length ≤ queue.buffer.length)
    (looks : List Ticket) :
    ((queue.pollAll looks).1.map (Prod.map id (Outcome.map fun _ => ()))).map queue.fill =
      (queue.pollAll looks).1.map (Prod.map id (Outcome.map some)) := by
  rw [List.map_map]
  refine List.map_congr_left fun (ticket, outcome) member => ?_
  cases outcome with
  | taken record =>
    -- The taker stands nowhere else in line, so what is stored for it is what it got.
    obtain ⟨place, inLine, stored⟩ := getElem?_of_pollAll fed member
    obtain ⟨within, rfl⟩ := List.getElem?_eq_some_iff.1 inLine
    simp [fill, Outcome.map, apart.turns.idxOf_getElem, stored]
  | _ => rfl

/-- Where a record is stored for each taker, takers get the same records whoever is looked at
first. -/
theorem Apart.perm_of_fed (apart : queue.Apart) (fed : queue.takers.length ≤ queue.buffer.length)
    {first second : List Ticket}
    (alike : ((queue.pollAll first).1.map (Prod.map id (Outcome.map fun _ => ()))).Perm
      ((queue.pollAll second).1.map (Prod.map id (Outcome.map fun _ => ())))) :
    (queue.pollAll first).1.Perm (queue.pollAll second).1 := by
  have injective := (Function.injective_id (α := Ticket)).prodMap
    (Outcome.map_injective (some : α → Option α) fun _ _ => Option.some.inj)
  refine (List.map_perm_map_iff injective).1 ?_
  rw [← apart.map_fill fed, ← apart.map_fill fed]
  exact alike.map queue.fill

/-- When the first takers are looked at first, they take all that is stored. -/
theorem Apart.pollAll_front (apart : queue.Apart) {front back : List Ticket}
    (inLine : queue.takers = front ++ back) (fed : front.length = queue.buffer.length) :
    (queue.pollAll front).2 = { queue with takers := back, buffer := [] } := by
  -- Each of them takes the record in front and leaves the next one to the next in line.
  induction front generalizing queue with
  | nil =>
    have empty : queue.buffer = [] := List.length_eq_zero_iff.1 fed.symm
    rw [Queue.pollAll, ← empty, ← List.nil_append back, ← inLine]
  | cons taker front ih =>
    obtain ⟨record, buffer, stored⟩ := List.exists_cons_of_length_eq_add_one fed.symm
    have takes : taker ∈ queue.takers := inLine ▸ List.mem_cons_self
    have polled := poll_of_front (apart.takers taker takes) inLine stored
    rw [pollAll_cons polled]
    exact ih (apart.poll polled) rfl (by simpa [stored] using fed)

/-- Whatever has ended, everything else that can go on does so when it is looked at long enough. -/
theorem exists_looks_quiet (queue : Queue α) (looks : List Ticket) :
    ∃ more, (queue.pollAll (looks ++ more)).2.Quiet := by
  obtain ⟨more, settled⟩ := (queue.pollAll looks).2.exists_looks_of_settleWithin
    ((queue.pollAll looks).2.waiting.length + 1)
  refine ⟨more, ?_⟩
  rw [pollAll_append, ← settled]
  exact quiet_settleWithin (Nat.lt_succ_self _)

/-- The first taker for whom no record is stored may get that of any submitter that owns a place when
nothing is stored. -/
theorem Apart.exists_looks_taken (apart : queue.Apart) {taker : Ticket} {entry : Ticket × α}
    (unfed : queue.takers[queue.buffer.length]? = some taker)
    (near : entry ∈ queue.submitters.take queue.capacity) :
    ∃ looks, (queue.pollAll looks).2.Quiet ∧ (taker, .taken entry.2) ∈ (queue.pollAll looks).1 := by
  -- First all that is stored is taken, then the submitter is looked at, and then the taker.
  obtain ⟨within, rfl⟩ := List.getElem?_eq_some_iff.1 unfed
  have inLine := List.take_append_drop queue.buffer.length queue.takers
  rw [List.drop_eq_getElem_cons within] at inLine
  have emptied := apart.pollAll_front inLine.symm (List.length_take_of_le within.le)
  have apart' := emptied ▸ apart.pollAll (queue.takers.take queue.buffer.length)
  have placed := poll_of_owned (apart'.owned?_eq_some_iff.2 near)
  have takes := List.mem_cons_self (a := queue.takers[queue.buffer.length])
    (l := queue.takers.drop (queue.buffer.length + 1))
  have taken := poll_of_front ((apart'.poll placed).takers _ takes) rfl rfl
  obtain ⟨more, quiet⟩ := queue.exists_looks_quiet
    (queue.takers.take queue.buffer.length ++ [entry.1, queue.takers[queue.buffer.length]])
  refine ⟨_, quiet, ?_⟩
  rw [pollAll_append, pollAll_append, emptied, pollAll_cons placed, pollAll_cons taken]
  simp

/-- What letting everything go on that can leads to. -/
structure Settles (queue : Queue α) : Prop where
  /-- No more operations end than wait no longer. -/
  bounded : ∀ looks, (queue.pollAll looks).2.waiting.length + (queue.pollAll looks).1.length ≤
    queue.waiting.length
  /-- Whoever looks again and again at all that waits comes to an end. -/
  ends : ∀ rounds, queue.Thorough rounds → queue.waiting.length ≤ rounds.length →
    (queue.pollAll rounds.flatten).2.Quiet
  /-- One way to the end is the one that settling takes. -/
  settled : queue.settle.2.Quiet ∧ ∃ looks, queue.settle = queue.pollAll looks
  /-- At the end nobody waits for what there is. -/
  still : ∀ looks, (queue.pollAll looks).2.Quiet → (queue.pollAll looks).2.Still
  /-- Whoever is looked at first, the same operations end in the same ways, and the queue is the same
  at the end, but for the order of records. -/
  alike : ∀ looks, (queue.pollAll looks).2.Quiet →
    ((queue.pollAll looks).1.map (Prod.map id (Outcome.map fun _ => ()))).Perm
        (queue.settle.1.map (Prod.map id (Outcome.map fun _ => ()))) ∧
      (queue.pollAll looks).2.map (fun _ => ()) = queue.settle.2.map fun _ => ()
  /-- Takers get the same records, too, where a record is stored for each taker, or where two
  submitters cannot own places at the same time. -/
  served : queue.capacity ≤ 1 ∨ queue.submitters.length ≤ 1 ∨
      queue.takers.length ≤ queue.buffer.length →
    ∀ looks, (queue.pollAll looks).2.Quiet → (queue.pollAll looks).1.Perm queue.settle.1
  /-- In all other queues it depends on who is looked at first which record the first taker gets for
  whom none is stored: it may be that of any submitter that can own a place when nothing is
  stored. -/
  free : ∀ taker, queue.takers[queue.buffer.length]? = some taker →
    ∀ entry ∈ queue.submitters.take queue.capacity,
      ∃ looks, (queue.pollAll looks).2.Quiet ∧ (taker, .taken entry.2) ∈ (queue.pollAll looks).1

/-- Whoever is looked at first, the same operations end in the same ways, and the queue is the same
at the end. -/
structure SettlesAlike (queue : Queue α) : Prop extends queue.Settles where
  same : ∀ looks, (queue.pollAll looks).2.Quiet →
    (queue.pollAll looks).1.Perm queue.settle.1 ∧ (queue.pollAll looks).2 = queue.settle.2

/-- Looks that come to an end let the same operations end in the same ways, and lead to the same
queue but for the order of records. -/
theorem Apart.alike (apart : queue.Apart) {first second : List Ticket}
    (quiet : (queue.pollAll first).2.Quiet) (also : (queue.pollAll second).2.Quiet) :
    ((queue.pollAll first).1.map (Prod.map id (Outcome.map fun _ => ()))).Perm
        ((queue.pollAll second).1.map (Prod.map id (Outcome.map fun _ => ()))) ∧
      (queue.pollAll first).2.map (fun _ => ()) = (queue.pollAll second).2.map fun _ => () := by
  -- Where all records are alike, it does not matter who is placed first.
  have steady : (queue.map fun _ => ()).Steady := ⟨apart.map _, .inr inferInstance⟩
  have still (looks : List Ticket) (ended : (queue.pollAll looks).2.Quiet) :
      ((queue.map fun _ => ()).pollAll looks).2.Quiet := by
    rw [pollAll_map]
    exact ended.map _
  have confluent := steady.confluent (still first quiet) (still second also)
  rwa [pollAll_map, pollAll_map] at confluent

/-- A queue settles in which those that wait are apart. -/
theorem Apart.settles (apart : queue.Apart) (positive : 0 < queue.capacity) : queue.Settles := by
  -- The rounds are one way to let everything go on, and every other way is compared with it.
  have quiet : queue.settle.2.Quiet := quiet_settleWithin (Nat.lt_succ_self _)
  obtain ⟨rounds, settled⟩ : ∃ rounds, queue.settle = queue.pollAll rounds :=
    queue.exists_looks_of_settleWithin (queue.waiting.length + 1)
  refine ⟨queue.length_waiting_of_pollAll, fun _ => Thorough.quiet, ⟨quiet, rounds, settled⟩,
    fun looks ended => ended.still (apart.pollAll looks) ?_, fun looks ended => ?alike,
    fun even looks ended => ?served, fun taker unfed entry => apart.exists_looks_taken unfed⟩
  · rwa [capacity_pollAll]
  case alike =>
    rw [settled] at quiet ⊢
    exact apart.alike ended quiet
  case served =>
    rw [settled] at quiet ⊢
    have narrow (little : queue.Narrow) :=
      (Steady.confluent ⟨apart, .inl little⟩ ended quiet).1
    rcases even with little | few | fed
    · exact narrow (.inr (.inr little))
    · exact narrow (.inl few)
    · exact apart.perm_of_fed fed (apart.alike ended quiet).1

/-- A narrow queue settles alike in which those that wait are apart. -/
theorem Narrow.settlesAlike (narrow : queue.Narrow) (apart : queue.Apart)
    (positive : 0 < queue.capacity) : queue.SettlesAlike := by
  -- Looks that meet again come to the same end, and settling is one row of them.
  have settles := apart.settles positive
  obtain ⟨quiet, rounds, settled⟩ := settles.settled
  have steady : queue.Steady := ⟨apart, .inl narrow⟩
  refine ⟨settles, fun looks ended => ?_⟩
  rw [settled] at quiet ⊢
  exact steady.confluent ended quiet

/-- The queues that requests lead to, when after each of them everything goes on that can, in any
order. -/
inductive Reached (queue : Queue α) : (asked : Nat) → (reached : Queue α) → Prop
  | created : Reached queue 0 queue
  | settled {asked : Nat} {reached : Queue α} (request : Request α) (looks : List Ticket)
    (before : Reached queue asked reached)
    (quiet : ((reached.begin asked request).2.pollAll looks).2.Quiet) :
    Reached queue (asked + 1) ((reached.begin asked request).2.pollAll looks).2

variable {reached : Queue α} {asked capacity : Nat}

/-- What requests lead to is reached by a run. -/
theorem Reached.exists_run (path : queue.Reached asked reached) :
    ∃ happenings, (Usage.fresh queue).run happenings = some ⟨reached, asked⟩ := by
  -- Each settled request is a happening, followed by the looks that settled the queue.
  induction path with
  | created => exact ⟨[], rfl⟩
  | @settled asked reached request looks before quiet ih =>
    obtain ⟨happenings, ran⟩ := ih
    obtain ⟨polls, went, -⟩ :=
      Usage.exists_run_of_pollAll (reached.begin asked request).2 (asked + 1) looks
    exact ⟨happenings ++ .ask request :: polls.map .poll,
      (Usage.run_append ran _).trans ((Usage.run_cons rfl _).trans went)⟩

/-- What requests lead to is at rest. -/
theorem Reached.rests (path : (Queue.empty capacity : Queue α).Reached asked reached) :
    reached.Rests := by
  cases path with
  | created => exact ⟨.inl rfl, .inl rfl⟩
  | settled request looks before quiet => exact quiet.rests

/-- At every moment of every run of a queue, letting everything go on that can comes to an end,
where nobody waits for what there is, and the same operations end whoever is looked at first. Takers
get the same records, too, where none is left without a stored one or two submitters cannot own
places at the same time, as when everything went on that could before each request. -/
theorem settling_wakes_whoever_can (made : Queue.create? capacity = some queue) :
    (∀ happenings usage, (Usage.fresh queue).run happenings = some usage → usage.queue.Settles) ∧
      ∀ asked reached, queue.Reached asked reached → ∀ request,
        (reached.begin asked request).2.SettlesAlike := by
  -- The first part holds of any run, the second of those that come to rest before each request.
  obtain ⟨⟨positive, -⟩, rfl⟩ := create?_eq_some_iff.1 made
  refine ⟨fun happenings usage ran => ?_, fun asked reached path request => ?_⟩
  · have kept : usage.queue.capacity = capacity := Usage.capacity_of_run ran
    exact (apart_of_run ran).settles (kept ▸ positive)
  · -- One request makes one more operation wait, so the looks after it start from a narrow queue.
    obtain ⟨happenings, ran⟩ := path.exists_run
    have kept : reached.capacity = capacity := Usage.capacity_of_run ran
    have stepped : (Usage.mk reached asked).step (.ask request) =
      some ((reached.begin asked request).1, ⟨(reached.begin asked request).2, asked + 1⟩) := rfl
    have turn := Usage.turn_of_step stepped
    exact (turn.narrow_of_rests (kept ▸ positive) path.rests).settlesAlike
      (apart_of_run (Usage.run_snoc.2 ⟨_, _, ran, stepped⟩)) (turn.capacity.trans kept ▸ positive)

/-- A taker that comes to a full queue makes room for the submitter that waits there. -/
theorem settling_wakes_whoever_can_in_turn : ∃ queue reached : Queue Nat,
    Queue.create? 1 = some queue ∧ queue.Reached 2 reached ∧ reached.submitters = [(1, 11)] ∧
      (reached.begin 2 .next).2.SettlesAlike ∧
      (reached.begin 2 .next).2.pollAll [1, 2, 1] =
        ([(2, .taken 10), (1, .placed)], { reached with buffer := [11], submitters := [] }) := by
  -- The second submitter finds the queue full and waits, until the taker has made room for it.
  have made : Queue.create? 1 = some (.empty 1 : Queue Nat) := rfl
  have first : (Queue.empty 1 : Queue Nat).Reached 1 _ :=
    .settled (.submit 10) [0] .created (by decide +kernel)
  have path := first.settled (.submit 11) [] (by decide +kernel)
  exact ⟨_, _, made, path, rfl, (settling_wakes_whoever_can made).2 _ _ path .next, rfl⟩

/-- A queue with room for two records that is empty, with two submitters and two takers in line. -/
def crossing : List (Happening Nat) :=
  [.ask (.submit 10), .ask (.submit 11), .poll 0, .poll 1, .ask (.submit 12), .ask (.submit 13),
    .ask .next, .ask .next, .poll 4, .poll 5, .ask .next, .ask .next]

/-- Which records takers get may depend on who is looked at first. -/
theorem records_taken_by_order : ¬ ∀ capacity (queue : Queue Nat),
    Queue.create? capacity = some queue → ∀ happenings usage,
      (Usage.fresh queue).run happenings = some usage → ∀ first second,
        (usage.queue.pollAll first).2.Quiet → (usage.queue.pollAll second).2.Quiet →
          (usage.queue.pollAll first).1.Perm (usage.queue.pollAll second).1 := by
  intro same
  -- The taker 6 gets the record of whichever submitter is looked at first.
  have told := same 2 _ rfl crossing _ rfl [2, 3, 6, 7] [3, 2, 6, 7] (by decide +kernel)
    (by decide +kernel)
  have got : ((6, .taken 12) : Ticket × Outcome Nat) ∈
      [(3, .placed), (2, .placed), (6, .taken 13), (7, .taken 12)] :=
    told.mem_iff.1 (by decide +kernel)
  exact absurd got (by decide)

end InsightRelay.Queue
