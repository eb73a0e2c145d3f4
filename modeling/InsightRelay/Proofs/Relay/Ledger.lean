import InsightRelay.Proofs.Relay.Balance

/-! Ledgers: what the history of a run says of the counters and of the records in the state that the
run leads to. -/

namespace InsightRelay.Relay

/-- The counters of a relay agree with its history and with what is in line, buffered and carried. -/
structure Counted (start : Relay) (actions : List Action) (relay : Relay) : Prop where
  submitted : relay.books.submitted = (start.accepted actions).length
  settled : relay.books.published + relay.books.failed = (start.resolved actions).length
  pending : relay.books.pending + (start.resolved actions).length =
    (start.accepted actions).length
  stock : relay.books.pending =
    relay.books.submitters.length + relay.books.buffer.length + relay.tally load
  credited : relay.books.submitted = relay.tally fun _ stage => stage.credit
  granted : relay.books.published = relay.books.granted
  failed : relay.books.failed =
    relay.books.refused + (start.routed actions).countP fun route => route.session.isNone

/-- How many accepted records are in line, buffered and carried. -/
def stock (relay : Relay) : Nat :=
  relay.books.submitters.length + relay.books.buffer.length + relay.tally load

/-- The counters of a relay after a run, by what they were before it and what its history tells. -/
structure Tallied (start : Relay) (actions : List Action) (relay : Relay) : Prop where
  submitted : relay.books.submitted = start.books.submitted + (start.accepted actions).length
  settled : relay.books.published + relay.books.failed =
    start.books.published + start.books.failed + (start.resolved actions).length
  stock : relay.stock + (start.resolved actions).length =
    start.stock + (start.accepted actions).length
  credited : relay.books.submitted + start.tally (fun _ stage => stage.credit) =
    start.books.submitted + relay.tally fun _ stage => stage.credit
  granted : relay.books.published + start.books.granted =
    start.books.published + relay.books.granted
  failed : relay.books.failed + start.books.refused =
    start.books.failed + relay.books.refused +
      (start.routed actions).countP fun route => route.session.isNone

/-- Whatever was in a part of a relay or came into it during a run is still there or has left it. -/
structure Carried (start : Relay) (actions : List Action) (relay : Relay) : Prop where
  accepted : ∀ record, (start.books.submitters.map Prod.snd).count record +
      start.books.buffer.count record + start.tally (loadCounted record) +
      ((start.accepted actions).map Prod.snd).count record =
    (relay.books.submitters.map Prod.snd).count record + relay.books.buffer.count record +
      relay.tally (loadCounted record) + ((start.dispatched actions).map Prod.snd).count record
  dispatched : ∀ entry, start.tally (loadFetched entry) + (start.dispatched actions).count entry =
    relay.tally (loadFetched entry) +
      ((start.routed actions).map fun route => (route.worker, route.record)).count entry
  routed : ∀ entry, start.tally (loadSent entry) + start.books.publications.count entry +
      ((start.routed actions).filterMap publication?).count entry =
    relay.tally (loadSent entry) + relay.books.publications.count entry
  resolved : ∀ entry, start.tally (loadHeld entry) + (start.dispatched actions).count entry =
    relay.tally (loadHeld entry) + (start.resolved actions).count entry

/-- Every record that came into a part of a relay is still there or has left it again. -/
structure Traced (start : Relay) (actions : List Action) (relay : Relay) : Prop where
  accepted : ∀ record, ((start.accepted actions).map Prod.snd).count record =
    (relay.books.submitters.map Prod.snd).count record + relay.books.buffer.count record +
      relay.tally (loadCounted record) + ((start.dispatched actions).map Prod.snd).count record
  dispatched : ∀ entry, (start.dispatched actions).count entry =
    relay.tally (loadFetched entry) +
      ((start.routed actions).map fun route => (route.worker, route.record)).count entry
  routed : ∀ entry, ((start.routed actions).filterMap publication?).count entry =
    relay.tally (loadSent entry) + relay.books.publications.count entry
  resolved : ∀ entry, (start.dispatched actions).count entry =
    relay.tally (loadHeld entry) + (start.resolved actions).count entry

/-- Nothing that was counted is under way: all of it went through every part of the relay. -/
structure Settled (start : Relay) (actions : List Action) (relay : Relay) : Prop where
  accepted : ((start.accepted actions).map Prod.snd).Perm ((start.dispatched actions).map Prod.snd)
  dispatched : (start.dispatched actions).Perm
    ((start.routed actions).map fun route => (route.worker, route.record))
  routed : ((start.routed actions).filterMap publication?).Perm relay.books.publications
  resolved : (start.dispatched actions).Perm (start.resolved actions)

section Runs

variable {config : Config} {start relay : Relay} {actions : List Action}

/-- The workers of a fresh relay carry nothing. -/
private theorem tally_fresh (fresh : Fresh config start) {weight : TaskId → Stage → Nat}
    (weightless : ∀ task, weight task .seeking = 0) : start.tally weight = 0 := by
  refine tally_eq_zero fun task stage at_ => ?_
  obtain rfl := fresh.seeking at_
  exact weightless task

/-- In a fresh relay nothing is counted, in line, buffered or published. -/
private theorem books_fresh (fresh : Fresh config start) :
    start.books = ⟨0, 0, 0, 0, [], [], [], 0, 0⟩ := by
  -- The journal may hold the opening of one session, which is no publication.
  rcases fresh.sessions with ⟨-, journal, -⟩ | ⟨-, request, session, -, journal, -⟩ <;>
    simp [books, fresh.queue, Queue.empty, journal, Exchange.publication?, Exchange.isPublished,
      Exchange.isRejected]

/-- A caller that arrives brings no accepted record. -/
@[simp] theorem stock_arrive (relay : Relay) (demand : Demand) :
    (relay.arrive demand).1.stock = relay.stock := by
  simp [stock, tally_arrive, load, pick, Cargo.record?]

/-- Wherever a run starts, the counters follow its history. -/
theorem tallied_of_run (lined : Lined start) (ran : start.run actions = some relay) :
    Tallied start actions relay := by
  -- Six counters are kept in step at once, since a move may change several of them.
  refine run_induction (Tallied start) ?initial ?arrive ?register ?move ran
  case initial => constructor <;> simp [accepted, resolved, routed, watch]
  case arrive =>
    intro past relay demand ran tallied
    -- Only the sums over all tasks see the new one, and it weighs nothing.
    constructor <;>
      simp only [books_arrive, stock_arrive, accepted, resolved, routed, watch_arrive ran,
        tally_arrive]
    · exact tallied.submitted
    · exact tallied.settled
    · exact tallied.stock
    · simpa using tallied.credited
    · exact tallied.granted
    · exact tallied.failed
  case register =>
    intro past relay key session ran tallied
    constructor <;> simp only [books_register, accepted, resolved, routed, watch_register ran]
    · exact tallied.submitted
    · exact tallied.settled
    · exact tallied.stock
    · exact tallied.credited
    · exact tallied.granted
    · exact tallied.failed
  case move =>
    intro past relay action task before after shared ran tallied acts at_ move stepped
    have lined := lined.run ran
    have flow := lined.flow at_ move
    -- What the move counts, and what it moves between the queue and its task.
    have loads := tally_move move.tasks at_ after load
    have credits := tally_move move.tasks at_ after fun _ stage => stage.credit
    have stocked := flow.stock lined
    have credit := flow.credit
    have submitted := flow.submitted
    have settled := flow.settled
    have granted := flow.granted
    have failed := flow.failed
    -- All that is left is arithmetic between the old counters and the new ones.
    obtain ⟨submitted', settled', stock', credited', granted', failed'⟩ := tallied
    constructor <;> simp only [stock, books_withStage, accepted, resolved, routed,
      watch_move ran acts at_ move stepped, List.length_append, List.countP_append] at * <;> omega

/-- Where all pending records were in line, buffered or carried, they are so after every run. -/
theorem pending_of_run (lined : Lined start) (stocked : start.books.pending = start.stock)
    (ran : start.run actions = some relay) : relay.books.pending = relay.stock := by
  -- The entry of a record moves from place to place in the stock, and leaves it with its resolution.
  refine run_induction (fun _ relay => relay.books.pending = relay.stock) stocked
    ?arrive ?register ?move ran
  case arrive =>
    intro past relay demand _ ih
    rw [books_arrive, stock_arrive, ih]
  case register => exact fun past relay key session _ ih => ih
  case move =>
    intro past relay action task before after shared ran ih _ at_ move _
    have lined := lined.run ran
    have flow := lined.flow at_ move
    have loads := tally_move move.tasks at_ after load
    have stocked := flow.stock lined
    -- Both sides change by the same flow.
    have pending := flow.pending
    simp only [stock, books_withStage] at ih ⊢
    omega

/-- After every run the counters agree with the history. -/
theorem counted_of_run (fresh : Fresh config start) (ran : start.run actions = some relay) :
    Counted start actions relay := by
  -- At the start nothing is counted, and nobody carries anything.
  have zero := books_fresh fresh
  have free : start.tally load = 0 := tally_fresh fresh fun _ => rfl
  have none_ : start.stock = 0 := by simp [stock, zero, free]
  have uncredited : start.tally (fun _ stage => stage.credit) = 0 := tally_fresh fresh fun _ => rfl
  have pending := pending_of_run fresh.lined (by rw [zero, none_]) ran
  obtain ⟨submitted, settled, stocked, credited, granted, failed⟩ := tallied_of_run fresh.lined ran
  simp only [zero, none_, uncredited, Nat.zero_add, Nat.add_zero] at *
  exact ⟨submitted, settled, by omega, pending, credited, granted, failed⟩

/-- Wherever a run starts, it leaves each record where its history does. -/
theorem carried_of_run (lined : Lined start) (ran : start.run actions = some relay) :
    Carried start actions relay := by
  -- Each place holds what came to it less what went on from there, entry by entry.
  refine run_induction (Carried start) ?initial ?arrive ?register ?move ran
  case initial =>
    constructor <;> intro entry <;> simp [accepted, dispatched, routed, resolved, watch]
  case arrive =>
    intro past relay demand ran carried
    -- A caller that has just arrived carries no record.
    constructor <;> intro entry <;>
      simp only [books_arrive, accepted, dispatched, resolved, routed, watch_arrive ran,
        tally_arrive]
    · simpa [accepted, dispatched, loadCounted, pick] using carried.accepted entry
    · simpa [dispatched, routed, loadFetched, pick] using carried.dispatched entry
    · simpa [routed, loadSent, pick, Cargo.request?] using carried.routed entry
    · simpa [dispatched, resolved, loadHeld, pick, Cargo.held?, Cargo.record?] using
        carried.resolved entry
  case register =>
    intro past relay key session ran carried
    constructor <;> intro entry <;>
      simp only [books_register, accepted, dispatched, resolved, routed, watch_register ran]
    · exact carried.accepted entry
    · exact carried.dispatched entry
    · exact carried.routed entry
    · exact carried.resolved entry
  case move =>
    intro past relay action task before after shared ran carried acts at_ move stepped
    have lined := lined.run ran
    have flow := lined.flow at_ move
    have look {α : Type} (look : Relay → TaskId → Stage → Stage → List α) :
        start.watch look (past ++ [action]) =
          start.watch look past ++ look relay task before after :=
      watch_move ran acts at_ move stepped
    -- Each balance is the one before, what the move hands on, and the weights of its two stages.
    constructor <;> intro entry <;>
      simp only [books_withStage, accepted, dispatched, resolved, routed, look, List.map_append,
        List.filterMap_append, List.count_append]
    · have flown := flow.accepted lined entry
      have kept := carried.accepted entry
      have loads := tally_move move.tasks at_ after (loadCounted entry)
      simp only [accepted, dispatched] at kept
      omega
    · have flown := flow.dispatched entry
      have kept := carried.dispatched entry
      have loads := tally_move move.tasks at_ after (loadFetched entry)
      simp only [dispatched, routed] at kept
      omega
    · have flown := flow.routed entry
      have kept := carried.routed entry
      have loads := tally_move move.tasks at_ after (loadSent entry)
      simp only [routed] at kept
      omega
    · have flown := flow.resolved entry
      have kept := carried.resolved entry
      have loads := tally_move move.tasks at_ after (loadHeld entry)
      simp only [dispatched, resolved] at kept
      omega

/-- After every run each record is where its history leaves it. -/
theorem traced_of_run (fresh : Fresh config start) (ran : start.run actions = some relay) :
    Traced start actions relay := by
  -- A fresh relay has no record anywhere, so only what comes during the run counts.
  have carried := carried_of_run fresh.lined ran
  have zero := books_fresh fresh
  constructor <;> intro entry
  · have none_ : start.tally (loadCounted entry) = 0 := tally_fresh fresh fun _ => rfl
    simpa [zero, none_] using carried.accepted entry
  · have none_ : start.tally (loadFetched entry) = 0 :=
      tally_fresh fresh fun _ => by simp [loadFetched, pick, Stage.cargo]
    simpa [none_] using carried.dispatched entry
  · have none_ : start.tally (loadSent entry) = 0 :=
      tally_fresh fresh fun _ => by simp [loadSent, pick, Stage.cargo, Cargo.request?]
    simpa [zero, none_] using carried.routed entry
  · have none_ : start.tally (loadHeld entry) = 0 :=
      tally_fresh fresh fun _ => by simp [loadHeld, pick, Stage.cargo, Cargo.held?, Cargo.record?]
    simpa [none_] using carried.resolved entry

/-- Where no record is pending, no task has any. -/
theorem cargo_of_pending (fresh : Fresh config start) (ran : start.run actions = some relay)
    (drained : relay.queue.pending = 0) {task : TaskId} {stage : Stage}
    (at_ : relay.stage? task = some stage) : stage.cargo.record? = none := by
  -- The pending records are all those in line, buffered and carried.
  have stock := (counted_of_run fresh ran).stock
  have zero : relay.books.pending = 0 := drained
  have weightless := weight_eq_zero (by omega : relay.tally load = 0) at_
  simpa [load, pick] using weightless

/-- Where no record is pending, every one that was counted was handed on and resolved. -/
theorem settled_of_pending (fresh : Fresh config start) (ran : start.run actions = some relay)
    (drained : relay.queue.pending = 0) : Settled start actions relay := by
  have stock := (counted_of_run fresh ran).stock
  have zero : relay.books.pending = 0 := drained
  -- With no pending record the line and the buffer are empty, and all hands are.
  have noLine : relay.books.submitters = [] := List.eq_nil_of_length_eq_zero (by omega)
  have noBuffer : relay.books.buffer = [] := List.eq_nil_of_length_eq_zero (by omega)
  have empty (task : TaskId) (stage : Stage) (at_ : relay.stage? task = some stage) :
      stage.cargo.record? = none := cargo_of_pending fresh ran drained at_
  have traced := traced_of_run fresh ran
  -- Every balance has lost its middle terms.
  refine ⟨List.perm_iff_count.2 fun record => ?_, List.perm_iff_count.2 fun entry => ?_,
    List.perm_iff_count.2 fun entry => ?_, List.perm_iff_count.2 fun entry => ?_⟩
  · have gone : relay.tally (loadCounted record) = 0 := tally_eq_zero fun task stage at_ => by
      have none_ := empty task stage at_
      simp only [loadCounted, pick, ite_eq_right_iff]
      intro same
      -- A hand that weighed anything would hold the record.
      simp [same, Cargo.record?] at none_
    simpa [noLine, noBuffer, gone] using traced.accepted record
  · have gone : relay.tally (loadFetched entry) = 0 := tally_eq_zero fun task stage at_ => by
      have none_ := empty task stage at_
      simp only [loadFetched, pick, ite_eq_right_iff]
      intro same
      simp [same.2, Cargo.record?] at none_
    simpa [gone] using traced.dispatched entry
  · have gone : relay.tally (loadSent entry) = 0 := tally_eq_zero fun task stage at_ => by
      have none_ := empty task stage at_
      cases cargo : stage.cargo <;> simp_all [loadSent, pick, Cargo.request?, Cargo.record?]
    simpa [gone] using traced.routed entry
  · have gone : relay.tally (loadHeld entry) = 0 := tally_eq_zero fun task stage at_ => by
      have none_ := empty task stage at_
      cases cargo : stage.cargo <;> simp_all [loadHeld, pick, Cargo.held?, Cargo.record?]
    simpa [gone] using traced.resolved entry

end Runs

end InsightRelay.Relay
