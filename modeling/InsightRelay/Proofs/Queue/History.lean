import InsightRelay.Proofs.Queue.Basic
import InsightRelay.Queue.Settle
import Mathlib.Data.List.Induction
import Mathlib.Data.List.Infix

/-! Histories of a queue: what is asked of it, what it tells, and who gives up while waiting.

Requests and looks at the operations that wait follow each other in any order, so nothing is
assumed about which of several operations goes on first. -/

namespace InsightRelay.Queue

variable {α β : Type}

/-- What can happen to a queue. -/
inductive Happening (α : Type)
  /-- Something is asked of it. -/
  | ask (request : Request α)
  /-- An operation that waits is looked at, and ends. -/
  | poll (ticket : Ticket)
deriving DecidableEq, Repr

/-- The request that is made when something happens, if one is made. -/
def Happening.request? : Happening α → Option (Request α)
  | ask request => some request
  | poll _ => none

/-- The requests that are made while things happen; the position of a request is its ticket. -/
def requests (happenings : List (Happening α)) : List (Request α) :=
  happenings.filterMap Happening.request?

/-- The record that an operation ends with, if it ends with one. -/
def Outcome.record? : Outcome α → Option α
  | taken record => some record
  | _ => none

/-- Whether an operation waits in one of the lines. -/
def Waits (queue : Queue α) (ticket : Ticket) : Prop :=
  ticket ∈ queue.submitters.map Prod.fst ∨ ticket ∈ queue.takers ∨ ticket ∈ queue.barriers

instance (queue : Queue α) (ticket : Ticket) : Decidable (queue.Waits ticket) :=
  inferInstanceAs (Decidable (_ ∨ _ ∨ _))

/-- A queue in use. -/
structure Usage (α : Type) where
  queue : Queue α
  /-- How many requests have been made. -/
  asked : Nat
deriving DecidableEq, Repr

namespace Usage

/-- Something happens, and the operations that end with it are told. -/
def step (usage : Usage α) (happening : Happening α) :
    Option (List (Ticket × Outcome α) × Usage α) :=
  match happening with
  | .ask request =>
    let (told, queue) := usage.queue.begin usage.asked request
    some (told, ⟨queue, usage.asked + 1⟩)
  | .poll ticket =>
    (usage.queue.poll ticket).map fun (outcome, queue) =>
      ([(ticket, outcome)], ⟨queue, usage.asked⟩)

/-- Things happen one after the other. -/
def run (usage : Usage α) : (happenings : List (Happening α)) → Option (Usage α)
  | [] => some usage
  | happening :: happenings =>
    (usage.step happening).bind fun (_, next) => next.run happenings

/-- What a run shows to one who looks at each happening and at what it tells. -/
def watch (look : Usage α → Happening α → List (Ticket × Outcome α) → List β) (usage : Usage α) :
    (happenings : List (Happening α)) → List β
  | [] => []
  | happening :: happenings =>
    match usage.step happening with
    | none => []
    | some (told, next) => look usage happening told ++ next.watch look happenings

/-- A record is accepted: its submitter is not told at once that it is refused. -/
def seeAccepted (usage : Usage α) (happening : Happening α) (told : List (Ticket × Outcome α)) :
    List (Ticket × α) :=
  match happening, told with
  | .ask (.submit record), [] => [(usage.asked, record)]
  | _, _ => []

/-- A record gets its place. -/
def seePlaced (usage : Usage α) (happening : Happening α) (_ : List (Ticket × Outcome α)) :
    List (Ticket × α) :=
  match happening with
  | .poll ticket => ((usage.queue.owned? ticket).map fun record => (ticket, record)).toList
  | .ask _ => []

/-- A taker joins its line. -/
def seeSought (usage : Usage α) (happening : Happening α) (_ : List (Ticket × Outcome α)) :
    List Ticket :=
  match happening with
  | .ask .next => [usage.asked]
  | _ => []

/-- An operation is given up while it waits. -/
def seeAbandoned (usage : Usage α) (happening : Happening α) (_ : List (Ticket × Outcome α)) :
    List Ticket :=
  match happening with
  | .ask (.cancel ticket) => if usage.queue.Waits ticket then [ticket] else []
  | _ => []

/-- The operations that end during a run, and how. -/
def ended (start : Usage α) (happenings : List (Happening α)) : List (Ticket × Outcome α) :=
  start.watch (fun _ _ told => told) happenings

/-- The records that are accepted during a run, with the tickets of their submitters. -/
def accepted (start : Usage α) (happenings : List (Happening α)) : List (Ticket × α) :=
  start.watch seeAccepted happenings

/-- The records that get their places during a run. -/
def placed (start : Usage α) (happenings : List (Happening α)) : List (Ticket × α) :=
  start.watch seePlaced happenings

/-- The takers that come during a run. -/
def sought (start : Usage α) (happenings : List (Happening α)) : List Ticket :=
  start.watch seeSought happenings

/-- The operations that are given up during a run while they wait. -/
def abandoned (start : Usage α) (happenings : List (Happening α)) : List Ticket :=
  start.watch seeAbandoned happenings

/-- The records that are taken during a run, with their takers. -/
def delivered (start : Usage α) (happenings : List (Happening α)) : List (Ticket × α) :=
  (start.ended happenings).filterMap fun (ticket, outcome) =>
    outcome.record?.map fun record => (ticket, record)

/-- The accepted records whose submitters did not give up while they waited. -/
def kept (start : Usage α) (happenings : List (Happening α)) : List (Ticket × α) :=
  (start.accepted happenings).filter fun entry => entry.1 ∉ start.abandoned happenings

/-- The takers that did not give up while they waited. -/
def served (start : Usage α) (happenings : List (Happening α)) : List Ticket :=
  (start.sought happenings).filter (· ∉ start.abandoned happenings)

/-- What holds of every moment of a run, and of what has happened before it. -/
def Always (Holds : List (Happening α) → Usage α → Prop) (start : Usage α)
    (happenings : List (Happening α)) : Prop :=
  ∀ past ∈ happenings.inits, ∀ usage ∈ start.run past, Holds past usage

instance (Holds : List (Happening α) → Usage α → Prop) [∀ past usage, Decidable (Holds past usage)]
    (start : Usage α) (happenings : List (Happening α)) :
    Decidable (start.Always Holds happenings) :=
  inferInstanceAs (Decidable (∀ past ∈ happenings.inits, ∀ usage ∈ start.run past, _))

/-- The ways in which a queue in use can change. -/
inductive Turn (usage : Usage α) :
    (happening : Happening α) → (told : List (Ticket × Outcome α)) → (next : Usage α) → Prop
  | accept (record : α) (opened : usage.queue.closed = false) :
    Turn usage (.ask (.submit record)) [] ⟨{ usage.queue with
      pending := usage.queue.pending + 1
      submitted := usage.queue.submitted + 1
      submitters := usage.queue.submitters ++ [(usage.asked, record)] }, usage.asked + 1⟩
  | refuse (record : α) (closed : usage.queue.closed = true) :
    Turn usage (.ask (.submit record)) [(usage.asked, .refused)] ⟨usage.queue, usage.asked + 1⟩
  | seek :
    Turn usage (.ask .next) [] ⟨{ usage.queue with
      takers := usage.queue.takers ++ [usage.asked] }, usage.asked + 1⟩
  | await :
    Turn usage (.ask .waitDrained) [] ⟨{ usage.queue with
      barriers := usage.queue.barriers ++ [usage.asked] }, usage.asked + 1⟩
  | resolve (resolution : Resolution) (published failed : Nat)
    (counted : published + failed = usage.queue.resolved + 1) :
    Turn usage (.ask (.resolve resolution)) [] ⟨{ usage.queue with
      pending := usage.queue.pending - 1
      published := published
      failed := failed }, usage.asked + 1⟩
  | close :
    Turn usage (.ask .close) [] ⟨{ usage.queue with closed := true }, usage.asked + 1⟩
  | cancel (ticket : Ticket) :
    Turn usage (.ask (.cancel ticket)) [] ⟨usage.queue.leave ticket, usage.asked + 1⟩
  | place {ticket : Ticket} {record : α} (owned : usage.queue.owned? ticket = some record) :
    Turn usage (.poll ticket) [(ticket, .placed)] ⟨{ usage.queue with
      buffer := usage.queue.buffer ++ [record]
      submitters := usage.queue.submitters.filter fun entry => entry.1 != ticket }, usage.asked⟩
  | take {ticket : Ticket} {record : α} {takers : List Ticket} {buffer : List α}
    (unplaced : usage.queue.owned? ticket = none)
    (inLine : usage.queue.takers = ticket :: takers)
    (stored : usage.queue.buffer = record :: buffer) :
    Turn usage (.poll ticket) [(ticket, .taken record)] ⟨{ usage.queue with
      takers := takers
      buffer := buffer }, usage.asked⟩
  | pass {ticket : Ticket} (unplaced : usage.queue.owned? ticket = none)
    (idle : usage.queue.pending = 0) (waits : ticket ∈ usage.queue.barriers) :
    Turn usage (.poll ticket) [(ticket, .drained)] ⟨{ usage.queue with
      barriers := usage.queue.barriers.filter (· != ticket) }, usage.asked⟩

variable {start usage next : Usage α} {past : List (Happening α)} {happening : Happening α}
variable {told : List (Ticket × Outcome α)}

/-- Whatever happens changes a queue in one of these ways. -/
theorem turn_of_step (stepped : usage.step happening = some (told, next)) :
    Turn usage happening told next := by
  -- The operations that wait are told apart by what they wait for, a place before all else.
  cases happening with
  | ask request =>
    obtain ⟨rfl, rfl⟩ : (usage.queue.begin usage.asked request).1 = told ∧
        (⟨(usage.queue.begin usage.asked request).2, usage.asked + 1⟩ : Usage α) = next := by
      simpa [step] using stepped
    cases request with
    | submit record =>
      cases closed : usage.queue.closed with
      | true => simpa [begin, accept?, closed] using Turn.refuse record closed
      | false => simpa [begin, accept?, joinSubmitters, closed] using Turn.accept record closed
    | next => exact .seek
    -- Requests that end at once have one way each.
    | waitDrained => exact .await
    | resolve resolution =>
      cases resolution with
      | published => exact .resolve _ _ _ (by simp only [resolved]; omega)
      | failed => exact .resolve _ _ _ (by simp only [resolved]; omega)
    | close => exact .close
    | cancel ticket => exact .cancel ticket
  | poll ticket =>
    obtain ⟨⟨outcome, queue⟩, polled, same⟩ := Option.map_eq_some_iff.1 stepped
    obtain ⟨rfl, rfl⟩ := Prod.mk.inj same
    simp only [poll, place?_eq] at polled
    -- Whoever owns a place is looked at as a submitter, and all others may take a record or pass.
    cases owned : usage.queue.owned? ticket with
    | some record =>
      simp only [owned, Option.map_some, Option.some.injEq, Prod.mk.injEq] at polled
      obtain ⟨rfl, rfl⟩ := polled
      exact .place owned
    | none =>
      simp only [owned, Option.map_none] at polled
      split at polled
      · -- A taker is the first of its line, and there is a record for it.
        next record after taken =>
        obtain ⟨rfl, rfl⟩ := Prod.mk.inj (Option.some.inj polled)
        obtain ⟨takers, buffer, inLine, stored, rfl⟩ := eq_of_take? taken
        exact .take owned inLine stored
      · obtain ⟨after, passed, same⟩ := Option.map_eq_some_iff.1 polled
        obtain ⟨rfl, rfl⟩ := Prod.mk.inj same
        obtain ⟨idle, rfl⟩ := eq_of_pass? passed
        exact .pass owned idle (mem_of_pass? passed)

/-- A run goes on from what its first happening leaves. -/
theorem run_cons (stepped : start.step happening = some (told, next))
    (happenings : List (Happening α)) :
    start.run (happening :: happenings) = next.run happenings := by
  simp [run, stepped]

/-- A run shows what its first happening shows before all else. -/
theorem watch_cons {look : Usage α → Happening α → List (Ticket × Outcome α) → List β}
    (stepped : start.step happening = some (told, next)) (happenings : List (Happening α)) :
    start.watch look (happening :: happenings) =
      look start happening told ++ next.watch look happenings := by
  simp [watch, stepped]

/-- A run is a shorter run and one more happening. -/
theorem run_snoc :
    start.run (past ++ [happening]) = some next ↔
      ∃ usage told, start.run past = some usage ∧ usage.step happening = some (told, next) := by
  -- A run is told from the front, so its end is found by walking along it.
  induction past generalizing start with
  | nil => simp [run, Option.bind_eq_some_iff]
  | cons first past ih =>
    simp only [List.cons_append, run, Option.bind_eq_some_iff, ih]
    grind

/-- What holds at the start and outlasts everything that can happen holds after every run. -/
theorem run_induction (Holds : List (Happening α) → Usage α → Prop) (initial : Holds [] start)
    (turn : ∀ past usage happening told next, start.run past = some usage → Holds past usage →
      usage.step happening = some (told, next) → Turn usage happening told next →
      Holds (past ++ [happening]) next)
    {happenings : List (Happening α)} (ran : start.run happenings = some usage) :
    Holds happenings usage := by
  -- The induction takes the last happening off, as histories grow at their ends.
  induction happenings using List.reverseRecOn generalizing usage with
  | nil =>
    obtain rfl : start = usage := by simpa [run] using ran
    exact initial
  | append_singleton past happening ih =>
    obtain ⟨before, told, began, stepped⟩ := run_snoc.1 ran
    exact turn past before happening told usage began (ih began) stepped (turn_of_step stepped)

/-- A run can be taken up where another one ended. -/
theorem run_append (ran : start.run past = some usage) (more : List (Happening α)) :
    start.run (past ++ more) = usage.run more := by
  -- The usage that the second part starts from is the one the first part ended with.
  induction past generalizing start with
  | nil =>
    obtain rfl : start = usage := by simpa [run] using ran
    rfl
  | cons first past ih =>
    obtain ⟨⟨earlier, second⟩, began, rest⟩ := Option.bind_eq_some_iff.1 ran
    rw [List.cons_append, run_cons began]
    exact ih rest

/-- A run that is taken up shows what there is to see of it from there on. -/
theorem watch_append {look : Usage α → Happening α → List (Ticket × Outcome α) → List β}
    (ran : start.run past = some usage) (more : List (Happening α)) :
    start.watch look (past ++ more) = start.watch look past ++ usage.watch look more := by
  -- What is shown is told from the front, so the start of the run moves along.
  induction past generalizing start with
  | nil =>
    obtain rfl : start = usage := by simpa [run] using ran
    rfl
  | cons first past ih =>
    obtain ⟨⟨earlier, second⟩, began, rest⟩ := Option.bind_eq_some_iff.1 ran
    rw [List.cons_append, watch_cons began, watch_cons began, ih rest, List.append_assoc]

/-- One more happening shows what there is to see of it. -/
theorem watch_snoc {look : Usage α → Happening α → List (Ticket × Outcome α) → List β}
    (ran : start.run past = some usage) (stepped : usage.step happening = some (told, next)) :
    start.watch look (past ++ [happening]) =
      start.watch look past ++ look usage happening told := by
  rw [watch_append ran, watch_cons stepped, watch, List.append_nil]

/-- What always holds has held before the last happening. -/
theorem Always.earlier {Holds : List (Happening α) → Usage α → Prop}
    (always : start.Always Holds (past ++ [happening])) : start.Always Holds past :=
  fun before member => always before <| by
    rw [List.mem_inits] at member ⊢
    exact member.trans (List.prefix_append ..)

/-- What always holds does so at the end. -/
theorem Always.last {Holds : List (Happening α) → Usage α → Prop}
    (always : start.Always Holds past) (ran : start.run past = some usage) : Holds past usage :=
  always past ((List.mem_inits ..).2 (List.prefix_refl past)) usage ran

/-- What holds at the start holds always while nothing happens. -/
theorem always_nil {Holds : Usage α → Prop} : start.Always (fun _ => Holds) [] ↔ Holds start := by
  simp [Always, run]

/-- What holds before something happens and always from then on holds always. -/
theorem always_cons {Holds : Usage α → Prop} :
    start.Always (fun _ => Holds) (happening :: past) ↔
      Holds start ∧ ∀ told next, start.step happening = some (told, next) →
        next.Always (fun _ => Holds) past := by
  -- The moments of the longer run are its start and those of the run from the next moment on.
  simp only [Always, List.inits_cons, List.mem_cons, List.mem_map]
  constructor
  · intro always
    refine ⟨always [] (.inl rfl) start rfl, fun told next stepped before member usage ran => ?_⟩
    exact always _ (.inr ⟨before, member, rfl⟩) usage (by simp [run, stepped, ran])
  · rintro ⟨now, later⟩ _ (rfl | ⟨before, member, rfl⟩) usage ran
    · exact Option.some.inj ran ▸ now
    · obtain ⟨⟨told, next⟩, stepped, rest⟩ := Option.bind_eq_some_iff.1 ran
      exact later told next stepped before member usage rest

/-- What holds always during a run, and always when the run is taken up, holds always. -/
theorem Always.append {Holds : Usage α → Prop} {more : List (Happening α)}
    (always : start.Always (fun _ => Holds) past) (ran : start.run past = some usage)
    (further : usage.Always (fun _ => Holds) more) :
    start.Always (fun _ => Holds) (past ++ more) := by
  -- What always holds is carried to the place where the run is taken up.
  induction past generalizing start with
  | nil =>
    obtain rfl : start = usage := by simpa [run] using ran
    exact further
  | cons first past ih =>
    obtain ⟨now, later⟩ := always_cons.1 always
    refine always_cons.2 ⟨now, fun told next stepped => ih (later told next stepped) ?_⟩
    simpa [run, stepped] using ran

end Usage

end InsightRelay.Queue
