/-! Bounded queues: records are accepted, wait for room, are taken, and are resolved at last.

Submitters and takers wait in lines, and each line is served from its front. -/

namespace InsightRelay

/-- Names an operation that may have to wait. -/
abbrev Ticket := Nat

/-- How work on a record ended. -/
inductive Resolution
  | published
  | failed
deriving DecidableEq, Repr

/-- A bounded queue with everything that waits on it. -/
structure Queue (α : Type) where
  capacity : Nat
  /-- Whether no more records are accepted. -/
  closed : Bool
  /-- How many records were accepted and are not resolved. -/
  pending : Nat
  submitted : Nat
  published : Nat
  failed : Nat
  /-- The records that have their places in the queue, in the order in which they are taken. -/
  buffer : List α
  /-- The submitters that wait for a place with the records they bring, the first come first. -/
  submitters : List (Ticket × α)
  /-- The takers that wait for their turn, the first come first. -/
  takers : List Ticket
  /-- Those that wait until no record is pending. -/
  barriers : List Ticket
deriving DecidableEq, Repr

namespace Queue

variable {α : Type}

/-- The greatest capacity a queue can have. -/
def greatestCapacity : Nat := 1 <<< 61 - 1

/-- The empty queue of a capacity. -/
def empty (capacity : Nat) : Queue α where
  capacity := capacity
  closed := false
  pending := 0
  submitted := 0
  published := 0
  failed := 0
  buffer := []
  submitters := []
  takers := []
  barriers := []

/-- The empty queue of a capacity, which has to be positive and not too great. -/
def create? (capacity : Nat) : Option (Queue α) :=
  if capacity = 0 ∨ greatestCapacity < capacity then none else some (empty capacity)

/-- How many places are free; the first submitters in line own them. -/
def room (queue : Queue α) : Nat :=
  queue.capacity - queue.buffer.length

/-- How many records have been resolved. -/
def resolved (queue : Queue α) : Nat :=
  queue.published + queue.failed

/-- One more record is accepted, unless the queue is closed. -/
def accept? (queue : Queue α) : Option (Queue α) :=
  -- To look and to count is one step, so no record is counted behind one that closes.
  if queue.closed then none
  else some { queue with pending := queue.pending + 1, submitted := queue.submitted + 1 }

/-- A submitter joins its line with the record that was accepted. -/
def joinSubmitters (queue : Queue α) (ticket : Ticket) (record : α) : Queue α :=
  { queue with submitters := queue.submitters ++ [(ticket, record)] }

/-- A submitter that owns a free place puts its record there and leaves the line. -/
def place? (queue : Queue α) (ticket : Ticket) : Option (Queue α) :=
  -- As many submitters own a place as places are free, counted from the front of the line.
  match (queue.submitters.take queue.room).find? fun entry => entry.1 == ticket with
  | some (_, record) => some { queue with
      buffer := queue.buffer ++ [record]
      submitters := queue.submitters.filter fun entry => entry.1 != ticket }
  | none => none

/-- A taker joins its line. -/
def joinTakers (queue : Queue α) (ticket : Ticket) : Queue α :=
  { queue with takers := queue.takers ++ [ticket] }

/-- The first taker takes the first record and leaves the line. -/
def take? (queue : Queue α) (ticket : Ticket) : Option (α × Queue α) :=
  match queue.takers, queue.buffer with
  | first :: takers, record :: buffer =>
    if first = ticket then some (record, { queue with takers := takers, buffer := buffer })
    else none
  | _, _ => none

/-- One that waits until no record is pending joins the others. -/
def joinBarriers (queue : Queue α) (ticket : Ticket) : Queue α :=
  { queue with barriers := queue.barriers ++ [ticket] }

/-- One that waited until no record is pending goes on. -/
def pass? (queue : Queue α) (ticket : Ticket) : Option (Queue α) :=
  if queue.pending = 0 ∧ ticket ∈ queue.barriers then
    some { queue with barriers := queue.barriers.filter (· != ticket) }
  else none

/-- A record that was taken is resolved. -/
def resolve (queue : Queue α) (resolution : Resolution) : Queue α :=
  match resolution with
  | .published => { queue with pending := queue.pending - 1, published := queue.published + 1 }
  | .failed => { queue with pending := queue.pending - 1, failed := queue.failed + 1 }

/-- No more records are accepted. -/
def close (queue : Queue α) : Queue α :=
  { queue with closed := true }

/-- A waiting operation is given up; what it has been counted for stays counted. -/
def leave (queue : Queue α) (ticket : Ticket) : Queue α :=
  { queue with
    submitters := queue.submitters.filter fun entry => entry.1 != ticket
    takers := queue.takers.filter (· != ticket)
    barriers := queue.barriers.filter (· != ticket) }

/-- The operations that wait, the oldest first when tickets are given out in order. -/
def waiting (queue : Queue α) : List Ticket :=
  (queue.submitters.map Prod.fst ++ queue.takers ++ queue.barriers).mergeSort

/-- The queue in a diagnostic text. -/
def describe (queue : Queue α) : String :=
  "WorkQueue \x7b capacity: " ++ toString queue.capacity ++ ", pending: " ++
    toString queue.pending ++ ", closed: " ++ (if queue.closed then "true" else "false") ++ ", .. \x7d"

end Queue

end InsightRelay
