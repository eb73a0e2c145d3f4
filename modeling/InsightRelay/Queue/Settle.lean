import InsightRelay.Queue.Basic

/-! Operations on a queue one after the other, where after each of them everything that can go on
goes on. -/

namespace InsightRelay.Queue

variable {α : Type}

/-- How an operation that may have to wait ends. -/
inductive Outcome (α : Type)
  /-- A record has its place. -/
  | placed
  /-- A record was not accepted. -/
  | refused
  /-- A record was taken. -/
  | taken (record : α)
  /-- No record is pending. -/
  | drained
deriving DecidableEq, Repr

/-- A waiting operation is looked at, and ends if it can. -/
def poll (queue : Queue α) (ticket : Ticket) : Option (Outcome α × Queue α) :=
  match queue.place? ticket with
  | some queue => some (.placed, queue)
  -- A ticket is in one line at most, so the order of the three looks does not matter.
  | none =>
    match queue.take? ticket with
    | some (record, queue) => some (.taken record, queue)
    | none => (queue.pass? ticket).map fun queue => (.drained, queue)

/-- Operations are looked at in turn, and those that end are told in order. -/
def pollAll (queue : Queue α) : (tickets : List Ticket) → List (Ticket × Outcome α) × Queue α
  | [] => ([], queue)
  | ticket :: tickets =>
    match queue.poll ticket with
    | some (outcome, queue) =>
      let (ended, queue) := queue.pollAll tickets
      ((ticket, outcome) :: ended, queue)
    | none => queue.pollAll tickets

/-- All waiting operations are looked at for a number of rounds, or until a round ends none. -/
def settleWithin (queue : Queue α) : (rounds : Nat) → List (Ticket × Outcome α) × Queue α
  | 0 => ([], queue)
  | rounds + 1 =>
    match queue.pollAll queue.waiting with
    | ([], queue) => ([], queue)
    | (ended, queue) =>
      let (more, queue) := queue.settleWithin rounds
      (ended ++ more, queue)

/-- All waiting operations are looked at until a round ends none of them.

Every round but the last ends an operation, so there are no more rounds than operations. -/
def settle (queue : Queue α) : List (Ticket × Outcome α) × Queue α :=
  queue.settleWithin (queue.waiting.length + 1)

/-- What can be asked of a queue. -/
inductive Request (α : Type)
  | submit (record : α)
  | next
  | waitDrained
  | resolve (resolution : Resolution)
  | close
  | cancel (ticket : Ticket)
deriving DecidableEq, Repr

/-- The first effect of a request: it ends at once, or it joins those that wait. -/
def begin (queue : Queue α) (ticket : Ticket) (request : Request α) :
    List (Ticket × Outcome α) × Queue α :=
  match request with
  | .submit record =>
    match queue.accept? with
    | some queue => ([], queue.joinSubmitters ticket record)
    | none => ([(ticket, .refused)], queue)
  | .next => ([], queue.joinTakers ticket)
  | .waitDrained => ([], queue.joinBarriers ticket)
  | .resolve resolution => ([], queue.resolve resolution)
  | .close => ([], queue.close)
  | .cancel other => ([], queue.leave other)

/-- A request is made, and everything that can go on goes on. -/
def perform (queue : Queue α) (ticket : Ticket) (request : Request α) :
    List (Ticket × Outcome α) × Queue α :=
  -- What the request itself ends comes before all that it lets go on.
  let (ended, queue) := queue.begin ticket request
  let (more, queue) := queue.settle
  (ended ++ more, queue)

/-- Requests are made one after the other, their tickets counting up from a first one. -/
def performAll (queue : Queue α) (first : Ticket) :
    (requests : List (Request α)) → List (Ticket × Outcome α) × Queue α
  | [] => ([], queue)
  | request :: requests =>
    let (ended, queue) := queue.perform first request
    let (more, queue) := queue.performAll (first + 1) requests
    (ended ++ more, queue)

end InsightRelay.Queue
