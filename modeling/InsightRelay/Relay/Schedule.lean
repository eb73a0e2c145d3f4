import InsightRelay.Relay.Effort
import InsightRelay.Relay.Service

/-! A fixed schedule for relays: tasks run one at a time, in the order in which they were told to, and
each of them goes on until it has to wait. -/

namespace InsightRelay

/-- A gate before the service, at which calls of certain kinds are held up. -/
structure Gate where
  /-- The kinds that are held up. -/
  held : List CallKind
  /-- The tasks that wait at the gate, the first come first. -/
  line : List (CallKind × TaskId)
  /-- The tasks that have been let through. -/
  passed : List TaskId

/-- The gate that holds nothing up. -/
def Gate.allOpen : Gate := ⟨[], [], []⟩

/-- A relay at work with a service, with the tasks that are ready to go on. -/
structure Workshop (σ : Type) where
  relay : Relay
  service : Service σ
  state : σ
  gate : Gate
  /-- The tasks that may be able to go on; the first one is running. -/
  ready : List TaskId

namespace Workshop

variable {σ : Type}

/-- Tasks get ready, except for those that are ready already. -/
def wake (ready told : List TaskId) : List TaskId :=
  told.foldl (fun ready task => if ready.contains task then ready else ready ++ [task]) ready

/-- Whether the call of a task may go through the gate. -/
def mayPass (workshop : Workshop σ) (task : TaskId) (call : Call) : Bool :=
  !workshop.gate.held.contains call.kind || workshop.gate.passed.contains task

/-- The gate with a task waiting before it. -/
def Gate.await (gate : Gate) (kind : CallKind) (task : TaskId) : Gate :=
  if gate.line.contains (kind, task) then gate else { gate with line := gate.line ++ [(kind, task)] }

/-- One turn: the running task takes a step, or gets a reply, or stops running because it has to wait. -/
def turn (workshop : Workshop σ) : Workshop σ :=
  match workshop.ready with
  | [] => workshop
  | task :: rest =>
    match workshop.relay.advance task with
    | some (relay, told) => { workshop with relay := relay, ready := wake (task :: rest) told }
    | none =>
      -- A task that cannot go on by itself waits for the service or for other tasks.
      match workshop.relay.call? task with
      | none => { workshop with ready := rest }
      | some call =>
        if workshop.mayPass task call then
          let (reply, state) := workshop.service.reply workshop.state call
          let gate := { workshop.gate with
            passed := workshop.gate.passed.filter (· != task) }
          match workshop.relay.answer task reply with
          | some (relay, told) =>
            { workshop with
              relay := relay, state := state, gate := gate, ready := wake (task :: rest) told }
          | none => { workshop with state := state, gate := gate, ready := rest }
        else
          { workshop with gate := Gate.await workshop.gate call.kind task, ready := rest }

/-- A number of turns. -/
def turns (workshop : Workshop σ) : Nat → Workshop σ
  | 0 => workshop
  | count + 1 => if workshop.ready.isEmpty then workshop else workshop.turn.turns count

/-- Turns until no task is ready.

Every step and every reply lessens the effort and readies no more than all tasks, and every other turn
takes one task away, so this number of turns is enough. -/
def settle (workshop : Workshop σ) : Workshop σ :=
  workshop.turns
    (workshop.ready.length + (workshop.relay.effort + 1) * (workshop.relay.tasks.length + 2))

/-- A caller arrives, and everything that can go on goes on. -/
def arrive (workshop : Workshop σ) (demand : Demand) : Workshop σ × TaskId :=
  let (relay, task) := workshop.relay.arrive demand
  ({ workshop with relay := relay, ready := wake workshop.ready [task] }.settle, task)

/-- Workers start, and everything that can go on goes on. -/
def startWorkers (workshop : Workshop σ) (count : Nat) : Workshop σ :=
  let (relay, workers) := workshop.relay.startWorkers count
  -- A worker that is given up leaves the gate too.
  let gate := { workshop.gate with
    line := workshop.gate.line.filter fun entry => (relay.call? entry.2).isSome }
  { workshop with relay := relay, gate := gate, ready := wake workshop.ready workers }.settle

/-- Calls of a kind are held up from now on. -/
def hold (workshop : Workshop σ) (kind : CallKind) : Workshop σ :=
  { workshop with gate := { workshop.gate with held := kind :: workshop.gate.held } }

/-- Calls of a kind are let through, either the first ones or all of them and all later ones too. -/
def release (workshop : Workshop σ) (kind : CallKind) (count : Option Nat) : Workshop σ :=
  -- Each kind of calls has a line of its own within the line of all.
  let waiting := (workshop.gate.line.filter fun entry => entry.1 == kind).map Prod.snd
  let chosen := match count with
    | some count => waiting.take count
    | none => waiting
  let held := match count with
    | some _ => workshop.gate.held
    | none => workshop.gate.held.filter (· != kind)
  let gate : Gate := {
    held := held
    line := workshop.gate.line.filter fun entry => !chosen.contains entry.2
    passed := workshop.gate.passed ++ chosen }
  { workshop with gate := gate, ready := wake workshop.ready chosen }.settle

/-- The queue accepts no more records, and everything that can go on goes on. -/
def close (workshop : Workshop σ) : Workshop σ :=
  let relay := { workshop.relay with queue := workshop.relay.queue.close }
  { workshop with relay := relay, ready := wake workshop.ready relay.queue.barriers }.settle

end Workshop

end InsightRelay
