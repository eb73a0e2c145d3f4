import InsightRelay.Relay.Step

/-! The effort that is left in a relay: a bound on the steps and replies that can still follow when no
caller arrives. -/

namespace InsightRelay

/-- The effort for a batch: every record is offered, counted, put in line, placed, taken, dispatched and
published. -/
def Batch.effort (batch : Batch) : Nat :=
  10 * batch.remaining.length + 1

/-- The effort for what comes after a record is placed. -/
def Errand.effort : Errand → Nat
  | .single => 0
  | .batch records => records.effort

/-- Whether a task may still register a session. -/
def Stage.mayRegister : Stage → Bool
  | arriving _ => true
  | atDesk _ => true
  | checking _ => true
  | opening .. => true
  | _ => false

/-- The effort that is left for a task, given how many sessions and workers there may be at the end. -/
def Stage.effort (sessions workers : Nat) : Stage → Nat
  | seeking => 3
  | inLine looked => if looked then 1 else 2
  -- A worker asks for the next record when it is done with one, so its last steps are those of seeking.
  | dispatching _ => 5
  | publishing .. => 4
  | rested => 0
  | lost _ => 0
  -- What a record costs the workers is put on whoever brings it, until it is in the buffer.
  | offering _ errand => 9 + errand.effort
  | counted _ errand => 8 + errand.effort
  | placing errand => 7 + errand.effort
  | queueing batch => batch.effort
  -- A source brings at most one record for each entry.
  | arriving source => 10 * source.records.length + 5
  | atDesk source => 10 * source.records.length + 4
  | checking source => 10 * source.records.length + 3
  | opening source _ => 10 * source.records.length + 2
  -- One that finishes lets every worker go, a step each, and completes every session, two steps each.
  | toFinish => 2 * sessions + workers + 9
  | inFinishLine => 2 * sessions + workers + 8
  | draining _ => 2 * sessions + workers + 7
  | atBarrier _ => 2 * sessions + workers + 6
  | stopping _ => 2 * sessions + workers + 5
  | joining _ => 2 * sessions + workers + 4
  | collecting => 2 * sessions + 3
  | atDeskToCollect => 2 * sessions + 2
  | closing remaining _ => 2 * remaining.length + 1
  | completing _ remaining _ => 2 * remaining.length + 2
  | ended _ => 0

namespace Relay

/-- How many sessions may be registered when nobody can register another one. -/
def sessionBound (relay : Relay) : Nat :=
  relay.registry.count + (relay.tasks.filter Stage.mayRegister).length

/-- How many workers have not been seen to end. -/
def workerCount (relay : Relay) : Nat :=
  ((relay.pool.toList ++ relay.taken.map Prod.snd).flatMap Pool.workers).length

/-- The effort that is left in a relay. -/
def effort (relay : Relay) : Nat :=
  -- A record in the buffer belongs to no task, so it counts by itself.
  5 * relay.queue.buffer.length +
    (relay.tasks.map (Stage.effort relay.sessionBound relay.workerCount)).foldr (· + ·) 0

end Relay

end InsightRelay
