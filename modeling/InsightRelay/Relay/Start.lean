import InsightRelay.Relay.Schedule

/-! How a relay starts: the configuration is checked, a session for all manifests is opened unless each
has its own, the queue is made, and the workers begin. -/

namespace InsightRelay

/-- Why a relay does not start. -/
inductive StartFault
  | refused (problem : RelayError)
  /-- No queue can have the capacity that is asked for. -/
  | capacity
  /-- The service broke down when the session was to be opened. -/
  | crashed
deriving DecidableEq, Repr

namespace Relay

/-- The relay that starts out with the calls so far and the session for all manifests, if there is one. -/
def furnish (config : Config) (session : Option String) (journal : List Exchange) :
    Except StartFault Relay :=
  match Queue.create? config.queueCapacity with
  | none => .error .capacity
  | some queue =>
    let relay := { idle config queue with journal := journal }
    match session with
    | some session => .ok (relay.register globalKey session)
    | none => .ok relay

/-- The relay that a configuration calls for before its workers begin, with the calls that were made. -/
def prepare {σ : Type} (config : Config) (service : Service σ) (state : σ) :
    Except StartFault Relay × List Exchange × σ :=
  match config.validate with
  | .error problem => (.error (.refused problem), [], state)
  | .ok config =>
    -- Manifests that bring their own sessions leave nothing to open at the start.
    if config.multiProject then (furnish config none [], [], state)
    else
      match config.sessionRequest config.projectName with
      | .error problem => (.error (.refused problem), [], state)
      | .ok request =>
        let (reply, state) := service.reply state (.create request)
        let journal := [⟨none, .create request, reply⟩]
        let prepared := match reply with
          | .granted session => furnish config (some session) journal
          | .refused problem =>
            .error (.refused (.sessionCreationFailed config.projectName problem))
          | .crashed => .error .crashed
        (prepared, journal, state)

/-- A relay starts working for a configuration. -/
def start {σ : Type} (config : Config) (service : Service σ) (state : σ) :
    Except StartFault (Workshop σ) × List Exchange × σ :=
  let (prepared, journal, state) := prepare config service state
  (prepared.map fun relay =>
    Workshop.startWorkers ⟨relay, service, state, Gate.allOpen, []⟩ config.effectiveWorkerCount,
    journal, state)

end Relay

end InsightRelay
