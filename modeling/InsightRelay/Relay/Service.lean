import InsightRelay.Relay.Call

/-! Services as a relay sees them, and scripted ones to rehearse with. -/

namespace InsightRelay

/-- A service with an inner state, which replies to one call after the other. -/
structure Service (σ : Type) where
  reply : σ → Call → Reply × σ

/-- A failure that a script calls for. -/
inductive Mishap
  | refuse (problem : RelayError)
  | crash
deriving DecidableEq, Repr

/-- The reply that a failure comes to. -/
def Mishap.reply : Mishap → Reply
  | refuse problem => .refused problem
  | crash => .crashed

/-- What a scripted service does. -/
structure Script where
  /-- What comes of each request for a session in turn: a session, or a failure, or the usual session. -/
  create : List (Option (Except Mishap String))
  /-- The failures of publishing, by package name. -/
  publishMishaps : List (String × Mishap)
  /-- The failures of completing, by session. -/
  completeMishaps : List (String × Mishap)

namespace Script

/-- The script in which everything succeeds. -/
def smooth : Script := ⟨[], [], []⟩

/-- The name of the package that a request publishes. -/
def packageName (request : Message.PublishPackageInsightRequest) : String :=
  ((request.packageVersion.bind fun version => version.package).map fun package =>
    package.name).getD ""

/-- The failure that is listed for a name. -/
def mishap? (mishaps : List (String × Mishap)) (name : String) : Option Mishap :=
  (mishaps.find? fun entry => entry.1 == name).map Prod.snd

/-- The reply to a call, when a number of sessions were asked for before. -/
def reply (script : Script) (created : Nat) : Call → Reply × Nat
  | .create _ =>
    let usual : Reply := .granted ("session-" ++ toString (created + 1))
    -- Every request moves the script on, whatever comes of it.
    match (script.create[created]?).join with
    | some (.ok session) => (.granted session, created + 1)
    | some (.error mishap) => (mishap.reply, created + 1)
    | none => (usual, created + 1)
  | .publish request =>
    (((mishap? script.publishMishaps (packageName request)).map Mishap.reply).getD (.granted ""),
      created)
  | .complete session _ =>
    (((mishap? script.completeMishaps session).map Mishap.reply).getD (.granted ""), created)

/-- The service that follows a script. -/
def service (script : Script) : Service Nat :=
  ⟨script.reply⟩

end Script

end InsightRelay
