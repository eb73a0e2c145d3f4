import InsightRelay.Client.Connection

/-! Scripted servers: the far side of a connection that answers as a script says. -/

namespace InsightRelay

open Message

/-- The way a session ends that has a number, where strange numbers say nothing. -/
def Completion.ofCode (code : Int32) : Completion :=
  if code = 1 then .success else if code = 2 then .failure else .unspecified

/-- Every way a session ends is the one that has its number. -/
theorem Completion.ofCode_code (completion : Completion) :
    Completion.ofCode completion.code = completion := by
  cases completion <;> decide

/-- The kind of the calls that are sent to a path. -/
def CallKind.ofPath? (path : String) : Option CallKind :=
  [CallKind.create, .publish, .complete].find? fun kind => kind.path == path

/-- The call that a message of a kind stands for. -/
def CallKind.call? (kind : CallKind) (body : Wire.Bytes) : Option Call :=
  match kind with
  | create => (CreateToolSessionRequest.codec.read body).map .create
  | publish => (PublishPackageInsightRequest.codec.read body).map .publish
  | complete => (CompleteToolSessionRequest.codec.read body).map fun request =>
    .complete ((request.toolSession.map (·.toolSessionId)).getD "") (.ofCode request.status)

/-- The answer that tells a caller of a reply. -/
def CallKind.answer (kind : CallKind) : Reply → ServerAnswer
  | .granted session =>
    match kind with
    | create => .ok (CreateToolSessionResponse.codec.write ⟨some ⟨session⟩⟩)
    | publish => .ok (PublishPackageInsightResponse.codec.write ⟨⟩)
    | complete => .ok (CompleteToolSessionResponse.codec.write ⟨⟩)
  | .refused (.rpc status) => .error status
  | .refused problem => .error ⟨.unknown, problem.message⟩
  | .crashed => .error ⟨.unavailable, ""⟩

/-- The call that an envelope holds. -/
def Envelope.call? (envelope : Envelope) : Option Call :=
  (CallKind.ofPath? envelope.path).bind fun kind => kind.call? envelope.body

/-- The server that follows a script and counts the sessions that were asked for. -/
def Script.server (script : Script) : Server Nat where
  answer created envelope :=
    -- What is no call of the service has no place in the script.
    match envelope.call? with
    | none => (.error ⟨.unimplemented, ""⟩, created)
    | some call =>
      let (reply, created) := script.reply created call
      (call.kind.answer reply, created)

end InsightRelay
