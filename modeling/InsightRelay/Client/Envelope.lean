import InsightRelay.Client.Header
import InsightRelay.Client.RequestId
import InsightRelay.Relay.Call

/-! Envelopes: what is sent for a call of the service, and what an answer to it means. -/

namespace InsightRelay

open Message

/-- What is sent for one call. -/
structure Envelope where
  path : String
  headers : List Header
  body : Wire.Bytes
deriving DecidableEq, Repr

/-- The service by which calls are named. -/
def servicePath : String := "/controltower.v1.ToolService/"

/-- The path of a call of a kind. -/
def CallKind.path : CallKind → String
  | create => servicePath ++ "CreateToolSession"
  | publish => servicePath ++ "PublishPackageInsight"
  | complete => servicePath ++ "CompleteToolSession"

/-- The message that is sent for a call. -/
def Call.body : Call → Wire.Bytes
  | create request => CreateToolSessionRequest.codec.write request
  | publish request => PublishPackageInsightRequest.codec.write request
  | complete session completion =>
    CompleteToolSessionRequest.codec.write ⟨some ⟨session⟩, completion.code⟩

/-- The headers of a request: the credentials one after the other, and its number if a header can carry
it. -/
def RequestId.headers (id : RequestId) (credentials : List Header) : List Header :=
  let headers := credentials.foldl (fun headers header => header.place headers) []
  -- A number is made of digits and hyphens, so every request has its own in fact.
  match Header.make "x-request-id" id.text with
  | .ok header => header.place headers
  | .error _ => headers

/-- What is sent for a call: the credentials and the number of the request go with the message. -/
def Call.envelope (call : Call) (credentials : List Header) (id : RequestId) : Envelope where
  path := call.kind.path
  headers := id.headers credentials
  body := call.body

/-- What the service answers: a message, or the status of a call that did not succeed. -/
abbrev ServerAnswer := Except Status Wire.Bytes

/-- The refusal for an answer that makes no sense. -/
def Reply.nonsense (text : String) : Reply :=
  .refused (.rpc ⟨.internal, text⟩)

/-- The refusal for an answer that is no message of the expected type. -/
def Reply.unreadable : Reply :=
  .nonsense "failed to decode Protobuf message"

/-- What an answer to a call of a kind means. -/
def CallKind.reply (kind : CallKind) (answer : ServerAnswer) : Reply :=
  match answer with
  | .error status => .refused (.rpc status)
  | .ok content =>
    match kind with
    | .create =>
      match CreateToolSessionResponse.codec.read content with
      | none => .unreadable
      | some response =>
        -- A granted session needs a name; a message without one is well-formed all the same.
        match response.toolSession with
        | some session => .granted session.toolSessionId
        | none => .nonsense "response carried no tool session"
    | .publish =>
      match PublishPackageInsightResponse.codec.read content with
      | none => .unreadable
      | some _ => .granted ""
    | .complete =>
      match CompleteToolSessionResponse.codec.read content with
      | none => .unreadable
      | some _ => .granted ""

end InsightRelay
