import InsightRelay.Json.Problem
import InsightRelay.Toml.Problem

/-! What can go wrong between a manifest and the service, and the words for each cause. -/

namespace InsightRelay

/-- The outcome classes of a remote call. -/
inductive StatusCode
  | ok
  | cancelled
  | unknown
  | invalidArgument
  | deadlineExceeded
  | notFound
  | alreadyExists
  | permissionDenied
  | resourceExhausted
  | failedPrecondition
  | aborted
  | outOfRange
  | unimplemented
  | internal
  | unavailable
  | dataLoss
  | unauthenticated
deriving DecidableEq, Repr

namespace StatusCode

/-- All classes, each at the place of its number. -/
def all : List StatusCode :=
  [ok, cancelled, unknown, invalidArgument, deadlineExceeded, notFound, alreadyExists,
    permissionDenied, resourceExhausted, failedPrecondition, aborted, outOfRange, unimplemented,
    internal, unavailable, dataLoss, unauthenticated]

/-- The class with a number, every strange number standing for the unknown class. -/
def ofNumber (number : Int) : StatusCode :=
  if number < 0 then unknown else all[number.toNat]?.getD unknown

/-- The number of a class. -/
def number (code : StatusCode) : Nat :=
  all.idxOf code

/-- Every class is the one with its number. -/
theorem ofNumber_number (code : StatusCode) : ofNumber code.number = code := by
  cases code <;> decide

/-- The name of a class. -/
def name : StatusCode → String
  | ok => "Ok"
  | cancelled => "Cancelled"
  | unknown => "Unknown"
  | invalidArgument => "InvalidArgument"
  | deadlineExceeded => "DeadlineExceeded"
  | notFound => "NotFound"
  | alreadyExists => "AlreadyExists"
  | permissionDenied => "PermissionDenied"
  | resourceExhausted => "ResourceExhausted"
  | failedPrecondition => "FailedPrecondition"
  | aborted => "Aborted"
  | outOfRange => "OutOfRange"
  | unimplemented => "Unimplemented"
  | internal => "Internal"
  | unavailable => "Unavailable"
  | dataLoss => "DataLoss"
  | unauthenticated => "Unauthenticated"

end StatusCode

/-- The answer of a remote call that did not succeed. -/
structure Status where
  code : StatusCode
  message : String
deriving DecidableEq, Repr

/-- The words for a remote answer. -/
def Status.report (status : Status) : String :=
  "status: " ++ status.code.name ++ ", message: " ++ quoted status.message ++
    ", details: [], metadata: MetadataMap \x7b headers: \x7b\x7d \x7d"

/-- Why a text is no base URL. -/
inductive UrlProblem
  | empty
  | tooLong
  | invalidCharacter
  | schemeTooLong
  | invalidAuthority
  | invalidFormat
deriving DecidableEq, Repr

/-- The words for a problem with a base URL. -/
def UrlProblem.message : UrlProblem → String
  | empty => "empty string"
  | tooLong => "uri too long"
  | invalidCharacter => "invalid uri character"
  | schemeTooLong => "scheme too long"
  | invalidAuthority => "invalid authority"
  | invalidFormat => "invalid format"

/-- Why a configuration cannot be used. -/
inductive ConfigFault
  | baseUrlMissing
  | projectNameMissing
  | queueCapacityZero
  | unknownTrigger (name : String)
  | invalidUrl (url : String) (problem : UrlProblem)
  | hostMissing (url : String)
  | invalidHeader (key : String)
  | other (text : String)
deriving DecidableEq, Repr

/-- The words for a fault of a configuration. -/
def ConfigFault.message : ConfigFault → String
  | baseUrlMissing => "base_url is required"
  | projectNameMissing => "project_name is required"
  | queueCapacityZero => "queue_capacity must be greater than 0"
  | unknownTrigger name => "unknown trigger: " ++ name
  | invalidUrl url problem => "Invalid base URL " ++ url ++ ": " ++ problem.message
  | hostMissing url => "Base URL has no host: " ++ url
  | invalidHeader key => "Invalid value for " ++ key ++ ": failed to parse metadata value"
  | other text => text

/-- Why a file could not be read as text. -/
inductive FileFault
  | missing
  | isDirectory
  | notText
  | other (text : String)
deriving DecidableEq, Repr

/-- The words for a fault of a file. -/
def FileFault.message : FileFault → String
  | missing => "No such file or directory (os error 2)"
  | isDirectory => "Is a directory (os error 21)"
  | notText => "stream did not contain valid UTF-8"
  | other text => text

/-- The text of a file's bytes, which have to be UTF-8. -/
def FileFault.decode (bytes : ByteArray) : Except FileFault String :=
  match String.fromUTF8? bytes with
  | some text => .ok text
  | none => .error .notText

/-- What can go wrong between a manifest and the service. -/
inductive RelayError
  /-- No session is open for a key, and no session is open for all keys. -/
  | sessionNotFound (key : String)
  /-- A part of the insights of a package was left out of its request. -/
  | insightReduced (package reason : String)
  | publishFailed (package : String) (source : RelayError)
  | sessionCreationFailed (project : String) (source : RelayError)
  | sessionCompletionFailed (session : String) (source : RelayError)
  | dependenciesUnavailable (path : String)
  | invalidPackage (manifest reason : String)
  /-- No further work is accepted. -/
  | closed
  | config (fault : ConfigFault)
  | transport
  | rpc (status : Status)
  | file (fault : FileFault)
  | toml (problem : Toml.Problem)
  | json (problem : Json.Problem)
deriving DecidableEq, Repr

namespace RelayError

/-- The words for an error. -/
def message : RelayError → String
  | sessionNotFound key => "session not found for key: " ++ key
  | insightReduced package reason => "translation degraded for " ++ package ++ ": " ++ reason
  | publishFailed package source =>
    "failed to publish package insight for " ++ package ++ ": " ++ source.message
  | sessionCreationFailed project source =>
    "failed to create tool session for project " ++ project ++ ": " ++ source.message
  | sessionCompletionFailed session source =>
    "failed to complete tool session " ++ session ++ ": " ++ source.message
  | dependenciesUnavailable path => "dependency graph not available for manifest: " ++ path
  | invalidPackage manifest reason => "invalid package entry in " ++ manifest ++ ": " ++ reason
  | closed => "reporter is closed"
  | config fault => "Configuration error: " ++ fault.message
  | transport => "Transport error: transport error"
  | rpc status => "RPC error: " ++ status.report
  | file fault => "IO error: " ++ fault.message
  | toml problem => "TOML error: " ++ problem.message
  | json problem => "JSON error: " ++ problem.message

/-- The words for each cause behind an error, from the nearest to the farthest. -/
def causes : RelayError → List String
  | publishFailed _ source => source.message :: source.causes
  | sessionCreationFailed _ source => source.message :: source.causes
  | sessionCompletionFailed _ source => source.message :: source.causes
  | rpc status => [status.report]
  | file fault => [fault.message]
  | _ => []

end RelayError

end InsightRelay
