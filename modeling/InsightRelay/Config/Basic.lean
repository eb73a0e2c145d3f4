import InsightRelay.Error
import InsightRelay.Text.Blank

/-! The configuration of a relay: where the service is, who calls it, and how much runs at once. -/

namespace InsightRelay

/-- What started the tool that reports. -/
inductive Trigger
  | manual
  | ci
deriving DecidableEq, Repr

/-- The configuration of a relay. -/
structure Config where
  baseUrl : String
  token : Option String := none
  tenantId : Option String := none
  mockUser : Option String := none
  /-- Whether every manifest has a session of its own. -/
  multiProject : Bool := false
  projectName : String
  projectVersion : String := ""
  trigger : String := "manual"
  gitRef : Option String := none
  gitRefName : Option String := none
  gitRefType : Option String := none
  gitSha : Option String := none
  /-- The number of workers, where zero calls for the usual number. -/
  workerCount : Nat := 0
  queueCapacity : Nat := 1000
  maxRetries : Nat := 3
  requestTimeoutSeconds : Nat := 30
  connectTimeoutSeconds : Nat := 10
  toolName : String := "insight-sync"
  toolVersion : String := "0.1.0"
deriving DecidableEq, Repr

/-- Credentials found in the environment, which take the place of configured ones. -/
structure Credentials where
  token : Option String
  tenantId : Option String
  mockUser : Option String
deriving DecidableEq, Repr

namespace Config

/-- The number of workers that run when the configuration does not say. -/
def usualWorkerCount : Nat := 10

/-- The number of workers that run. -/
def effectiveWorkerCount (config : Config) : Nat :=
  if config.workerCount = 0 then usualWorkerCount else config.workerCount

/-- A text with its ASCII letters in lower case. -/
def lowerAscii (text : String) : String :=
  String.ofList (text.toList.map Char.toLower)

/-- The trigger that the configuration names, without regard to the case of ASCII letters. -/
def toolTrigger (config : Config) : Except ConfigFault Trigger :=
  let name := lowerAscii config.trigger
  -- A trigger that is left empty is the usual one.
  if name = "" ∨ name = "manual" then .ok .manual
  else if name = "ci" then .ok .ci
  else .error (.unknownTrigger name)

/-- The first fault of a configuration, if it has any. -/
def fault? (config : Config) : Option ConfigFault :=
  if isBlankText config.baseUrl then some .baseUrlMissing
  else if isBlankText config.projectName then some .projectNameMissing
  else if config.queueCapacity = 0 then some .queueCapacityZero
  -- The trigger is looked at last, so its error comes only where all else is in order.
  else match config.toolTrigger with
    | .ok _ => none
    | .error fault => some fault

/-- A configuration without faults is passed on. -/
def validate (config : Config) : Except RelayError Config :=
  match config.fault? with
  | some fault => .error (.config fault)
  | none => .ok config

/-- The configuration with the credentials that the environment gives. -/
def withCredentials (config : Config) (found : Credentials) : Config :=
  { config with
    token := found.token <|> config.token
    tenantId := found.tenantId <|> config.tenantId
    mockUser := found.mockUser <|> config.mockUser }

end Config

end InsightRelay
