import InsightRelay.Command.Run

/-! The program: it reads the files that its command line names and reports how the run ended.

It has no means of transport of its own, so every service is out of its reach. -/

open InsightRelay

/-- The text of a file, or why there is none. -/
def readText (path : String) : IO (Except FileFault String) := do
  try
    return FileFault.decode (← IO.FS.readBinFile path)
  catch fault =>
    match fault with
    | .noFileOrDirectory .. => return .error .missing
    | .inappropriateType .. => return .error .isDirectory
    | fault => return .error (.other (toString fault))

/-- The texts of files, each with its path. -/
def readTexts (paths : List String) : IO (List (String × Except FileFault String)) :=
  paths.mapM fun path => return (path, ← readText path)

/-- The credentials that the environment holds. -/
def readCredentials : IO Credentials := do
  return {
    token := ← IO.getEnv "INSIGHT_SYNC_TOKEN"
    tenantId := ← IO.getEnv "INSIGHT_SYNC_TENANT_ID"
    mockUser := ← IO.getEnv "INSIGHT_SYNC_MOCK_USER" }

/-- A supply of request numbers that starts at random. -/
def drawRequestIds : IO (Nat → RequestId) := do
  let start ← IO.rand 0 (1 <<< 64 - 1)
  let step ← IO.rand 0 (1 <<< 63 - 1)
  return fun number => .ofRandom (UInt64.ofNat (start + number * (2 * step + 1))) (UInt64.ofNat number)

/-- A run with the options of the command line. -/
def perform (options : Command.Options) : IO UInt32 := do
  -- All files are read beforehand, and the run looks each of them up by its path.
  let texts ← readTexts (options.config :: options.manifests)
  let fileText (path : String) : Except FileFault String :=
    ((texts.find? fun entry => entry.1 == path).map Prod.snd).getD (.error .missing)
  let network : Network Unit := .unreachable
  match (options.run ⟨fileText, ← readCredentials⟩ network (← drawRequestIds) ()).1 with
  | .synced summary =>
    IO.print summary.line
    return 0
  | .failed failure =>
    IO.eprint failure.report
    return 1
  | .aborted => return 101
  | .stuck => return 1

def main (words : List String) : IO UInt32 :=
  match Command.Invocation.parse words with
  | .misuse fault => do
    IO.eprintln ("error: " ++ fault.message)
    return 2
  | .version => do
    IO.print Command.versionLine
    return 0
  | .help => do
    IO.print Command.helpText
    return 0
  | .run options => perform options
