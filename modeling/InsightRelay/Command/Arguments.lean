import InsightRelay.Number.Digits

/-! Command lines: what a list of words asks of the program. -/

namespace InsightRelay.Command

/-- The options that take a value. -/
inductive Setting
  | config
  | workers
  | logLevel
deriving DecidableEq, Repr

/-- What an option does. -/
inductive Switch
  | takes (setting : Setting)
  | multiProject
  | version
  | help
deriving DecidableEq, Repr

/-- Why a command line cannot be followed. -/
inductive Misuse
  | unknownOption (name : String)
  | valueMissing (setting : Setting)
  | valueUnwanted (name : String)
  | valueInvalid (setting : Setting) (value : String)
  | pathEmpty
  | repeatedSetting (setting : Setting)
  | repeatedMultiProject
  | configMissing
  | manifestsMissing
deriving DecidableEq, Repr

/-- Why the reading of a command line stops before its end. -/
inductive Halt
  | misuse (fault : Misuse)
  | version
  | help
deriving DecidableEq, Repr

/-- What the words so far have said. -/
structure Draft where
  config : Option String := none
  workers : Option Nat := none
  logLevel : Option String := none
  multiProject : Bool := false
  manifests : List String := []
deriving DecidableEq, Repr

/-- What a run of the program is asked to do. -/
structure Options where
  config : String
  workers : Option Nat
  logLevel : String
  multiProject : Bool
  manifests : List String
deriving DecidableEq, Repr

/-- What a command line asks for. -/
inductive Invocation
  | run (options : Options)
  | version
  | help
  | misuse (fault : Misuse)
deriving DecidableEq, Repr

namespace Switch

/-- The option with a long name. -/
def ofLong? : String → Option Switch
  | "config" => some (.takes .config)
  | "workers" => some (.takes .workers)
  | "log-level" => some (.takes .logLevel)
  | "multi-project" => some .multiProject
  | "version" => some .version
  | "help" => some .help
  | _ => none

/-- The option with a name of one letter. -/
def ofShort? : Char → Option Switch
  | 'c' => some (.takes .config)
  | 'w' => some (.takes .workers)
  | 'l' => some (.takes .logLevel)
  | 'V' => some .version
  | 'h' => some .help
  | _ => none

end Switch

/-- The long name of an option that takes a value. -/
def Setting.name : Setting → String
  | config => "--config"
  | workers => "--workers"
  | logLevel => "--log-level"

/-- The words for a misuse. -/
def Misuse.message : Misuse → String
  | unknownOption name => "unexpected argument '" ++ name ++ "' found"
  | valueMissing setting => "a value is required for '" ++ setting.name ++ "' but none was supplied"
  | valueUnwanted name => "no value is expected for '" ++ name ++ "'"
  | valueInvalid setting value => "invalid value '" ++ value ++ "' for '" ++ setting.name ++ "'"
  | pathEmpty => "a path must not be empty"
  | repeatedSetting setting => "the argument '" ++ setting.name ++ "' cannot be used multiple times"
  | repeatedMultiProject => "the argument '--multi-project' cannot be used multiple times"
  | configMissing => "the argument '--config' is required"
  | manifestsMissing => "at least one manifest is required"

/-- The greatest number of workers that can be asked for. -/
def mostWorkers : Nat := 1 <<< 64 - 1

namespace Draft

/-- The draft with a value for an option, which may be given once. -/
def set (draft : Draft) (setting : Setting) (value : String) : Except Halt Draft :=
  match setting with
  | .config =>
    -- That an option comes twice is told before anything about its value.
    if draft.config.isSome then .error (.misuse (.repeatedSetting .config))
    else if value.isEmpty then .error (.misuse .pathEmpty)
    else .ok { draft with config := some value }
  | .workers =>
    if draft.workers.isSome then .error (.misuse (.repeatedSetting .workers))
    else
      match readNatural mostWorkers value.toList with
      | some count => .ok { draft with workers := some count }
      | none => .error (.misuse (.valueInvalid .workers value))
  | .logLevel =>
    if draft.logLevel.isSome then .error (.misuse (.repeatedSetting .logLevel))
    else .ok { draft with logLevel := some value }

/-- The draft with one more manifest. -/
def addManifest (draft : Draft) (path : String) : Except Halt Draft :=
  if path.isEmpty then .error (.misuse .pathEmpty)
  else .ok { draft with manifests := draft.manifests ++ [path] }

/-- The draft after an option that takes no value. -/
def apply (draft : Draft) (switch : Switch) : Except Halt Draft :=
  match switch with
  | .takes setting => .error (.misuse (.valueMissing setting))
  | .multiProject =>
    if draft.multiProject then .error (.misuse .repeatedMultiProject)
    else .ok { draft with multiProject := true }
  | .version => .error .version
  | .help => .error .help

/-- The draft after the letters that follow a single dash, and the option that still needs a value.

An option that takes a value takes the letters after it, with or without an equals sign between. -/
def readLetters (draft : Draft) : List Char → Except Halt (Draft × Option Setting)
  | [] => .ok (draft, none)
  | letter :: rest =>
    match Switch.ofShort? letter with
    | none => .error (.misuse (.unknownOption ("-" ++ String.singleton letter)))
    | some (.takes setting) =>
      match rest with
      | [] => .ok (draft, some setting)
      | '=' :: value => (draft.set setting (String.ofList value)).map fun draft => (draft, none)
      | value => (draft.set setting (String.ofList value)).map fun draft => (draft, none)
    -- Letters without values may be written together behind one dash.
    | some switch => (draft.apply switch).bind fun draft => draft.readLetters rest

/-- The draft after what follows a double dash, and the option that still needs a value. -/
def readLong (draft : Draft) (text : List Char) : Except Halt (Draft × Option Setting) :=
  let name := String.ofList (text.takeWhile (· != '='))
  let value := match text.dropWhile (· != '=') with
    | [] => none
    | _ :: value => some (String.ofList value)
  match Switch.ofLong? name, value with
  | none, _ => .error (.misuse (.unknownOption ("--" ++ name)))
  | some (.takes setting), some value => (draft.set setting value).map fun draft => (draft, none)
  | some (.takes setting), none => .ok (draft, some setting)
  | some _, some _ => .error (.misuse (.valueUnwanted ("--" ++ name)))
  | some switch, none => (draft.apply switch).map fun draft => (draft, none)

/-- The draft after one word, and the option that still needs a value. -/
def readWord (draft : Draft) (word : String) : Except Halt (Draft × Option Setting) :=
  match word.toList with
  | '-' :: '-' :: text => draft.readLong text
  | '-' :: letter :: letters => draft.readLetters (letter :: letters)
  | _ => (draft.addManifest word).map fun draft => (draft, none)

/-- Whether a word is an option rather than a value. -/
def isOption (word : String) : Bool :=
  match word.toList with
  | '-' :: _ :: _ => true
  | _ => false

/-- The draft after all words; after a double dash alone every word is a manifest. -/
def readWords (draft : Draft) : (words : List String) → Except Halt Draft
  | [] => .ok draft
  | word :: words =>
    if word = "--" then words.foldlM addManifest draft
    else
      -- An option may find its value in the next word, unless that is an option itself.
      match draft.readWord word, words with
      | .error halt, _ => .error halt
      | .ok (draft, none), words => draft.readWords words
      | .ok (_, some setting), [] => .error (.misuse (.valueMissing setting))
      | .ok (draft, some setting), value :: words =>
        if isOption value then .error (.misuse (.valueMissing setting))
        else (draft.set setting value).bind fun draft => draft.readWords words

/-- The options of a complete draft. -/
def finish (draft : Draft) : Except Halt Options :=
  match draft.config with
  | none => .error (.misuse .configMissing)
  | some config =>
    if draft.manifests.isEmpty then .error (.misuse .manifestsMissing)
    else .ok ⟨config, draft.workers, draft.logLevel.getD "info", draft.multiProject, draft.manifests⟩

end Draft

/-- What a list of words asks for. -/
def Invocation.parse (words : List String) : Invocation :=
  match (Draft.readWords {} words).bind Draft.finish with
  | .ok options => .run options
  | .error .version => .version
  | .error .help => .help
  | .error (.misuse fault) => .misuse fault

/-- The answer to the question for the version. -/
def versionLine : String := "insight-sync 0.1.0\n"

/-- The answer to the call for help. -/
def helpText : String := "Publish dependency scanner insights to an aggregation service

Usage: insight-sync [OPTIONS] --config <CONFIG> <MANIFESTS>...

Arguments:
  <MANIFESTS>...  Manifest documents (JSON) exported by the scanner

Options:
  -c, --config <CONFIG>        Path to the TOML configuration file
      --multi-project          Create one session per manifest instead of a single global session
  -w, --workers <WORKERS>      Number of publish workers (overrides the configuration)
  -l, --log-level <LOG_LEVEL>  Log level (trace, debug, info, warn, error) [default: info]
  -h, --help                   Print help
  -V, --version                Print version
"

/-- Values may be attached to their options, and the version is told before what is missing. -/
example :
    Invocation.parse ["-w3", "a", "-c=x", "--", "-V"] =
      .run ⟨"x", some 3, "info", false, ["a", "-V"]⟩ ∧
    Invocation.parse ["a", "-V", "-w"] = .version ∧
    Invocation.parse ["-w", "-1", "-V"] = .misuse (.valueMissing .workers) := by decide +kernel

end InsightRelay.Command
