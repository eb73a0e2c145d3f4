import InsightRelay.Dictionary
import InsightRelay.Event

/-! The registry of open sessions: one for each key, or one for all keys. -/

namespace InsightRelay

/-- A session that is open somewhere, and the client that its calls go through. -/
structure Session (Client : Type) where
  /-- The name that the service gave to the session. -/
  id : String
  client : Client
deriving DecidableEq, Repr

/-- The session in a diagnostic text, which leaves the client out. -/
def Session.describe {Client : Type} (session : Session Client) : String :=
  "Session \x7b session_id: " ++ quoted session.id ++ ", .. \x7d"

/-- The key whose session serves all keys. -/
def globalKey : String := "*"

/-- The open sessions, by key. -/
structure Registry (Client : Type) where
  sessions : Dictionary (Session Client)
deriving DecidableEq

namespace Registry

variable {Client : Type}

/-- The registry without sessions. -/
def empty : Registry Client := ⟨Dictionary.empty⟩

/-- A session is registered for a key; one that it takes the place of is reported. -/
def add (registry : Registry Client) (key : String) (session : Session Client) :
    Registry Client × List Event :=
  (⟨registry.sessions.insert key session⟩,
    match registry.sessions.get? key with
    | some previous => [.sessionReplaced key previous.id]
    | none => [])

/-- A session is registered for all keys. -/
def addGlobal (registry : Registry Client) (session : Session Client) :
    Registry Client × List Event :=
  registry.add globalKey session

/-- The session for a key: the one for all keys if there is one, or else its own. -/
def session? (registry : Registry Client) (key : String) : Option (Session Client) :=
  -- The session for all keys wins, also over one that was registered later.
  registry.sessions.get? globalKey <|> registry.sessions.get? key

/-- The session for a key, or the error that there is none. -/
def lookup (registry : Registry Client) (key : String) : Except RelayError (Session Client) :=
  match registry.session? key with
  | some session => .ok session
  | none => .error (.sessionNotFound key)

/-- Whether a key has a session, the one for all keys or its own. -/
def contains (registry : Registry Client) (key : String) : Bool :=
  registry.sessions.contains globalKey || registry.sessions.contains key

/-- The number of keys that sessions are registered for. -/
def count (registry : Registry Client) : Nat :=
  registry.sessions.size

/-- Every key with its session, in the order of the keys. -/
def entries (registry : Registry Client) : List (String × Session Client) :=
  registry.sessions.entries

/-- The registry in a diagnostic text. -/
def describe (registry : Registry Client) : String :=
  "SessionRegistry \x7b session_count: " ++ toString registry.count ++ ", .. \x7d"

end Registry

end InsightRelay
