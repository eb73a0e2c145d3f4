import InsightRelay.Client.Envelope
import InsightRelay.Relay.Service
import InsightRelay.Url.Endpoint

/-! Connections: how a configuration becomes a service that can be called over a network. -/

namespace InsightRelay

/-- The far side of a connection, with an inner state. -/
structure Server (σ : Type) where
  answer : σ → Envelope → ServerAnswer × σ

/-- Those that can be reached. -/
structure Network (σ : Type) where
  /-- The server at an endpoint. There is none when the transport takes the address for no URL, when it
  cannot set up encryption for the host, and when nobody answers. -/
  dial : Endpoint → Option (Server σ)

/-- The network in which nobody can be reached. -/
def Network.unreachable {σ : Type} : Network σ := ⟨fun _ => none⟩

/-- A server that was reached, with the headers that go with every call of it. -/
structure Connection (σ : Type) where
  server : Server σ
  credentials : List Header

/-- The connection that a configuration calls for: the base URL is read, the endpoint is dialled, and the
credentials are made ready. -/
def Network.connect {σ : Type} (network : Network σ) (config : Config) :
    Except RelayError (Connection σ) := do
  let endpoint ← (Endpoint.ofBaseUrl config.baseUrl).mapError .config
  match network.dial endpoint with
  -- Credentials are looked at only once somebody has been reached.
  | none => throw .transport
  | some server => return ⟨server, ← config.headers.mapError .config⟩

/-- The state of a service over a connection: that of the server, and how many requests were sent. -/
structure Connection.State (σ : Type) where
  server : σ
  sent : Nat

/-- The service over a connection, every request having the next number of a supply. -/
def Connection.service {σ : Type} (connection : Connection σ) (ids : Nat → RequestId) :
    Service (Connection.State σ) where
  reply state call :=
    let envelope := call.envelope connection.credentials (ids state.sent)
    let (answer, server) := connection.server.answer state.server envelope
    (call.kind.reply answer, ⟨server, state.sent + 1⟩)

end InsightRelay
