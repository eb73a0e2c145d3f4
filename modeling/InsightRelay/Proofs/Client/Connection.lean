import InsightRelay.Client.Connection
import InsightRelay.Proofs.Url.Endpoint

/-! Connections: a configuration is refused as such, or the endpoint that its base URL names is handed to
the transport and no other. -/

namespace InsightRelay

/-- The server that the base URL of a configuration leads to, or what stands in the way. -/
def Network.reach {σ : Type} (network : Network σ) (config : Config) :
    Except RelayError (Server σ) :=
  match Endpoint.ofBaseUrl config.baseUrl with
  | .error fault => .error (.config fault)
  | .ok endpoint =>
    match network.dial endpoint with
    | none => .error .transport
    | some server => .ok server

/-- The endpoint of the base URL is where a server is looked for. -/
theorem Network.reach_of_ok {σ : Type} {network : Network σ} {config : Config}
    {endpoint : Endpoint} (made : Endpoint.ofBaseUrl config.baseUrl = .ok endpoint) :
    network.reach config =
      match network.dial endpoint with
      | none => .error .transport
      | some server => .ok server := by
  simp only [reach, made]

/-- The credentials are made ready once a server is reached. -/
theorem Network.connect_eq {σ : Type} (network : Network σ) (config : Config) :
    network.connect config = (network.reach config).bind fun server =>
      (config.headers.mapError .config).map (⟨server, ·⟩) := by
  -- The server is reached first, and only then are the headers made.
  unfold connect reach
  cases Endpoint.ofBaseUrl config.baseUrl with
  | error fault => rfl
  | ok endpoint =>
    simp only [Except.mapError, bind, Except.bind]
    cases network.dial endpoint with
    | none => rfl
    | some server => cases config.headers <;> rfl

/-- The headers of a connection are those that were made. -/
theorem Network.headers_of_connect {σ : Type} {network : Network σ} {config : Config}
    {connection : Connection σ} (connected : network.connect config = .ok connection) :
    config.headers = .ok connection.credentials := by
  -- There is a connection only if both succeed.
  rw [network.connect_eq] at connected
  cases reached : network.reach config with
  | error problem => simp [reached, Except.bind] at connected
  | ok server =>
    cases made : config.headers with
    | error fault => simp [reached, made, Except.bind, Except.mapError, Except.map] at connected
    | ok headers =>
      simp only [reached, made, Except.bind, Except.mapError, Except.map, Except.ok.injEq] at connected
      rw [← connected]

namespace Config

/-- Whatever the network, the configuration is refused as such and the transport is handed nothing. -/
def IsUndialled (config : Config) (fault : ConfigFault) : Prop :=
  ∀ (σ : Type) (network : Network σ), network.connect config = .error (.config fault)

/-- Whatever the network, the transport is handed one endpoint for the configuration: when it gets to
nobody there is no connection, and otherwise there is one to whoever answers, unless the credentials are
of no use. -/
def Dials (config : Config) (endpoint : Endpoint) : Prop :=
  ∀ (σ : Type) (network : Network σ), network.connect config =
    match network.dial endpoint with
    | none => .error .transport
    | some server => (config.headers.mapError .config).map (⟨server, ·⟩)

/-- What becomes of a configuration, according to its base URL. -/
inductive Connects (config : Config) : Prop
  | unreadable (problem : UrlProblem) (refused : Url.parse config.baseUrl = .error problem)
    (undialled : config.IsUndialled (.invalidUrl config.baseUrl problem))
  | unnamed (url : Url) (parsed : Url.parse config.baseUrl = .ok url) (bare : url.authority = none)
    (undialled : config.IsUndialled (.hostMissing config.baseUrl))
  | dialled (writing : Url.Writing config.baseUrl) (endpoint : Endpoint)
    (names : writing.Names endpoint) (dials : config.Dials endpoint)

variable {config : Config}

/-- A base URL without an endpoint is reported before anything else. -/
private theorem isUndialled_of_error {fault : ConfigFault}
    (faulty : Endpoint.ofBaseUrl config.baseUrl = .error fault) : config.IsUndialled fault := by
  intro σ network
  simp only [network.connect_eq, Network.reach, faulty, Except.bind]

/-- The endpoint of the base URL is the one that is dialled. -/
private theorem dials_of_ok {endpoint : Endpoint}
    (made : Endpoint.ofBaseUrl config.baseUrl = .ok endpoint) : config.Dials endpoint := by
  intro σ network
  rw [network.connect_eq, Network.reach_of_ok made]
  cases network.dial endpoint <;> rfl

/-- Every configuration is refused as such, or the transport is handed the endpoint that its base URL
names: a number behind the host is the port, and without one that can be a port it is the usual port. -/
theorem connects_by_base_url (config : Config) : config.Connects := by
  -- Whether there is an endpoint is known before the transport comes in.
  cases made : Endpoint.ofBaseUrl config.baseUrl with
  | ok endpoint =>
    obtain ⟨writing, names⟩ := Endpoint.names_of_ofBaseUrl made
    exact .dialled writing endpoint names (dials_of_ok made)
  | error fault =>
    have undialled := isUndialled_of_error made
    -- The fault tells whether there was no URL, or one without an authority.
    unfold Endpoint.ofBaseUrl at made
    split at made
    · rename_i problem refused
      obtain rfl := Except.error.inj made
      exact .unreadable problem refused undialled
    · rename_i url parsed
      split at made
      · simp at made
      · rename_i none
        obtain rfl := Except.error.inj made
        exact .unnamed url parsed (by simpa [Endpoint.ofUrl?] using none) undialled

/-- A configuration whose base URL has a port that is too great. -/
def misdialled : Config where
  baseUrl := "http://127.0.0.1:99999"
  projectName := "acme/web"

/-- How its base URL is written. -/
def misdialledWriting : Url.Writing misdialled.baseUrl where
  start := "http://".toList
  name := "127.0.0.1".toList ++ ":99999".toList
  path := []
  whole := by decide
  opening := .scheme (show ':' ∉ "http".toList by decide)
  inside := by simp [Authority.isEnd]
  ends := by simp
  parts := .bare _ _ (by decide) (.plain (by decide) (by decide) (by simp))

/-- A port that is too great is not refused: the usual port is dialled in its place. -/
theorem usual_port_in_place_of_written :
    misdialledWriting.parts.behind = ':' :: "99999".toList ∧
      WritesNumber "99999".toList 99999 ∧ Authority.greatestPort < 99999 ∧
      misdialled.Dials ⟨false, "127.0.0.1", 80⟩ ∧
      ¬ ∃ fault, misdialled.IsUndialled fault := by
  have dials : misdialled.Dials ⟨false, "127.0.0.1", 80⟩ := dials_of_ok (by decide +kernel)
  have writes : WritesNumber "99999".toList 99999 := writesNumber_toDigits 99999
  refine ⟨rfl, writes, by decide, dials, ?_⟩
  rintro ⟨fault, undialled⟩
  -- On a network where nobody can be reached the two come to different ends.
  have silent := dials Unit .unreachable
  rw [undialled Unit .unreachable] at silent
  simp [Network.unreachable] at silent

end Config

end InsightRelay
