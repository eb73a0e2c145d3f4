import InsightRelay.Client.Scripted
import InsightRelay.Command.Run
import InsightRelay.Proofs.Client.Connection
import InsightRelay.Proofs.Client.Header

/-! Credentials: they go with every call as they were set and forge no header, or else nobody is called. -/

namespace InsightRelay

/-- The server that keeps what it is sent, and answers as before. -/
def Server.recording {σ : Type} (server : Server σ) : Server (σ × List Envelope) where
  answer state envelope :=
    let (answer, next) := server.answer state.1 envelope
    (answer, (next, state.2 ++ [envelope]))

/-- The state of a service after calls that were made one after the other. -/
def Service.after {σ : Type} (service : Service σ) (state : σ) (calls : List Call) : σ :=
  calls.foldl (fun state call => (service.reply state call).2) state

namespace Connection

variable {σ : Type}

/-- The connection to a server that keeps what it is sent. -/
def recording (connection : Connection σ) : Connection (σ × List Envelope) :=
  ⟨connection.server.recording, connection.credentials⟩

/-- What a server is sent when calls are made over a new connection, one after the other. -/
def sends (connection : Connection σ) (ids : Nat → RequestId) (state : σ) (calls : List Call) :
    List Envelope :=
  ((connection.recording.service ids).after ⟨(state, []), 0⟩ calls).server.2

/-- Each call sends its envelope under the next number, and to keep them changes nothing else. -/
theorem after_recording (connection : Connection σ) (ids : Nat → RequestId) (state : σ)
    (kept : List Envelope) (sent : Nat) (calls : List Call) :
    (connection.recording.service ids).after ⟨(state, kept), sent⟩ calls =
      let plain := (connection.service ids).after ⟨state, sent⟩ calls
      ⟨(plain.server, kept ++ calls.mapIdx fun position call =>
        call.envelope connection.credentials (ids (sent + position))), plain.sent⟩ := by
  -- The numbers of the calls to come go on where those of the first call end.
  induction calls generalizing state kept sent with
  | nil => simp [Service.after]
  | cons call calls ih =>
    let envelope := call.envelope connection.credentials (ids sent)
    have rest := ih (connection.server.answer state envelope).2 (kept ++ [envelope]) (sent + 1)
    simpa [Service.after, service, recording, Server.recording, List.mapIdx_cons, Nat.add_comm,
      Nat.add_left_comm, envelope] using rest

/-- What is sent over a new connection is the envelope of each call, under its place among the calls. -/
theorem sends_eq (connection : Connection σ) (ids : Nat → RequestId) (state : σ)
    (calls : List Call) : connection.sends ids state calls =
      calls.mapIdx fun position call => call.envelope connection.credentials (ids position) := by
  simp [sends, after_recording]

end Connection

namespace Config

/-- The credentials that a configuration sets, each in its header. -/
inductive Sets (config : Config) : Header → Prop
  | token {token : String} (set : config.token = some token) :
    Sets config ⟨"authorization", "Bearer " ++ token⟩
  | tenant {tenant : String} (set : config.tenantId = some tenant) :
    Sets config ⟨"x-tenant-id", tenant⟩
  | user {user : String} (set : config.mockUser = some user) : Sets config ⟨"x-mock-user", user⟩

/-- The keys of the headers that carry credentials, in the order in which these are looked at. -/
def credentialKeys : List String := ["authorization", "x-tenant-id", "x-mock-user"]

/-- The headers are those that a configuration sets, each once and in the order of their keys. -/
structure Lists (config : Config) (headers : List Header) : Prop where
  all : ∀ header, header ∈ headers ↔ config.Sets header
  inOrder : (headers.map (·.key)).Sublist credentialKeys

/-- What becomes of the calls for a configuration when every header it sets can be made. -/
structure Carried (config : Config) (headers : List Header) : Prop where
  built : config.headers = .ok headers
  connects : ∀ (σ : Type) (network : Network σ),
    network.connect config = (network.reach config).map (⟨·, headers⟩)
  /-- Every call, whichever and after whatever others, has these headers and its number. -/
  sends : ∀ (σ : Type) (network : Network σ) (connection : Connection σ),
    network.connect config = .ok connection →
      ∀ (ids : Nat → RequestId) (state : σ) (calls : List Call),
        connection.sends ids state calls = calls.mapIdx fun position call =>
          ⟨call.kind.path, headers ++ [(ids position).header], call.body⟩
  /-- No header of a call stands in for another, and none has a control character of ASCII. -/
  safe : ∀ id : RequestId, ((headers ++ [id.header]).map (·.key)).Nodup ∧
    ∀ header ∈ headers ++ [id.header], Header.IsClean header.value

/-- What becomes of a configuration when the header with a key cannot be made. -/
structure Refused (config : Config) (key : String) : Prop where
  unbuilt : config.headers = .error (.invalidHeader key)
  told : (RelayError.config (.invalidHeader key)).message =
    "Configuration error: Invalid value for " ++ key ++ ": failed to parse metadata value"
  /-- There is no connection, and the header is to blame as soon as a server is reached. -/
  refuses : ∀ (σ : Type) (network : Network σ), network.connect config =
    (network.reach config).bind fun _ => .error (.config (.invalidHeader key))
  /-- No run with the configuration makes any call. -/
  uncalled : ∀ (options : Command.Options) (surroundings : Command.Surroundings)
    (manifests : List Manifest), options.load surroundings = .ok (config, manifests) →
      ∀ (σ : Type) (network : Network σ) (ids : Nat → RequestId) (state : σ),
        (options.run surroundings network ids state).2 = []

/-- The headers that a configuration asks for, whether or not they can be made. -/
def wanted (config : Config) : List Header :=
  config.credentials.map fun credential => ⟨credential.1, credential.2⟩

/-- The headers that are asked for are those that the configuration sets. -/
theorem lists_wanted (config : Config) : config.Lists config.wanted where
  all header := by
    -- Each header comes from one of the three settings, and each setting that is there gives one.
    constructor
    · intro member
      simp only [wanted, credentials, List.mem_map, List.mem_append, Option.mem_toList,
        Option.map_eq_some_iff] at member
      obtain ⟨credential, (⟨token, set, rfl⟩ | ⟨tenant, set, rfl⟩) | ⟨user, set, rfl⟩, rfl⟩ := member
      · exact .token set
      · exact .tenant set
      · exact .user set
    · rintro (set | set | set) <;> simp [wanted, credentials, set]
  inOrder := by
    -- Whichever settings are there, their headers stand in the order of the list of keys.
    unfold wanted credentials credentialKeys
    cases config.token <;> cases config.tenantId <;> cases config.mockUser <;> simp

/-- All headers are made, or the first that cannot be made is reported. -/
theorem headers_eq_find? (config : Config) : config.headers =
    match config.wanted.find? fun header => ¬ Header.IsClean header.value with
    | none => .ok config.wanted
    | some header => .error (.invalidHeader header.key) := by
  -- The first credential is reported or made, and then the others decide.
  unfold headers wanted
  induction config.credentials with
  | nil => rfl
  | cons credential rest ih =>
    obtain ⟨key, value⟩ := credential
    rw [List.mapM_cons, ih]
    dsimp only
    rw [Header.make_eq]
    by_cases clean : Header.IsClean value
    · simp only [clean, if_true, List.map_cons, List.find?_cons, not_true, decide_false]
      -- A clean one stands in front of whatever becomes of the others.
      cases List.find? _ _ <;> rfl
    · simp [clean, bind, Except.bind]

/-- No two headers of a request share a key. -/
theorem Lists.nodup {config : Config} {headers : List Header} (lists : config.Lists headers)
    (id : RequestId) : ((headers ++ [id.header]).map (·.key)).Nodup := by
  -- The number of a request has a key that no credential has.
  rw [List.map_append]
  exact (lists.inOrder.append_right ["x-request-id"]).nodup (by decide)

/-- When all headers are made, every call has them. -/
theorem Lists.carried {config : Config} {headers : List Header} (lists : config.Lists headers)
    (built : config.headers = .ok headers)
    (clean : ∀ header ∈ headers, Header.IsClean header.value) : config.Carried headers where
  built := built
  connects σ network := by
    rw [network.connect_eq, built]
    cases network.reach config <;> rfl
  sends σ network connection connected ids state calls := by
    -- The connection has the headers that were made, wherever it leads.
    obtain rfl := Except.ok.inj (built.symm.trans (Network.headers_of_connect connected))
    simp only [connection.sends_eq, Call.envelope, RequestId.headers_eq (lists.nodup _)]
  safe id := by
    refine ⟨lists.nodup id, fun header member => ?_⟩
    -- The number of a call is made of hexadecimal digits, so its header is clean by itself.
    rcases List.mem_append.1 member with credential | number
    · exact clean header credential
    · obtain rfl := List.mem_singleton.1 number
      exact id.isClean_text

/-- The words for a header that cannot be made, in one piece. -/
private theorem message_invalidHeader (key : String) :
    (RelayError.config (.invalidHeader key)).message =
      "Configuration error: Invalid value for " ++ key ++ ": failed to parse metadata value" := by
  -- The words come from two places: what kind of problem it is, and which header is to blame.
  have opening : "Configuration error: " ++ "Invalid value for " =
      "Configuration error: Invalid value for " := by decide
  calc (RelayError.config (.invalidHeader key)).message
    _ = "Configuration error: " ++
        ("Invalid value for " ++ key ++ ": failed to parse metadata value") := rfl
    _ = "Configuration error: " ++ "Invalid value for " ++ key ++
        ": failed to parse metadata value" := by simp only [String.append_assoc]
    _ = _ := by rw [opening]

/-- When a header cannot be made, there is no connection and no call. -/
theorem refused_of_unbuilt {config : Config} {key : String}
    (unbuilt : config.headers = .error (.invalidHeader key)) : config.Refused key := by
  -- A server may be reached still, but nothing can be sent to it.
  have refuses (σ : Type) (network : Network σ) : network.connect config =
      (network.reach config).bind fun _ => .error (.config (.invalidHeader key)) := by
    rw [network.connect_eq, unbuilt]
    rfl
  refine ⟨unbuilt, message_invalidHeader key, refuses,
    fun options surroundings manifests loaded σ network ids state => ?_⟩
  simp only [Command.Options.run, loaded, refuses]
  cases network.reach config <;> rfl

/-- For every configuration, each credential that it sets goes with every call, as it was set and in a
header of its own beside the number of the request, or else no call is made, and the first credential
that has a control character of ASCII is to blame as soon as a server is reached. -/
theorem calls_carry_credentials (config : Config) : ∃ headers, config.Lists headers ∧
    match headers.find? fun header => ¬ Header.IsClean header.value with
    | none => config.Carried headers
    | some header => config.Refused header.key := by
  -- The headers are those wanted; whether one of them has a bad character decides the case.
  refine ⟨config.wanted, config.lists_wanted, ?_⟩
  have decided := config.headers_eq_find?
  cases found : config.wanted.find? fun header => ¬ Header.IsClean header.value with
  | none =>
    rw [found] at decided
    refine config.lists_wanted.carried decided fun header member => ?_
    simpa using List.find?_eq_none.1 found header member
  | some header =>
    rw [found] at decided
    exact refused_of_unbuilt decided

/-- A configuration that sets all credentials, one of them with a tab in it. -/
def credentialed : Config where
  baseUrl := "http://127.0.0.1:9000"
  projectName := "acme/web"
  token := some "s3cret"
  tenantId := some "tenant 1"
  mockUser := some "first\tlast"

/-- The same configuration with a tenant that would bring a header of its own. -/
def forging : Config := { credentialed with tenantId := some "tenant 1\r\nx-mock-user: root" }

/-- A network in which everybody answers as a script says. -/
def openNetwork : Network Nat := ⟨fun _ => some Script.smooth.server⟩

/-- Calls of the three kinds. -/
def rehearsalCalls : List Call :=
  [.create ⟨"tool", "1.0.0", "acme/web", none, none, none, none⟩,
    .publish ⟨some ⟨"session-1"⟩, none, none, none⟩, .complete "session-1" .success]

/-- The credentials go with each of the calls, and the tenant that would bring a header is reported. -/
theorem calls_carry_credentials_in_rehearsal :
    (∃ connection, openNetwork.connect credentialed = .ok connection ∧
      (connection.sends (fun number => .ofRandom 0 (.ofNat number)) 0 rehearsalCalls).map (·.headers) =
        ["00000000-0000-4000-8000-000000000000", "00000000-0000-4000-8000-000000000001",
          "00000000-0000-4000-8000-000000000002"].map fun number =>
            [⟨"authorization", "Bearer s3cret"⟩, ⟨"x-tenant-id", "tenant 1"⟩,
              ⟨"x-mock-user", "first\tlast"⟩, ⟨"x-request-id", number⟩]) ∧
      forging.Refused "x-tenant-id" := by
  constructor
  · have ready : credentialed.headers = .ok [⟨"authorization", "Bearer s3cret"⟩,
      ⟨"x-tenant-id", "tenant 1"⟩, ⟨"x-mock-user", "first\tlast"⟩] := by decide +kernel
    have made : Endpoint.ofBaseUrl credentialed.baseUrl = .ok ⟨false, "127.0.0.1", 9000⟩ := by
      decide +kernel
    -- The theorem leaves two outcomes, of which what the headers come to decides.
    obtain ⟨headers, -, outcome⟩ := calls_carry_credentials credentialed
    split at outcome
    · obtain rfl := Except.ok.inj (ready.symm.trans outcome.built)
      have connected := outcome.connects Nat openNetwork
      rw [Network.reach_of_ok made] at connected
      refine ⟨_, connected, ?_⟩
      rw [outcome.sends Nat openNetwork _ connected]
      decide +kernel
    · exact absurd (ready.symm.trans outcome.unbuilt) nofun
  · -- The first header could be made, so that the second is the one to be reported.
    have unready : forging.headers = .error (.invalidHeader "x-tenant-id") := by decide +kernel
    obtain ⟨headers, -, outcome⟩ := calls_carry_credentials forging
    split at outcome
    · exact absurd (unready.symm.trans outcome.built) nofun
    · have same := ConfigFault.invalidHeader.inj (Except.error.inj (unready.symm.trans outcome.unbuilt))
      exact same ▸ outcome

/-- A configuration whose token has a letter beyond ASCII. -/
def accented : Config where
  baseUrl := "http://127.0.0.1:9000"
  projectName := "acme/web"
  token := some "tok\u00e9n"

/-- A configuration whose token would end its header, with a base URL where nobody may be listening. -/
def broken : Config where
  baseUrl := "http://127.0.0.1:1"
  projectName := "acme/web"
  token := some "new\nline"

/-- A letter beyond ASCII goes with a call, and a header that cannot be made is not what is reported when
nobody is reached. -/
theorem accents_sent_and_fault_unnamed :
    (∃ connection, openNetwork.connect accented = .ok connection ∧
      ∃ envelope ∈ connection.sends (fun number => .ofRandom 0 (.ofNat number)) 0 rehearsalCalls,
        ⟨"authorization", "Bearer tok\u00e9n"⟩ ∈ envelope.headers) ∧
      '\u00e9' ∈ "Bearer tok\u00e9n".toList ∧ '~' < '\u00e9' ∧
      broken.headers = .error (.invalidHeader "authorization") ∧
      (Network.unreachable : Network Nat).connect broken = .error .transport := by
  have ready : accented.headers = .ok [⟨"authorization", "Bearer tok\u00e9n"⟩] := by decide +kernel
  have made : Endpoint.ofBaseUrl accented.baseUrl = .ok ⟨false, "127.0.0.1", 9000⟩ := by
    decide +kernel
  have connected : openNetwork.connect accented =
      .ok ⟨Script.smooth.server, [⟨"authorization", "Bearer tok\u00e9n"⟩]⟩ := by
    rw [Network.connect_eq, Network.reach_of_ok made, ready]
    rfl
  have elsewhere : Endpoint.ofBaseUrl broken.baseUrl = .ok ⟨false, "127.0.0.1", 1⟩ := by
    decide +kernel
  refine ⟨⟨_, connected, ?_⟩, by decide, by decide, by decide +kernel, ?_⟩
  · -- Every envelope has the header; the first is as good as any.
    rw [Connection.sends_eq]
    decide +kernel
  · -- The dial fails first, so the headers are never looked at.
    rw [Network.connect_eq, Network.reach_of_ok elsewhere]
    rfl

end Config

end InsightRelay
