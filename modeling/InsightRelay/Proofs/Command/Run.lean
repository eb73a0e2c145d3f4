import InsightRelay.Client.Scripted
import InsightRelay.Command.Run
import InsightRelay.Proofs.Relay.Delivery

/-! Runs of the program: nobody is called before everything is read, and what is told at the end is
true. -/

namespace InsightRelay

open Relay

namespace Relay

/-- Where nobody arrives, nobody has to be answered. -/
theorem Undisturbed.answered {start relay : Relay} {actions : List Action}
    (undisturbed : Undisturbed actions) (ran : start.run actions = some relay) :
    Answered start [] [] actions relay := by
  refine ⟨ran, undisturbed.demands, fun position demand _ there => ?_, fun key session member => ?_, ?_⟩
  · simpa [Action.task?] using undisturbed _ (List.mem_of_getElem? there)
  · simpa [Action.task?] using undisturbed _ member
  · simp [callers, undisturbed.demands]

end Relay

namespace Command

variable {options : Options} {surroundings : Surroundings}

/-- The ways in which a run can end, with the calls that it made, whatever the service replies and
however the tasks of the relay alternate. -/
inductive MayEnd (options : Options) (surroundings : Surroundings) :
    (outcome : Outcome) → (calls : List Exchange) → Prop
  | unread {failure : Failure} (unread : options.load surroundings = .error failure) :
    MayEnd options surroundings (.failed failure) []
  | unconnected {config : Config} {manifests : List Manifest}
    (loaded : options.load surroundings = .ok (config, manifests)) (problem : RelayError) :
    MayEnd options surroundings (.failed (.start problem)) []
  | refused {σ : Type} {service : Service σ} {state : σ} {config : Config}
    {manifests : List Manifest} {problem : RelayError}
    (loaded : options.load surroundings = .ok (config, manifests))
    (refused : (Relay.start config service state).1 = .error (.refused problem)) :
    MayEnd options surroundings (.failed (.start problem)) (Relay.start config service state).2.1
  | aborted {σ : Type} {service : Service σ} {state : σ} {config : Config}
    {manifests : List Manifest} {fault : StartFault}
    (loaded : options.load surroundings = .ok (config, manifests))
    (aborted : (Relay.start config service state).1 = .error fault)
    (fatal : ∀ problem, fault ≠ .refused problem) :
    MayEnd options surroundings .aborted (Relay.start config service state).2.1
  /-- The relay has started, and to finish has failed. -/
  | unfinished {σ : Type} {service : Service σ} {state : σ} {config : Config}
    {manifests : List Manifest} {start relay : Relay} {actions : List Action}
    {accepted : List Nat} {problem : RelayError}
    (loaded : options.load surroundings = .ok (config, manifests))
    (launched : launch config service state = .ok start)
    (answered : Answered start (manifests.map Demand.addManifest ++ [.finish])
      (accepted.map Ending.queued ++ [.failed problem]) actions relay) :
    MayEnd options surroundings (.failed (.finish problem)) relay.journal
  | synced {σ : Type} {service : Service σ} {state : σ} {config : Config}
    {manifests : List Manifest} {start relay : Relay} {actions : List Action}
    {accepted : List Nat} (loaded : options.load surroundings = .ok (config, manifests))
    (launched : launch config service state = .ok start)
    (answered : Answered start (manifests.map Demand.addManifest ++ [.finish])
      (accepted.map Ending.queued ++ [.finished]) actions relay) :
    MayEnd options surroundings
      (.synced ⟨manifests.length, accepted.sum, relay.queue.published, relay.queue.failed⟩)
      relay.journal

section Answers

variable {config : Config} {manifests : List Manifest} {start relay : Relay} {accepted : List Nat}
  {actions : List Action} {ending : Ending}

/-- Callers that bring manifests and finish come in sequence. -/
theorem inSequence_of_answered (answered : Answered start
    (manifests.map Demand.addManifest ++ [.finish]) (accepted.map Ending.queued ++ [ending])
    actions relay) : InSequence manifests start actions :=
  ⟨answered.demands, answered.inTurn, answered.own⟩

/-- The last answer is that to the one that finishes. -/
theorem ended_of_answered (answered : Answered start
    (manifests.map Demand.addManifest ++ [.finish]) (accepted.map Ending.queued ++ [ending])
    actions relay) :
    (Demand.finish, start.tasks.length + manifests.length) ∈ start.callers actions ∧
      relay.ending? (start.tasks.length + manifests.length) = some ending := by
  -- The demands were answered in their order, and finishing was the last of them.
  have callers := (inSequence_of_answered answered).callers
  have answers := answered.answers
  rw [callers, List.map_append, List.map_append] at answers
  refine ⟨callers ▸ List.mem_append_right _ List.mem_cons_self, ?_⟩
  simpa using (List.append_inj' answers rfl).2

end Answers

/-- Whatever a delivery that comes to an end does is one of these ways. -/
theorem deliver_mayEnd {σ : Type} {config : Config} {manifests : List Manifest}
    (loaded : options.load surroundings = .ok (config, manifests)) (service : Service σ) (state : σ) :
    (deliver service state config manifests).1 = .stuck ∨
      MayEnd options surroundings (deliver service state config manifests).1
        (deliver service state config manifests).2 := by
  unfold deliver
  rcases started : Relay.start config service state with ⟨result, journal, later⟩
  have first : (Relay.start config service state).1 = result := by rw [started]
  obtain rfl : (Relay.start config service state).2.1 = journal := by rw [started]
  cases result with
  | error fault =>
    -- A run that does not start says why, and nobody has come yet.
    cases fault with
    | refused problem => exact .inr (.refused loaded first)
    | capacity => exact .inr (.aborted loaded first nofun)
    | crashed => exact .inr (.aborted loaded first nofun)
  | ok workshop =>
    -- The relay starts without callers, and then everything that is delivered comes in turn.
    obtain ⟨start, actions, launched, undisturbed, ran⟩ := exists_run_of_start first
    have fresh := fresh_of_launch launched
    dsimp only
    cases ended : (workshop.deliver manifests).ending with
    | none => exact .inl rfl
    | some ending =>
      -- An ending tells that everything before it was answered too.
      obtain ⟨actions, answered⟩ :=
        Workshop.answered_deliver (undisturbed.answered ran) ended
      obtain ⟨arrived, told⟩ := ended_of_answered answered
      obtain ⟨-, role⟩ := ended_of_finish fresh answered.ran arrived told
      -- The last answer is that of the finisher, so no other ending fits.
      cases ending with
      | failed problem => exact .inr (.unfinished loaded launched answered)
      | finished => exact .inr (.synced loaded launched answered)
      | _ => simp [Ending.role] at role

/-- Whatever a run that comes to an end does is one of these ways. -/
theorem run_mayEnd {σ : Type} (options : Options) (surroundings : Surroundings)
    (network : Network σ) (ids : Nat → RequestId) (state : σ) :
    (options.run surroundings network ids state).1 = .stuck ∨
      MayEnd options surroundings (options.run surroundings network ids state).1
        (options.run surroundings network ids state).2 := by
  -- It ends where something cannot be read, where there is no connection, or with what is delivered.
  unfold Options.run
  cases loaded : options.load surroundings with
  | error failure => exact .inr (.unread loaded)
  | ok read =>
    obtain ⟨config, manifests⟩ := read
    dsimp only
    cases network.connect config with
    | error problem => exact .inr (.unconnected loaded problem)
    | ok connection => exact deliver_mayEnd loaded (connection.service ids) ⟨state, 0⟩

/-- A row of things is read if and only if each of them is. -/
private theorem mapM_eq_ok_iff {α β ε : Type} {read : α → Except ε β} {names : List α}
    {contents : List β} : names.mapM read = .ok contents ↔
      List.Forall₂ (fun name content => read name = .ok content) names contents := by
  -- Name by name; the first that cannot be read fails the whole row.
  induction names generalizing contents with
  | nil => simp [pure, Except.pure, eq_comm]
  | cons name names ih =>
    rw [List.mapM_cons, List.forall₂_cons_left_iff]
    simp only [← ih]
    cases read name <;> cases names.mapM read <;>
      simp [Bind.bind, Except.bind, pure, Except.pure, eq_comm]

/-- Everything is read if the configuration is and each manifest is. -/
theorem load_eq_ok_iff {config : Config} {manifests : List Manifest} :
    options.load surroundings = .ok (config, manifests) ↔
      options.loadConfig surroundings = .ok config ∧
        List.Forall₂ (fun path manifest => loadManifest surroundings path = .ok manifest)
          options.manifests manifests := by
  -- The configuration is read first, and then the manifests in their order.
  rw [← mapM_eq_ok_iff]
  unfold Options.load
  cases options.loadConfig surroundings <;>
    cases options.manifests.mapM (loadManifest surroundings) <;>
    simp [Bind.bind, Except.bind, pure, Except.pure]

/-- The configuration or a manifest cannot be read. -/
def Unreadable (options : Options) (surroundings : Surroundings) : Prop :=
  (∃ failure, options.loadConfig surroundings = .error failure) ∨
    ∃ path ∈ options.manifests, ∃ failure, loadManifest surroundings path = .error failure

/-- What can be relied on when a run has ended, with the calls that it made. -/
structure Truthful (options : Options) (surroundings : Surroundings) (outcome : Outcome)
    (calls : List Exchange) : Prop where
  /-- Nobody is called unless everything can be read. -/
  unread : Unreadable options surroundings → calls = [] ∧ ∃ failure, outcome = .failed failure
  /-- What is told of a run that succeeds is what it has done, and it leaves no session open. -/
  synced : ∀ summary, outcome = .synced summary → ∃ manifests : List Manifest,
    List.Forall₂ (fun path manifest => loadManifest surroundings path = .ok manifest)
      options.manifests manifests ∧
    summary.manifests = options.manifests.length ∧
    summary.queued = summary.published + summary.failed ∧
    summary.queued = (manifests.map fun manifest =>
      manifest.packages.countP fun package => !isBlankText package.name).sum ∧
    (calls.filterMap Exchange.completed?).Perm (calls.filterMap Exchange.opened?)
  /-- A run that fails after the relay has started has tried to complete every session. -/
  unfinished : ∀ problem, outcome = .failed (.finish problem) →
    ((calls.filterMap Exchange.completion?).map Prod.fst).Perm (calls.filterMap Exchange.opened?)

/-- When everything was read, nothing is unreadable. -/
theorem readable_of_load {config : Config} {manifests : List Manifest}
    (loaded : options.load surroundings = .ok (config, manifests)) :
    ¬ Unreadable options surroundings := by
  -- Whatever could not be read would stand at some place of what was read.
  obtain ⟨configured, each⟩ := load_eq_ok_iff.1 loaded
  rintro (⟨failure, unread⟩ | ⟨path, member, failure, unread⟩)
  · simp [configured] at unread
  · obtain ⟨position, inside, rfl⟩ := List.getElem_of_mem member
    have found := (List.forall₂_iff_get.1 each).2 position inside (each.length_eq ▸ inside)
    simp [unread] at found

/-- The records of a manifest are its entries with names. -/
theorem length_named (manifest : Manifest) : manifest.named.length =
    manifest.packages.countP fun package => !isBlankText package.name := by
  rw [Manifest.named, List.length_map, List.countP_eq_length_filter]

/-- Whatever the service replies and however the tasks of the relay alternate, what is told of a run
can be relied on. -/
theorem MayEnd.truthful {outcome : Outcome} {calls : List Exchange}
    (ends : MayEnd options surroundings outcome calls) :
    Truthful options surroundings outcome calls := by
  -- Only a run that synced has a summary, and one that did not start made no promise.
  cases ends with
  | unread unread => exact ⟨fun _ => ⟨rfl, _, rfl⟩, nofun, fun _ _ => .refl _⟩
  | unconnected loaded => exact ⟨fun not => absurd not (readable_of_load loaded), nofun, nofun⟩
  | refused loaded => exact ⟨fun not => absurd not (readable_of_load loaded), nofun, nofun⟩
  | aborted loaded => exact ⟨fun not => absurd not (readable_of_load loaded), nofun, nofun⟩
  | unfinished loaded launched answered =>
    refine ⟨fun not => absurd not (readable_of_load loaded), nofun, fun _ _ => ?_⟩
    obtain ⟨arrived, ended⟩ := ended_of_answered answered
    exact ((inSequence_of_answered answered).closed (fresh_of_launch launched) answered.ran arrived
      ended).1
  | @synced _ _ _ config manifests start relay actions accepted loaded launched answered =>
    refine ⟨fun not => absurd not (readable_of_load loaded), ?_, nofun⟩
    rintro summary ⟨⟩
    have fresh := fresh_of_launch launched
    have sequence := inSequence_of_answered answered
    obtain ⟨arrived, ended⟩ := ended_of_answered answered
    have each := (load_eq_ok_iff.1 loaded).2
    have once := exactlyOnce_of_finish fresh answered.ran sequence.visits.whole arrived ended
    obtain ⟨told, submitted⟩ := sequence.delivered fresh answered.ran arrived ended
    obtain ⟨closed, smooth⟩ := sequence.closed fresh answered.ran arrived ended
    -- The callers were told of all records with names, and these are all that came to an end.
    have queued : accepted = manifests.map fun manifest => manifest.named.length := by
      rw [answered.answers_eq] at told
      exact List.map_injective_iff.2 (fun _ _ => Ending.queued.inj) (List.append_cancel_right told)
    refine ⟨manifests, each, each.length_eq.symm, ?_, ?_, ?_⟩
    · rw [queued, once.balanced, submitted]
    · simp only [queued, length_named]
    · -- The one that finished was told of no failure, so there was none.
      have none_ : relay.completions.findSome? Prod.snd = none := by
        cases failed : relay.completions.findSome? Prod.snd with
        | none => rfl
        | some problem => simp [failed, Ending.ofFailure] at smooth
      rw [filterMap_completed? fresh answered.ran none_]
      exact closed

/-- A run that never ends has read everything. -/
theorem readable_of_stuck {σ : Type} {network : Network σ} {ids : Nat → RequestId} {state : σ}
    {calls : List Exchange} (ran : options.run surroundings network ids state = (.stuck, calls)) :
    ¬ Unreadable options surroundings := by
  unfold Options.run at ran
  cases loaded : options.load surroundings with
  | error failure => simp [loaded] at ran
  | ok read => exact readable_of_load loaded

/-- Whatever the options, the files and the service are, and however the tasks of the relay alternate,
nobody is called unless everything can be read, a run that succeeds tells what it has done with all
that was read and leaves no session open, and a run that fails after the relay has started has tried
to complete every session.

Runs on the fixed schedule are among these, unless they wait for ever. -/
theorem runs_are_truthful (options : Options) (surroundings : Surroundings) :
    (∀ outcome calls, MayEnd options surroundings outcome calls →
      Truthful options surroundings outcome calls) ∧
    ∀ (σ : Type) (network : Network σ) (ids : Nat → RequestId) (state : σ) (outcome : Outcome)
      (calls : List Exchange), options.run surroundings network ids state = (outcome, calls) →
        Truthful options surroundings outcome calls ∧
          (outcome = .stuck ∨ MayEnd options surroundings outcome calls) := by
  -- The way in which a run ends says what it reports; one that waits for ever reports nothing.
  refine ⟨fun _ _ => MayEnd.truthful, fun σ network ids state outcome calls ran => ?_⟩
  have ends := run_mayEnd options surroundings network ids state
  rw [ran] at ends
  refine ⟨?_, ends⟩
  rcases ends with rfl | ends
  · exact ⟨fun unread => absurd unread (readable_of_stuck ran), nofun, nofun⟩
  · exact ends.truthful

/-- Options to rehearse with: one manifest is brought twice. -/
def rehearsalOptions : Options where
  config := "sync.toml"
  multiProject := true
  workers := some 2
  logLevel := "info"
  manifests := ["web.json", "web.json"]

/-- Files to rehearse with: one of the two entries of the manifest has no name. -/
def rehearsalFiles : Surroundings where
  fileText path :=
    if path = "sync.toml" then .ok "base_url = \"http://host\"\nproject_name = \"p\""
    else if path = "web.json" then
      .ok "[\"npm\", \"web\", null, [[\"left\", \"1\"], [\" \", \"1\"]], null]"
    else .error .missing
  credentials := ⟨none, none, none⟩

/-- A network to rehearse in, where everybody follows a script. -/
def rehearsalNetwork (script : Script) : Network Nat := ⟨fun _ => some script.server⟩

/-- In the rehearsal the entries with names are published, and the one session is completed. -/
theorem runs_are_truthful_in_rehearsal : ∃ calls,
    rehearsalOptions.run rehearsalFiles (rehearsalNetwork .smooth) (fun _ => .ofRandom 0 0) 0 =
        (.synced ⟨2, 2, 2, 0⟩, calls) ∧
      calls.filterMap Exchange.completed? = ["session-1"] ∧
      Truthful rehearsalOptions rehearsalFiles (.synced ⟨2, 2, 2, 0⟩) calls ∧
      MayEnd rehearsalOptions rehearsalFiles (.synced ⟨2, 2, 2, 0⟩) calls := by
  -- The run is evaluated, and the theorem is applied to what came of it.
  have ran : rehearsalOptions.run rehearsalFiles (rehearsalNetwork .smooth)
      (fun _ => .ofRandom 0 0) 0 = (.synced ⟨2, 2, 2, 0⟩, _) := Prod.ext (by decide +kernel) rfl
  obtain ⟨truthful, ends⟩ := (runs_are_truthful _ _).2 _ _ _ _ _ _ ran
  exact ⟨_, ran, by decide +kernel, truthful, ends.resolve_left nofun⟩

end Command

end InsightRelay
