import InsightRelay.Proofs.Relay.Account
import Mathlib.Data.List.Basic

/-! The reference: what comes of manifests that are worked on one package after the other, by a service
whose replies follow from its calls. -/

namespace InsightRelay

open Message

/-- The record of a package with a name. -/
def Manifest.translation (manifest : Manifest) (package : ManifestPackage) : PackageRecord where
  origin := manifest.origin
  name := package.name
  version := package.version
  dependencies := manifest.dependenciesOf package
  insights := package.insights

/-- The records of all packages that have names, in the order of the manifest. -/
def Manifest.named (manifest : Manifest) : List PackageRecord :=
  (manifest.packages.filter fun package => !isBlankText package.name).map manifest.translation

/-- The entries that give records are those with names. -/
theorem Manifest.goods_source (manifest : Manifest) : manifest.source.goods = manifest.named := by
  have entry (package : ManifestPackage) (position : Nat) :
      (manifest.record package position).toOption =
        if isBlankText package.name then none else some (manifest.translation package) := by
    -- A blank name is the only thing that keeps an entry from giving a record.
    unfold record
    split <;> rfl
  -- The positions of the entries are told in errors only.
  have general (packages : List ManifestPackage) (position : Nat) :
      ((packages.zipIdx position).map fun entry =>
          manifest.record entry.1 entry.2).filterMap Except.toOption =
        (packages.filter fun package => !isBlankText package.name).map manifest.translation := by
    induction packages generalizing position with
    | nil => rfl
    | cons package rest ih =>
      rw [List.zipIdx_cons, List.map_cons, List.filterMap_cons, ih, entry]
      cases blank : isBlankText package.name <;> simp [blank]
  exact general manifest.packages 0

/-- Every record of a manifest tells where it comes from. -/
theorem Manifest.origin_of_goods {manifest : Manifest} {record : PackageRecord}
    (member : record ∈ manifest.source.goods) : record.origin = manifest.source.origin := by
  rw [goods_source, named] at member
  obtain ⟨package, -, rfl⟩ := List.mem_map.1 member
  rfl

/-- The request for a session that was made in an exchange, if one was. -/
def Exchange.creation? (exchange : Exchange) : Option CreateToolSessionRequest :=
  match exchange.call with
  | .create request => some request
  | _ => none

/-- How a service replies: it opens every session that it is asked for, and what it makes of a record
depends on the request alone. -/
structure Conduct where
  /-- The session that is opened after a number of others. -/
  session : Nat → String
  /-- What is wrong with a request to publish, if anything is. -/
  verdict : PublishPackageInsightRequest → Option RelayError

namespace Conduct

/-- Whether an exchange goes as the conduct says after a number of sessions were opened. -/
def allows (conduct : Conduct) (opened : Nat) (exchange : Exchange) : Bool :=
  match exchange.call, exchange.reply with
  | .create _, reply => reply == .granted (conduct.session opened)
  | .publish request, .granted _ => (conduct.verdict request).isNone
  | .publish request, .refused problem => conduct.verdict request == some problem
  | .publish _, .crashed => false
  | .complete .., _ => true

/-- All exchanges go as the conduct says. -/
def Explains (conduct : Conduct) (journal : List Exchange) : Prop :=
  ∀ position exchange, journal[position]? = some exchange →
    conduct.allows ((journal.take position).filterMap Exchange.creation?).length exchange = true

instance (conduct : Conduct) (journal : List Exchange) : Decidable (conduct.Explains journal) :=
  decidable_of_iff (∀ position : Fin journal.length,
    conduct.allows ((journal.take position).filterMap Exchange.creation?).length
      journal[position] = true) <| by
    -- Beyond the end of the journal there is nothing to explain.
    constructor
    · intro all position exchange there
      obtain ⟨inside, same⟩ := List.getElem?_eq_some_iff.1 there
      exact same ▸ all ⟨position, inside⟩
    · exact fun explains position => explains position _ (List.getElem?_eq_getElem position.isLt)

variable {conduct : Conduct} {journal more : List Exchange} {exchange : Exchange}

/-- What explains all exchanges explains the first ones. -/
theorem Explains.earlier (explains : conduct.Explains (journal ++ more)) :
    conduct.Explains journal := by
  intro position exchange there
  have inside := (List.getElem?_eq_some_iff.1 there).1
  have all := explains position exchange (by rwa [List.getElem?_append_left inside])
  rwa [List.take_append_of_le_length (Nat.le_of_lt inside)] at all

/-- The last exchange goes as the conduct says after all others. -/
theorem Explains.last (explains : conduct.Explains (journal ++ [exchange])) :
    conduct.allows (journal.filterMap Exchange.creation?).length exchange = true := by
  simpa using explains journal.length exchange (by simp)

end Conduct

/-- The requests for sessions that were made, and the sessions that were opened, by their keys. -/
structure Ledger where
  requests : List CreateToolSessionRequest
  sessions : List (String × String)

namespace Ledger

/-- At first there is a session for the whole project, unless each manifest has its own. -/
def begin (config : Config) (conduct : Conduct) : Ledger :=
  if config.multiProject then ⟨[], []⟩
  else ⟨(config.sessionRequest config.projectName).toOption.toList,
    [(globalKey, conduct.session 0)]⟩

/-- The key of the session for a manifest. -/
def key (config : Config) (origin : ManifestOrigin) : String :=
  if config.multiProject then origin.path else globalKey

/-- The session for a key. -/
def session? (ledger : Ledger) (key : String) : Option String :=
  Dictionary.lookup key ledger.sessions

/-- A session is opened for a manifest, unless there is one. -/
def serve (config : Config) (conduct : Conduct) (ledger : Ledger) (origin : ManifestOrigin) :
    Ledger :=
  match ledger.session? (key config origin) with
  | some _ => ledger
  | none => {
    requests := ledger.requests ++ (config.sessionRequest origin.shownPath).toOption.toList
    sessions := ledger.sessions ++ [(key config origin, conduct.session ledger.requests.length)] }

/-- The ledger after manifests have come one after another. -/
def serveAll (config : Config) (conduct : Conduct) (origins : List ManifestOrigin) : Ledger :=
  origins.foldl (serve config conduct) (begin config conduct)

end Ledger

/-- What comes of manifests. -/
structure Outcome where
  /-- The requests for sessions, in the order in which they are made. -/
  created : List CreateToolSessionRequest
  /-- The requests that publish records. -/
  published : List PublishPackageInsightRequest
  /-- How many records of each manifest are accepted. -/
  counts : List Nat

/-- What comes of manifests whose packages are published one after the other in the sessions of the
manifests. -/
def reference (config : Config) (conduct : Conduct) (manifests : List Manifest) : Outcome :=
  let ledger := Ledger.serveAll config conduct (manifests.map Manifest.origin)
  { created := ledger.requests
    published := manifests.flatMap fun manifest => manifest.named.map fun record =>
      record.request ((ledger.session? (Ledger.key config manifest.origin)).getD "")
    counts := manifests.map fun manifest => manifest.named.length }

/-- How many workers there are and how much room is in the queue is nothing to the reference. -/
theorem reference_scale (config : Config) (conduct : Conduct) (manifests : List Manifest)
    (workers capacity : Nat) :
    reference { config with workerCount := workers, queueCapacity := capacity } conduct manifests =
      reference config conduct manifests := rfl

/-- Every record is published in the session of the manifest that it comes from. -/
theorem reference_published (config : Config) (conduct : Conduct) (manifests : List Manifest) :
    (reference config conduct manifests).published =
      (manifests.flatMap Manifest.named).map fun record => record.request
        (((Ledger.serveAll config conduct (manifests.map Manifest.origin)).session?
          (Ledger.key config record.origin)).getD "") := by
  rw [List.map_flatMap]
  -- The origin of a record is that of the manifest it is listed under.
  refine List.flatMap_congr fun manifest _ => List.map_congr_left fun record member => ?_
  rw [Manifest.origin_of_goods (manifest.goods_source ▸ member)]
  rfl

namespace Ledger

variable {config : Config} {conduct : Conduct} {ledger : Ledger} {origin : ManifestOrigin}
  {origins : List ManifestOrigin} {name session : String}

/-- One more manifest comes last. -/
theorem serveAll_snoc : serveAll config conduct (origins ++ [origin]) =
    serve config conduct (serveAll config conduct origins) origin := by
  simp [serveAll]

/-- A session at the end of the list serves a key that had none. -/
theorem lookup_snoc (entries : List (String × String)) (other : String) :
    Dictionary.lookup other (entries ++ [(name, session)]) =
      (Dictionary.lookup other entries <|> if name = other then some session else none) := by
  induction entries with
  | nil => by_cases same : name = other <;> simp [Dictionary.lookup, same]
  | cons first rest ih =>
    by_cases same : first.1 = other <;> simp [Dictionary.lookup, same, ih]

/-- Whoever has a session keeps it. -/
theorem session?_serve (found : ledger.session? name = some session) :
    (serve config conduct ledger origin).session? name = some session := by
  -- A new session comes behind all others, so it hides none of them.
  unfold serve
  split
  · exact found
  · rw [session?, lookup_snoc]
    rw [session?] at found
    simp [found]

/-- Whoever has a session keeps it, however many manifests come. -/
theorem session?_append (more : List ManifestOrigin)
    (found : (serveAll config conduct origins).session? name = some session) :
    (serveAll config conduct (origins ++ more)).session? name = some session := by
  -- The manifests that come later are served one by one from the last.
  induction more using List.reverseRecOn with
  | nil => simpa using found
  | append_singleton some_ last ih =>
    rw [← List.append_assoc, serveAll_snoc]
    exact session?_serve ih

/-- A manifest that has come has a session. -/
theorem session?_serve_self :
    ((serve config conduct ledger origin).session? (key config origin)).isSome = true := by
  -- Either the key has a session already, or the one that is opened goes under it.
  unfold serve
  split
  · next session found => simp [found]
  · next none_ =>
    rw [session?] at none_
    simp [session?, lookup_snoc, none_]

/-- Every manifest that has come has a session. -/
theorem session?_serveAll (member : origin ∈ origins) :
    ((serveAll config conduct origins).session? (key config origin)).isSome = true := by
  -- The induction takes manifests from the end, as later ones change no session.
  induction origins using List.reverseRecOn with
  | nil => simp at member
  | append_singleton past last ih =>
    rw [serveAll_snoc]
    rcases List.mem_append.1 member with earlier | now
    · obtain ⟨session, found⟩ := Option.isSome_iff_exists.1 (ih earlier)
      simp [session?_serve found]
    · rw [List.mem_singleton.1 now]
      exact session?_serve_self

/-- A project of many manifests has no session for all keys, as no manifest has that key. -/
theorem session?_globalKey (multi : config.multiProject = true)
    (plain : ∀ origin ∈ origins, origin.path ≠ globalKey) :
    (serveAll config conduct origins).session? globalKey = none := by
  -- Only manifests bring keys, and each of them brings its path.
  induction origins using List.reverseRecOn with
  | nil => simp [serveAll, begin, multi, session?, Dictionary.lookup]
  | append_singleton past last ih =>
    have earlier := ih fun origin member => plain origin (by simp [member])
    have differ := plain last (by simp)
    rw [serveAll_snoc, serve]
    split
    · exact earlier
    · rw [session?] at earlier
      simp [session?, lookup_snoc, earlier, key, multi, differ]

/-- A project with one session has it from the beginning. -/
theorem session?_single (single : config.multiProject = false) :
    (serveAll config conduct origins).session? globalKey = some (conduct.session 0) := by
  -- The session is there from the beginning, and no manifest changes it.
  induction origins using List.reverseRecOn with
  | nil => simp [serveAll, begin, single, session?, Dictionary.lookup]
  | append_singleton past last ih =>
    rw [serveAll_snoc]
    exact session?_serve ih

end Ledger

end InsightRelay
