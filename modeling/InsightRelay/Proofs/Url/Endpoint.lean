import InsightRelay.Proofs.Url.Authority
import InsightRelay.Url.Endpoint
import Mathlib

/-! Base URLs as they are written, and the endpoints that are worked out from them. -/

namespace InsightRelay

namespace Url

/-- What a URL may start with: nothing, or a scheme and its three marks. -/
inductive Opening : List Char → Prop
  | nothing : Opening []
  | scheme {name : List Char} (uncut : ':' ∉ name) : Opening (name ++ "://".toList)

/-- A URL cut into what it starts with, the authority, and the path with all behind it. -/
structure Writing (text : String) where
  start : List Char
  name : List Char
  path : List Char
  whole : text.toList = start ++ name ++ path
  opening : Opening start
  inside : ∀ char ∈ name, Authority.isEnd char = false
  ends : ∀ char ∈ path.head?, Authority.isEnd char = true
  parts : Authority.Parts name

/-- The start of a URL whose calls are not encrypted, in any case of its letters. -/
def IsPlain (start : List Char) : Prop :=
  start.map Char.toLower = "http://".toList

/-- A start is found in any case of its letters. -/
theorem afterAnyCase?_eq_some_iff {start text rest : List Char} :
    afterAnyCase? start text = some rest ↔
      ∃ front, text = front ++ rest ∧ front.map Char.toLower = start := by
  unfold afterAnyCase?
  constructor
  · -- The start is as long in any case.
    intro found
    obtain ⟨same, rfl⟩ := Option.ite_some_none_eq_some.1 found
    exact ⟨text.take start.length, (List.take_append_drop ..).symm, same⟩
  · rintro ⟨front, rfl, rfl⟩
    simp

/-- A character that is no letter in lower case has been the same before. -/
private theorem eq_of_toLower {char mark : Char} (same : char.toLower = mark)
    (unlettered : mark.isLower = false) : char = mark := by
  -- What becomes another character becomes a letter in lower case.
  subst same
  rw [Char.isLower_toLower_eq_isAlpha] at unlettered
  have lower : ¬ char.isUpper := by
    intro upper
    simp [Char.isAlpha, upper] at unlettered
  exact (Char.toLower_eq_of_not_isUpper lower).symm

/-- Marks are what they are in any case. -/
private theorem opening_of_toLower {front : List Char} (name : List Char) (uncut : ':' ∉ name)
    (same : front.map Char.toLower = name ++ "://".toList) : Opening front := by
  -- The front is cut where its lower case is, and each of the three marks is kept.
  obtain ⟨word, marks, rfl, word_, marks_⟩ := List.map_eq_append_iff.1 same
  have written : marks = "://".toList := by
    obtain ⟨first, _, rfl, colon, rest⟩ := List.map_eq_cons_iff.1 marks_
    obtain ⟨second, _, rfl, slash, rest⟩ := List.map_eq_cons_iff.1 rest
    obtain ⟨third, _, rfl, slash', rest⟩ := List.map_eq_cons_iff.1 rest
    obtain rfl := List.map_eq_nil_iff.1 rest
    rw [eq_of_toLower colon rfl, eq_of_toLower slash rfl, eq_of_toLower slash' rfl]
    rfl
  rw [written]
  -- A colon in the word would be one in its lower case.
  refine .scheme fun member => uncut ?_
  rw [← word_]
  exact List.mem_map.2 ⟨':', member, rfl⟩

/-- A scheme in front of three marks is the start of the text. -/
private theorem whole_of_marked {text behind : List Char}
    (marked : text.drop (text.takeWhile isSchemeChar).length = ':' :: '/' :: '/' :: behind) :
    text = text.takeWhile isSchemeChar ++ "://".toList ++ behind := by
  -- The scheme is as much of the text as was dropped to find the marks.
  have front : text.take (text.takeWhile isSchemeChar).length = text.takeWhile isSchemeChar :=
    (List.prefix_iff_eq_take.1 (List.takeWhile_prefix _)).symm
  calc text
      = text.take (text.takeWhile isSchemeChar).length ++
          text.drop (text.takeWhile isSchemeChar).length := (List.take_append_drop ..).symm
    _ = text.takeWhile isSchemeChar ++ "://".toList ++ behind := by
      rw [front, marked]
      simp

/-- What a text starts with, given the scheme that is read from it. -/
private theorem opening_of_readScheme {text rest : List Char} {scheme : Option String}
    (read : readScheme text = .ok (scheme, rest)) :
    ∃ start, text = start ++ rest ∧ Opening start ∧ (scheme = some "http" ↔ IsPlain start) := by
  unfold readScheme at read
  split at read
  · rename_i found
    obtain ⟨rfl, rfl⟩ := Prod.mk.inj (Except.ok.inj read)
    obtain ⟨start, whole, plain⟩ := afterAnyCase?_eq_some_iff.1 found
    have opening := opening_of_toLower "http".toList (by decide) plain
    exact ⟨start, whole, opening, by simp [IsPlain, plain]⟩
  rename_i unplain
  -- The start of plain calls has been looked for, so what is found now is another one.
  have other : ∀ start, text = start ++ rest → ¬ IsPlain start := by
    intro start whole plain
    have found := afterAnyCase?_eq_some_iff.2 ⟨start, whole, plain⟩
    exact Option.some_ne_none _ (found.symm.trans unplain)
  -- Without a scheme the whole text is left.
  have bare : (none, text) = (scheme, rest) → ∃ start, text = start ++ rest ∧ Opening start ∧
      (scheme = some "http" ↔ IsPlain start) := by
    intro same
    obtain ⟨rfl, rfl⟩ := Prod.mk.inj same
    exact ⟨[], rfl, .nothing, by simp [IsPlain]⟩
  split at read
  · rename_i found
    obtain ⟨rfl, rfl⟩ := Prod.mk.inj (Except.ok.inj read)
    obtain ⟨start, whole, same⟩ := afterAnyCase?_eq_some_iff.1 found
    have opening := opening_of_toLower "https".toList (by decide) same
    exact ⟨start, whole, opening, by simp [other start whole]⟩
  extract_lets name at read
  split at read
  · rename_i behind marked
    split at read
    · exact bare (Except.ok.inj read)
    split at read
    · simp at read
    obtain ⟨rfl, rfl⟩ := Prod.mk.inj (Except.ok.inj read)
    have whole : text = name ++ "://".toList ++ behind := whole_of_marked marked
    -- What stands before the marks is a scheme, and in no case of letters the plain one.
    have uncut : ':' ∉ name := by
      intro member
      exact absurd (List.mem_takeWhile_imp member) (by decide)
    have unnamed : some (String.ofList name) ≠ some "http" := by
      intro same
      have http : name = "http".toList := by
        simpa [← String.toList_inj] using same
      apply other _ whole
      rw [http]
      show List.map _ _ = _
      decide
    exact ⟨_, whole, .scheme uncut, iff_of_false unnamed (other _ whole)⟩
  · exact bare (Except.ok.inj read)

/-- An authority that is read is what the text has up to an end. -/
private theorem parts_of_read {text name path : List Char}
    (read : Authority.read text = .ok (name, path)) :
    text = name ++ path ∧ (∀ char ∈ name, Authority.isEnd char = false) ∧
      (∀ char ∈ path.head?, Authority.isEnd char = true) ∧ Nonempty (Authority.Parts name) := by
  -- The text is cut at the first character that ends an authority.
  obtain ⟨⟨⟩, accepted, cut⟩ := bind_eq_ok_iff.1 read
  obtain ⟨rfl, rfl⟩ := Prod.mk.inj (Except.ok.inj cut)
  refine ⟨List.takeWhile_append_dropWhile.symm, ?_, ?_, Authority.exists_parts accepted⟩
  · intro char member
    simpa using List.mem_takeWhile_imp member
  · intro char member
    have stops := List.head?_dropWhile_not (fun char => !Authority.isEnd char) text
    rw [Option.mem_def.1 member] at stops
    simpa using stops

/-- A URL that does not start with a path is made of a scheme, if there is one, and an authority. -/
private theorem shape_of_readParts {text : List Char} {url : Url}
    (parsed : readParts text = .ok url) : ∃ scheme rest name path,
      readScheme text = .ok (scheme, rest) ∧ Authority.read rest = .ok (name, path) ∧
        url = ⟨scheme, some (String.ofList name)⟩ := by
  -- The checks on the way say nothing about the result, so they are peeled off.
  unfold readParts at parsed
  obtain ⟨⟨scheme, rest⟩, opened, parsed⟩ := bind_eq_ok_iff.1 parsed
  simp only [check_eq_ok_iff, bind_eq_ok_iff] at parsed
  obtain ⟨-, ⟨name, path⟩, read, made⟩ := parsed
  refine ⟨scheme, rest, name, path, opened, read, ?_⟩
  -- What is checked of the path leaves no trace.
  cases scheme with
  | none =>
    simp only [check_eq_ok_iff] at made
    exact (Except.ok.inj made.2).symm
  | some scheme =>
    simp only [check_eq_ok_iff, bind_eq_ok_iff] at made
    obtain ⟨-, -, -, made⟩ := made
    exact (Except.ok.inj made).symm

/-- A URL with an authority is written with one, and with the scheme that is read from it. -/
theorem exists_writing {text : String} {url : Url} {authority : String}
    (parsed : parse text = .ok url) (named : url.authority = some authority) :
    ∃ writing : Writing text, writing.name = authority.toList ∧
      (url.scheme = some "http" ↔ IsPlain writing.start) := by
  -- The text decides which of the cases applies, and a path alone has no authority.
  unfold parse at parsed
  split at parsed <;> simp only [check_eq_ok_iff, bind_eq_ok_iff] at parsed
  case h_1 => simp [throw, throwThe, MonadExceptOf.throw] at parsed
  case h_2 =>
    obtain ⟨-, made⟩ := parsed
    obtain rfl := Except.ok.inj made
    exact nomatch named
  case h_3 =>
    obtain ⟨-, -, -, made⟩ := parsed
    obtain rfl := Except.ok.inj made
    exact nomatch named
  -- A single character is an authority of its own.
  case h_4 char _ _ single =>
    obtain ⟨-, ⟨name, path⟩, read, -, made⟩ := parsed
    obtain rfl := Except.ok.inj made
    obtain ⟨whole, inside, ends, ⟨parts⟩⟩ := parts_of_read read
    obtain rfl := Option.some.inj named
    exact ⟨⟨[], name, path, by simp [single, whole], .nothing, inside, ends, parts⟩, by simp,
      by simp [IsPlain]⟩
  case h_5 =>
    obtain ⟨scheme, rest, name, path, opened, read, rfl⟩ := shape_of_readParts parsed.2
    obtain ⟨start, front, opening, plain⟩ := opening_of_readScheme opened
    obtain ⟨rfl, inside, ends, ⟨parts⟩⟩ := parts_of_read read
    obtain rfl := Option.some.inj named
    exact ⟨⟨start, name, path, by simp [front], opening, inside, ends, parts⟩, by simp, plain⟩

/-- The scheme by which calls are encrypted or not. -/
def schemeOf (secure : Bool) : String :=
  if secure then "https" else "http"

/-- A text of a scheme and an authority, and nothing else, is read as these two. -/
theorem shape_of_parse {text : String} {secure : Bool} {name : List Char}
    (whole : text.toList = (schemeOf secure ++ "://").toList ++ name)
    (inside : ∀ char ∈ name, Authority.isEnd char = false) {url : Url}
    (parsed : parse text = .ok url) :
    url = ⟨some (schemeOf secure), some (String.ofList name)⟩ := by
  -- Both schemes are found at once, and they are too long for the other cases.
  have scheme : readScheme text.toList = .ok (some (schemeOf secure), name) := by
    rw [whole]
    cases secure <;> rfl
  obtain ⟨more, front⟩ : ∃ more, text.toList = 'h' :: 't' :: more := by
    rw [whole]
    cases secure <;> exact ⟨_, rfl⟩
  unfold parse at parsed
  split at parsed <;> simp only [check_eq_ok_iff] at parsed
  case h_5 =>
    obtain ⟨_, _, found, path, opened, read, rfl⟩ := shape_of_readParts parsed.2
    obtain ⟨rfl, rfl⟩ := Prod.mk.inj (Except.ok.inj (scheme.symm.trans opened))
    obtain ⟨rfl, -, ends, -⟩ := parts_of_read read
    -- No character of the authority ends it, so nothing is left for a path.
    cases path with
    | nil => simp
    | cons char rest =>
      have stops := ends char rfl
      rw [inside char (by simp)] at stops
      exact Bool.noConfusion stops
  all_goals
    -- The other cases are those of texts that start otherwise.
    rename_i same
    simp [front] at same

/-- What has to be dialled for a URL as it is written. -/
structure Writing.Names {text : String} (writing : Writing text) (endpoint : Endpoint) : Prop where
  /-- Calls are encrypted, unless the URL starts with the scheme of plain ones. -/
  secure : endpoint.secure = false ↔ IsPlain writing.start
  host : endpoint.host = String.ofList writing.parts.host
  address : endpoint.address = schemeOf endpoint.secure ++ "://" ++
    String.ofList writing.parts.host ++ ":" ++ toString endpoint.port
  /-- Whoever reads the address, if it can be read, finds the endpoint. -/
  again : ∀ url, parse endpoint.address = .ok url → Endpoint.ofUrl? url = some endpoint
  /-- A number behind the host is the port. -/
  written : ∀ lead digits number, writing.parts.behind = lead ++ ':' :: digits →
    WritesNumber digits number → number ≤ Authority.greatestPort → endpoint.port = number
  /-- Without a number that a port can be, the port is the usual one of the scheme. -/
  usual : (∀ lead digits number, writing.parts.behind = lead ++ ':' :: digits →
    WritesNumber digits number → Authority.greatestPort < number) →
      endpoint.port = if endpoint.secure then 443 else 80

end Url

namespace Endpoint

/-- A number does not end an authority. -/
private theorem isEnd_of_number {text : List Char} {number : Nat} (writes : WritesNumber text number)
    {char : Char} (member : char ∈ text) : Authority.isEnd char = false := by
  -- Each of the three characters that do is missing in a number.
  cases ends : Authority.isEnd char with
  | false => rfl
  | true =>
    exfalso
    simp only [Authority.isEnd, Bool.or_eq_true, beq_iff_eq] at ends
    rcases ends with (rfl | rfl) | rfl
    · exact writes.not_mem (by decide) (by decide) member
    · exact writes.not_mem (by decide) (by decide) member
    · exact writes.not_mem (by decide) (by decide) member

/-- The address of a host and a port is read as this host and this port. -/
private theorem ofUrl?_address {name : List Char} (parts : Authority.Parts name)
    (inside : ∀ char ∈ parts.host, Authority.isEnd char = false) {secure : Bool} {port : Nat}
    (within : port ≤ Authority.greatestPort) {url : Url}
    (parsed : Url.parse (address ⟨secure, String.ofList parts.host, port⟩) = .ok url) :
    ofUrl? url = some ⟨secure, String.ofList parts.host, port⟩ := by
  -- The host and the digits of the port make an authority, whose parts are known.
  have writes := writesNumber_toDigits port
  have whole : (address ⟨secure, String.ofList parts.host, port⟩).toList =
      (Url.schemeOf secure ++ "://").toList ++ (parts.host ++ ':' :: Nat.toDigits 10 port) := by
    simp [address, Url.schemeOf, Nat.toString_eq_repr, Nat.repr_eq_ofList_toDigits]
  have plain : ∀ char ∈ parts.host ++ ':' :: Nat.toDigits 10 port,
      Authority.isEnd char = false := by
    intro char member
    rcases List.mem_append.1 member with early | late
    · exact inside char early
    rcases List.mem_cons.1 late with rfl | digit
    · decide
    · exact isEnd_of_number writes digit
  obtain rfl := Url.shape_of_parse whole plain parsed
  -- With the port behind the host, the parts read from the address are those that it was made of.
  have host := Authority.host_of_parts (parts.withPort port)
  have alone : (parts.withPort port).behind = [] ++ ':' :: Nat.toDigits 10 port := rfl
  have read := Authority.port?_written (parts.withPort port) alone writes within
  cases secure <;> simp [ofUrl?, Url.schemeOf, host, read] <;> rfl

/-- The port of an endpoint is one that there can be. -/
private theorem port_le (name : List Char) (secure : Bool) :
    (Authority.port? name).getD (usualPort secure) ≤ Authority.greatestPort := by
  cases read : Authority.port? name with
  | none => cases secure <;> decide
  | some number => exact Authority.port?_le read

/-- The endpoint of a base URL is the one that its writing names. -/
theorem names_of_ofBaseUrl {text : String} {endpoint : Endpoint}
    (made : ofBaseUrl text = .ok endpoint) :
    ∃ writing : Url.Writing text, writing.Names endpoint := by
  -- The endpoint is that of the URL, and the parts of the URL are those that are written.
  unfold ofBaseUrl at made
  split at made
  · simp at made
  rename_i url parsed
  split at made
  · rename_i of_url
    obtain rfl := Except.ok.inj made
    obtain ⟨authority, named, rfl⟩ := Option.map_eq_some_iff.1 of_url
    obtain ⟨writing, name, plain⟩ := Url.exists_writing parsed named
    refine ⟨writing, ?secure, ?host, ?address, ?again, ?written, ?usual⟩
    all_goals simp only [← name, Authority.host_of_parts writing.parts]
    case secure => simpa using plain
    case address => rfl
    -- To read the address again gives the same endpoint.
    case again =>
      have inside : ∀ char ∈ writing.parts.host, Authority.isEnd char = false := by
        intro char member
        refine writing.inside char ?_
        rw [writing.parts.whole]
        simp [member]
      exact fun url' read => ofUrl?_address writing.parts inside (port_le _ _) read
    case written =>
      intro lead digits number behind writes within
      rw [Authority.port?_written writing.parts behind writes within, Option.getD_some]
    case usual =>
      -- Whatever is read as a port is written behind the host.
      intro unwritten
      have none : Authority.port? writing.name = none := by
        rw [Option.eq_none_iff_forall_ne_some]
        intro number read
        obtain ⟨lead, digits, behind, writes, within⟩ := Authority.port?_behind writing.parts read
        exact absurd (unwritten lead digits number behind writes) (by omega)
      rw [none, Option.getD_none, usualPort]
  · simp at made

end Endpoint

end InsightRelay
