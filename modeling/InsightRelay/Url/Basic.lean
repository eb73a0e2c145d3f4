import InsightRelay.Url.Authority

/-! URLs, as far as a relay needs them: a scheme and an authority.

Paths and queries are checked and then left out. -/

namespace InsightRelay

/-- The parts of a URL that tell whom to call. -/
structure Url where
  scheme : Option String
  authority : Option String
deriving DecidableEq, Repr

namespace Url

/-- The greatest length of a URL in bytes. -/
def greatestSize : Nat := 65534

/-- The greatest length of a scheme. -/
def greatestSchemeLength : Nat := 64

/-- Whether a character may stand in a scheme. -/
def isSchemeChar (char : Char) : Bool :=
  char.isAlphanum || "+-.~".toList.contains char

/-- What is left of a text after a start that is written in any case of ASCII letters. -/
def afterAnyCase? (start text : List Char) : Option (List Char) :=
  if (text.take start.length).map Char.toLower = start then some (text.drop start.length) else none

/-- The scheme that a text starts with, if it starts with one, and what follows it. -/
def readScheme (text : List Char) : Except UrlProblem (Option String × List Char) :=
  match afterAnyCase? "http://".toList text with
  | some rest => .ok (some "http", rest)
  | none =>
    match afterAnyCase? "https://".toList text with
    | some rest => .ok (some "https", rest)
    | none =>
      let name := text.takeWhile isSchemeChar
      match text.drop name.length with
      | ':' :: '/' :: '/' :: rest =>
        -- A scheme may have no letters, but its three marks alone are not taken for one.
        if name.isEmpty && rest.isEmpty then .ok (none, text)
        else if greatestSchemeLength < name.length then .error .schemeTooLong
        else .ok (some (String.ofList name), rest)
      | _ => .ok (none, text)

/-- Whether a character is beyond ASCII, or a character of ASCII that is neither a space nor a control. -/
def isVisible (char : Char) : Bool :=
  '!' ≤ char && char != '\x7f'

/-- Whether a character may stand in a path. -/
def isPathChar (char : Char) : Bool :=
  isVisible char && !"<>\x60".toList.contains char

/-- Whether a character may stand in a query. -/
def isQueryChar (char : Char) : Bool :=
  isVisible char && !"\"<>".toList.contains char

/-- The first problem with a path and the query after it, if there is one; a fragment is not looked at. -/
def checkPath (text : List Char) : Except UrlProblem Unit :=
  let shown := text.takeWhile (· != '#')
  let path := shown.takeWhile (· != '?')
  let query := shown.drop (path.length + 1)
  if path.all isPathChar && query.all isQueryChar then .ok () else .error .invalidCharacter

/-- The URL of a text that is longer than one character and does not start with a path. -/
def readParts (text : List Char) : Except UrlProblem Url := do
  let (scheme, rest) ← readScheme text
  if rest.isEmpty then throw .empty
  let (authority, path) ← Authority.read rest
  match scheme with
  | some scheme =>
    if authority.isEmpty then throw .invalidFormat
    checkPath path
    return ⟨some scheme, some (String.ofList authority)⟩
  | none =>
    -- Without a scheme the authority has to be all there is.
    if !path.isEmpty then throw .invalidFormat
    return ⟨none, some (String.ofList authority)⟩

/-- The URL that a text holds. -/
def parse (text : String) : Except UrlProblem Url := do
  if greatestSize < text.utf8ByteSize then throw .tooLong
  match text.toList with
  | [] => throw .empty
  | ['*'] => return ⟨none, none⟩
  -- A path alone is a URL, but one that calls nobody.
  | '/' :: path =>
    checkPath ('/' :: path)
    return ⟨none, none⟩
  | [char] =>
    let (authority, path) ← Authority.read [char]
    if !path.isEmpty then throw .invalidCharacter
    return ⟨none, some (String.ofList authority)⟩
  | chars => readParts chars

end Url

/-- A scheme of any case is read, and a path alone has no authority. -/
example : (Url.parse "HTTP://a:80/b?c#d").toOption = some ⟨some "http", some "a:80"⟩ ∧
    (Url.parse "a:80").toOption = some ⟨none, some "a:80"⟩ ∧
    (Url.parse "/a").toOption = some ⟨none, none⟩ ∧
    (Url.parse "?q").toOption = none := by decide +kernel

/-- A scheme with nothing behind it is as good as no text, but one with a path behind it is misshapen. -/
example : Url.parse "http://" = .error .empty ∧ Url.parse "a://" = .error .empty ∧
    Url.parse "http:///" = .error .invalidFormat ∧ Url.parse "://" = .error .invalidFormat :=
  ⟨rfl, rfl, rfl, rfl⟩

end InsightRelay
