import InsightRelay.Error
import InsightRelay.Number.Digits

/-! The authority of a URL: who is called, after the scheme and before the path.

It may hold user information before an `@`, a host, which may be an address in brackets, and a port after
a colon. -/

namespace InsightRelay

/-- What a passage over an authority has met since the last `@`. -/
structure AuthorityMarks where
  colons : Nat
  opened : Bool
  closed : Bool
  percent : Bool
deriving DecidableEq, Repr

namespace Authority

/-- Whether a character ends the authority it follows. -/
def isEnd (char : Char) : Bool :=
  char == '/' || char == '?' || char == '#'

/-- Whether a character may stand anywhere in an authority. -/
def isPlain (char : Char) : Bool :=
  char.isAlphanum || "!$&'()*+,-.;=_~".toList.contains char

/-- How many colons an address in brackets may have. -/
def mostColons : Nat := 8

/-- The marks before the first character. -/
def noMarks : AuthorityMarks := ⟨0, false, false, false⟩

/-- The marks after one more character, unless it cannot stand where it does. -/
def pass (marks : AuthorityMarks) (char : Char) : Except UrlProblem AuthorityMarks :=
  match char with
  | ':' =>
    if mostColons ≤ marks.colons then .error .invalidAuthority
    else .ok { marks with colons := marks.colons + 1 }
  | '[' =>
    if marks.percent || marks.opened then .error .invalidAuthority
    else .ok { marks with opened := true }
  | ']' =>
    -- Colons and percent signs belong to the address that ends here.
    if !marks.opened || marks.closed then .error .invalidAuthority
    else .ok { marks with closed := true, colons := 0, percent := false }
  | '@' => .ok { marks with colons := 0, percent := false }
  | '%' => .ok { marks with percent := true }
  | char => if isPlain char then .ok marks else .error .invalidCharacter

/-- The first problem with the text of an authority, if there is one. -/
def check (name : List Char) : Except UrlProblem Unit := do
  let marks ← name.foldlM pass noMarks
  -- Brackets come in pairs, a host has one port, and something has to follow an `@`.
  if marks.opened != marks.closed || 1 < marks.colons || name.getLast? == some '@' || marks.percent then
    throw .invalidAuthority

/-- The authority that a text starts with, and what follows it. -/
def read (text : List Char) : Except UrlProblem (List Char × List Char) := do
  let name := text.takeWhile fun char => !isEnd char
  check name
  return (name, text.dropWhile fun char => !isEnd char)

/-- What follows the last occurrence of a character, if it occurs. -/
def afterLast? (mark : Char) : List Char → Option (List Char)
  | [] => none
  | char :: rest =>
    -- The last occurrence counts, so the rest is searched first.
    match afterLast? mark rest with
    | some found => some found
    | none => if char = mark then some rest else none

/-- The host of an authority: an address with its brackets, or everything up to a colon. -/
def host (name : List Char) : List Char :=
  match (afterLast? '@' name).getD name with
  | '[' :: rest => '[' :: rest.takeWhile (· != ']') ++ [']']
  | rest => rest.takeWhile (· != ':')

/-- The greatest port. -/
def greatestPort : Nat := 65535

/-- The port of an authority, if what follows its last colon can be read as one. -/
def port? (name : List Char) : Option Nat :=
  (afterLast? ':' name).bind (readNatural greatestPort)

end Authority

/-- User information is left out of the host, and a port that is too great counts as none. -/
example : Authority.host "user:pw@[::1]:80".toList = "[::1]".toList ∧
    Authority.port? "user:pw@[::1]:80".toList = some 80 ∧
    Authority.host "localhost:99999".toList = "localhost".toList ∧
    Authority.port? "localhost:99999".toList = none := by decide +kernel

end InsightRelay
