import InsightRelay.Config.Basic

/-! Headers: the credentials that go with every call of the service. -/

namespace InsightRelay

/-- A named text that goes with a call. -/
structure Header where
  key : String
  value : String
deriving DecidableEq, Repr

namespace Header

/-- Whether a character may stand in the value of a header: a tab, or no control character of ASCII. -/
def isValueChar (char : Char) : Bool :=
  char == '\t' || (' ' ≤ char && char != '\x7f')

/-- The header with a key and a value, which has to hold no other characters than it may. -/
def make (key value : String) : Except ConfigFault Header :=
  if value.toList.all isValueChar then .ok ⟨key, value⟩ else .error (.invalidHeader key)

/-- A header is put among others, in the place of one that has its key. -/
def place (header : Header) : (headers : List Header) → List Header
  | [] => [header]
  | other :: rest => if other.key = header.key then header :: rest else other :: header.place rest

end Header

/-- The credentials of a configuration, each with the key of its header. -/
def Config.credentials (config : Config) : List (String × String) :=
  (config.token.map fun token => ("authorization", "Bearer " ++ token)).toList ++
    (config.tenantId.map fun tenant => ("x-tenant-id", tenant)).toList ++
    (config.mockUser.map fun user => ("x-mock-user", user)).toList

/-- The headers that carry the credentials of a configuration, unless one of them cannot. -/
def Config.headers (config : Config) : Except ConfigFault (List Header) :=
  config.credentials.mapM fun (key, value) => Header.make key value

/-- The first credential that no header can carry is the one to be reported. -/
example :
    (Config.headers { baseUrl := "a", projectName := "p", token := some "t\tu" }).toOption =
      some [⟨"authorization", "Bearer t\tu"⟩] ∧
    (match Config.headers { baseUrl := "a", projectName := "p", tenantId := some "c\n", mockUser := some "\n" } with
      | .error fault => some fault
      | .ok _ => none) = some (.invalidHeader "x-tenant-id") := by
  decide +kernel

end InsightRelay
