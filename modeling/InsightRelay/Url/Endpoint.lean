import InsightRelay.Url.Basic

/-! Endpoints: where to call a service, worked out from a base URL. -/

namespace InsightRelay

/-- Where a service is called, and whether the call is encrypted. -/
structure Endpoint where
  secure : Bool
  host : String
  port : Nat
deriving DecidableEq, Repr

namespace Endpoint

/-- The port of an endpoint whose URL names none that can be read. -/
def usualPort (secure : Bool) : Nat :=
  if secure then 443 else 80

/-- The endpoint in one text. -/
def address (endpoint : Endpoint) : String :=
  (if endpoint.secure then "https" else "http") ++ "://" ++ endpoint.host ++ ":" ++
    toString endpoint.port

/-- The endpoint of a URL that has an authority; only plain `http` is called without encryption. -/
def ofUrl? (url : Url) : Option Endpoint :=
  url.authority.map fun authority =>
    let secure := url.scheme != some "http"
    let name := authority.toList
    { secure := secure
      host := String.ofList (Authority.host name)
      -- A port that cannot be read looks like one that is not there.
      port := (Authority.port? name).getD (usualPort secure) }

/-- The endpoint of a base URL. -/
def ofBaseUrl (text : String) : Except ConfigFault Endpoint :=
  match Url.parse text with
  | .error problem => .error (.invalidUrl text problem)
  | .ok url =>
    match ofUrl? url with
    | some endpoint => .ok endpoint
    | none => .error (.hostMissing text)

end Endpoint

/-- Without a scheme the call is encrypted, and a port that cannot be read is the usual one. -/
example :
    (Endpoint.ofBaseUrl "a").toOption = some ⟨true, "a", 443⟩ ∧
    (Endpoint.ofBaseUrl "http://a:99999").toOption = some ⟨false, "a", 80⟩ := by decide +kernel

end InsightRelay
