import Possession.Error
import Possession.Text.Blank
import Possession.Web.Url

/-!
# Request targets

A proof names the request that it was made for by a method and a URL in canonical form:
scheme, host, port if it is not the default, and path. User, query and fragment are left
out.
-/

namespace Possession.Proof

structure Target where
  method : String
  url : String
deriving Repr, DecidableEq

def methods : List String :=
  ["GET", "HEAD", "POST", "PUT", "PATCH", "DELETE", "CONNECT", "OPTIONS", "TRACE"]

def capitals (s : String) : String := String.ofList (s.toList.map Char.toUpper)

def isMethod (s : String) : Bool := methods.contains (capitals s)

/-- The canonical form of a URL that has been read. A port is written only if the URL has
kept one, which it does not if it is the default of the scheme. -/
def renderCanonical (url : Web.Url) (host : Web.Host) : String :=
  url.scheme ++ "://" ++ host.render ++
    (match url.port with
    | some p => ":" ++ toString p
    | none => "") ++ url.path

/-- The canonical form of a URL of the web. Prover and verifier both apply it to what they
are given, so that two ways of writing one request agree. -/
def canonicalUrl (D : Web.Url.DomainReader) (text : String) : Result String :=
  match Web.Url.parse D text with
  | .error e => .error (.argument ("Invalid URL format: " ++ e.message))
  | .ok url =>
    if url.scheme = "http" ∨ url.scheme = "https" then
      match url.host with
      | some host => .ok (renderCanonical url host)
      | none => .error (.argument "URL missing host")
    else .error (.argument ("Unsupported URL scheme: " ++ url.scheme))

/-- The target of a request. Both texts are looked at for blanks before the method is looked
up, and the URL is read last. -/
def Target.ofRequest (D : Web.Url.DomainReader) (method url : String) : Result Target :=
  if Text.isBlank method then .error (.argument "HTTP method must not be blank")
  else if Text.isBlank url then .error (.argument "HTTP URL must not be blank")
  else
    let m := capitals method
    if isMethod m then (canonicalUrl D url).map fun u => ⟨m, u⟩
    else .error (.argument ("Unsupported HTTP method: " ++ m))

end Possession.Proof
