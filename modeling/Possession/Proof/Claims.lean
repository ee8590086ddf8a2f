import Possession.Json.Decode
import Possession.Json.Printer
import Possession.Digest.Fingerprint
import Possession.Entropy

/-!
# What a proof claims

A proof names itself, the request it was made for, and the second in which it was made; it
may also name the access token that it accompanies, by fingerprint.
-/

namespace Possession.Proof

structure Claims where
  /-- The proof's own identifier. -/
  jti : String
  /-- The method of the request. -/
  htm : String
  /-- The canonical URL of the request. -/
  htu : String
  /-- When the proof was made, in seconds since the epoch. -/
  iat : Int64
  /-- The fingerprint of the access token. -/
  ath : Option String
deriving Repr, DecidableEq

namespace Claims

/-- The claims as a JSON object. A proof without an access token has no member for its
fingerprint, not one that is null. -/
def toJson (c : Claims) : Json :=
  .obj ([("jti", .str c.jti), ("htm", .str c.htm), ("htu", .str c.htu),
    ("iat", .int c.iat.toInt)] ++
    match c.ath with
    | some a => [("ath", .str a)]
    | none => [])

open Json in
/-- Claims read from named members, in order of the names: the first member that is not of
its type is reported before any that is missing. -/
def ofMembers (members : List (String × Json)) : Decoded Claims := do
  let ath ← field "ath" (decodeOption decodeString) members
  let htm ← field "htm" decodeString members
  let htu ← field "htu" decodeString members
  let iat ← field "iat" decodeInt64 members
  let jti ← field "jti" decodeString members
  let jti ← require "jti" jti
  let htm ← require "htm" htm
  let htu ← require "htu" htu
  let iat ← require "iat" iat
  return ⟨jti, htm, htu, iat, ath.getD none⟩

open Json in
/-- Claims read from a list, by position. Only the last one may be left out. -/
def ofItems (expected : String) (items : List Json) : Decoded Claims := do
  let jti ← item expected 0 decodeString items
  let htm ← item expected 1 decodeString items
  let htu ← item expected 2 decodeString items
  let iat ← item expected 3 decodeInt64 items
  let ath ← itemD 4 none (decodeOption decodeString) items
  return ⟨jti, htm, htu, iat, ath⟩

def ofJson (v : Json) : Json.Decoded Claims :=
  Json.decodeRecord "ProofClaims" 5 ofMembers ofItems v

end Claims

/-- A fresh identifier: sixteen octets in base64url, which are 22 digits. -/
def drawId (entropy : Entropy) : Result String × Entropy :=
  let (r, entropy) := entropy.draw 16
  (r.map fun o => Text.Base64Url.encode o.bytes, entropy)

/-- The fingerprint under which a proof names an access token. -/
def tokenHash (token : String) : String := Digest.fingerprint (Bytes.ofString token)

/-- What a verified proof confirms: the thumbprint of the key that made it. -/
structure Confirmation where
  jkt : String
deriving Repr, DecidableEq

namespace Confirmation

def toJson (c : Confirmation) : Json := .obj [("jkt", .str c.jkt)]

open Json in
def ofJson : Json → Decoded Confirmation :=
  decodeRecord "Confirmation" 1
    (fun members => do return ⟨← require "jkt" (← field "jkt" decodeString members)⟩)
    (fun expected items => do return ⟨← item expected 0 decodeString items⟩)

end Confirmation

end Possession.Proof
