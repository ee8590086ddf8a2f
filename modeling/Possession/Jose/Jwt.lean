import Possession.Error
import Possession.Jose.Header
import Possession.Jose.Compact
import Possession.Proof.Claims

/-!
# Signed tokens as proofs

A token is read in two steps. `Jwt.parse` looks at the header alone: the algorithm has to be
one that proofs may use, and an embedded key has to be a public key. `Jwt.claimSet` then
checks the signature under a given key, and only after that looks at the claims.
-/

namespace Possession.Jose

/-- A token whose header has been read. The text is kept as it came, because the signature
is over that text and not over what was read of it. -/
structure Jwt where
  raw : String
  algorithm : Algorithm
  typ : Option String
  key : Option Proof.Key
deriving Repr, DecidableEq

namespace Jwt

def headerFailure (reason : String) : Error :=
  .format ("Failed to decode JWT header: " ++ reason)

def claimsFailure (reason : String) : Error :=
  .format ("Failed to decode JWT claims: " ++ reason)

def signatureFailure (reason : String) : Error :=
  .authentication ("JWT signature verification failed: " ++ reason)

def readHeader (raw : String) : Result Header :=
  match Compact.parse? raw with
  | none => .error (headerFailure "InvalidToken")
  | some t =>
    match readPart t.header with
    | .error e => .error (headerFailure e.message)
    | .ok v =>
      match Header.ofJson v with
      | .error _ => .error (headerFailure PartFailure.json.message)
      | .ok h => .ok h

def readKey : Option EmbeddedKey → Result (Option Proof.Key)
  | none => .ok none
  | some k =>
    match k.publicKey with
    | .ok k => .ok (some k)
    | .error m => .error (.format ("Invalid JWK in header: " ++ m.message))

/-- Reads the header of a token. Nothing is verified here, so neither the payload nor the
signature is looked at. -/
def parse (raw : String) : Result Jwt :=
  match readHeader raw with
  | .error e => .error e
  | .ok h =>
    -- before the key is looked at, so that a symmetric algorithm is refused by its name
    if h.alg ∈ Algorithm.allowed then
      (readKey h.jwk).map fun key => ⟨raw, h.alg, h.typ, key⟩
    else .error (.format ("Algorithm " ++ h.alg.name ++ " not allowed for proofs"))

/-- Whether a value may stand for a time among the registered claims. Times are not checked,
and what is not a time at all is passed over, but for a list or an object that is not
empty. -/
def isTimeLike : Json → Bool
  | .arr items => items.isEmpty
  | .obj members => members.isEmpty
  | _ => true

def isSubjectLike : Json → Bool
  | .arr _ | .obj _ => false
  | _ => true

/-- The registered claims, each with what it may be. A proof has no use for them; they are
read beside its own claims, and can only make the claim set unreadable. -/
def registered : List (String × (Json → Bool)) :=
  [("exp", isTimeLike), ("nbf", isTimeLike), ("sub", isSubjectLike), ("iss", fun _ => true),
    ("aud", fun _ => true)]

/-- Whether the registered claims of a claim set are well formed: none is repeated, and each
is what it may be. A list of just these claims, in order, passes as well. -/
def isClaimSet : Json → Bool
  | .obj members =>
    registered.all fun (name, allowed) =>
      match members.filter (·.1 == name) with
      | [] => true
      | [(_, v)] => allowed v
      | _ => false
  | .arr items =>
    items.length == registered.length &&
      (List.zipWith (fun v r => r.2 v) items registered).all id
  | _ => false

/-- The claim set in a payload, its members in order of their names. Of a claim of the proof
that is repeated the last value counts, since only the registered ones are held to occur
once. -/
def readClaimSet (payload : String) : Result Json :=
  match readPart payload with
  | .error e => .error (claimsFailure e.message)
  | .ok v =>
    if isClaimSet v then .ok v.normalize
    else .error (claimsFailure PartFailure.json.message)

/-- Checks the signature of a token under a key. A key of the wrong family and a signature
that does not verify are failures of authentication; a signature that is not in base64url is
malformed input. -/
def authenticate (S : Scheme) (algorithm : Algorithm) (key : VerifyingKey) (t : Compact) :
    Result Unit :=
  if !key.suits algorithm then .error (signatureFailure "InvalidKeyFormat")
  else
    match Text.Base64Url.decode? t.signature with
    | none => .error (claimsFailure PartFailure.encoding.message)
    | some signature =>
      if S.verify algorithm key (Bytes.ofString t.message) signature then .ok ()
      else .error (signatureFailure "InvalidSignature")

/-- The claim set of a token that verifies under a key. The payload is not looked at before
the signature has been checked. -/
def claimSet (S : Scheme) (jwt : Jwt) (key : Proof.Key) : Result Json :=
  match VerifyingKey.ofKey? key with
  | none =>
    .error (.format ("Failed to create " ++ key.kty ++ " decoding key: " ++
      PartFailure.encoding.message))
  | some vk =>
    match Compact.parse? jwt.raw with
    | none => .error (claimsFailure "InvalidToken")
    | some t =>
      match authenticate S jwt.algorithm vk t with
      | .error e => .error e
      | .ok () => readClaimSet t.payload

def claims (S : Scheme) (jwt : Jwt) (key : Proof.Key) : Result Proof.Claims :=
  match jwt.claimSet S key with
  | .error e => .error e
  | .ok v =>
    (Proof.Claims.ofJson v).mapError fun m =>
      .format ("Unexpected claim set: " ++ m.message)

end Jwt

end Possession.Jose
