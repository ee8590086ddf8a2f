import Possession.Jose.Jwt
import Possession.Proof.Envelope
import Possession.Text.Quoted

/-!
# Signing with ES256

A signer holds the public point of its key and a signing function. Its tokens carry the
public key in their header, so that they can be verified on their own.
-/

namespace Possession.Jose

def Jwt.envelope (S : Scheme) (jwt : Jwt) : Proof.Envelope :=
  ⟨jwt.typ, jwt.key, jwt.claims S⟩

/-- The reader of proofs that are signed tokens. Every verifier of such proofs has it,
whatever its store, its clock and its settings are. -/
def Jwt.parser (S : Scheme) : Proof.Parser :=
  fun raw => (Jwt.parse raw).map (Jwt.envelope S)

/-- A signer on P-256. Its key is known by the two coordinates of the public point; how it
signs is a function, so that what is proved of its tokens does not depend on how one-time
numbers are chosen. -/
structure Signer where
  x : Octets 32
  y : Octets 32
  sign : Bytes → Option Bytes

namespace Signer

/-- The signer of a private number between one and the order of the group, with one-time
numbers derived from the number and the message. -/
def ofPrivate? (d : Nat) : Option Signer :=
  if 0 < d ∧ d < Signature.Curve.p256.n then
    (Signature.Ecdsa.publicPoint? .p256 d).map fun (x, y) =>
      ⟨.ofNat 32 x, .ofNat 32 y,
        fun m => Signature.Ecdsa.sign? .p256 Digest.Hash.sha256 d (Digest.sha256 m)⟩
  else none

def key (s : Signer) : Proof.Key :=
  .ec "P-256" (Text.Base64Url.encode s.x.bytes) (Text.Base64Url.encode s.y.bytes)

/-- The public key as a header carries it. It names a use and an algorithm besides, which a
reader of the header checks and drops. -/
def headerKey (s : Signer) : Json :=
  .obj [("use", .str "sig"), ("alg", .str "ES256"), ("kty", .str "EC"),
    ("crv", .str "P-256"), ("x", .str (Text.Base64Url.encode s.x.bytes)),
    ("y", .str (Text.Base64Url.encode s.y.bytes))]

def header (s : Signer) (typ : String) : Json :=
  .obj [("typ", .str typ), ("alg", .str Algorithm.es256.name), ("jwk", s.headerKey)]

/-- The token of a type with a claim set. The signature is over the first two parts as they
are written. -/
def serialize (s : Signer) (typ : String) (claims : Json) : Result String :=
  let t : Compact := ⟨writePart (s.header typ), writePart claims, ""⟩
  match s.sign (Bytes.ofString t.message) with
  | some signature => .ok { t with signature := Text.Base64Url.encode signature }.render
  | none => .error (.signing "JWT signing failed: no signature could be made")

def serializer (s : Signer) : Proof.Serializer := ⟨s.key, s.serialize⟩

/-- The signer as a diagnostic dump shows it. The private number does not appear. -/
def debug (s : Signer) : String :=
  "Es256Signer \x7b public_key: " ++ Error.debugRecord "Ec"
    [("crv", Text.quote "P-256"), ("x", Text.quote (Text.Base64Url.encode s.x.bytes)),
      ("y", Text.quote (Text.Base64Url.encode s.y.bytes))] ++ ", .. \x7d"

end Signer

end Possession.Jose
