import Possession.Proof.Key
import Possession.Signature.Ecdsa
import Possession.Signature.Ed25519
import Possession.Signature.Rsa

/-!
# Signature algorithms

The algorithms that a header can name, the five that a proof may use, and the keys that
verify them. The algorithm chooses the curve and the hash; a key only has to be of its
family.
-/

namespace Possession.Jose

/-- An algorithm that a header may name. A header with any other name cannot be read at all,
while one of these that is not allowed is refused as such. -/
inductive Algorithm where
  | hs256 | hs384 | hs512
  | es256 | es384
  | rs256 | rs384 | rs512
  | ps256 | ps384 | ps512
  | edDsa
deriving Repr, DecidableEq, Inhabited

namespace Algorithm

def name : Algorithm → String
  | hs256 => "HS256"
  | hs384 => "HS384"
  | hs512 => "HS512"
  | es256 => "ES256"
  | es384 => "ES384"
  | rs256 => "RS256"
  | rs384 => "RS384"
  | rs512 => "RS512"
  | ps256 => "PS256"
  | ps384 => "PS384"
  | ps512 => "PS512"
  | edDsa => "EdDSA"

def all : List Algorithm :=
  [hs256, hs384, hs512, es256, es384, rs256, rs384, rs512, ps256, ps384, ps512, edDsa]

/-- The algorithms that a proof may use. This is a list of what is allowed and not of what
is forbidden, so that no proof can select a keyed digest, for which the public key in its
own header would be the secret. -/
def allowed : List Algorithm := [es256, es384, rs256, ps256, edDsa]

def ofJson (v : Json) : Json.Decoded Algorithm :=
  Json.decodeName (all.map fun a => (a.name, a)) v

end Algorithm

/-- A public key ready for use. The curve of a point is not part of it: which curve is meant
follows from the algorithm of the token. -/
inductive VerifyingKey where
  /-- The uncompressed form of a point: an octet 4, then both coordinates. -/
  | ec (point : Bytes)
  | rsa (n e : Bytes)
  | ed (point : Bytes)
deriving Repr, DecidableEq

namespace VerifyingKey

/-- The verifying key of a key as a proof writes it; nothing if one of its numbers is not in
base64url. The name of the curve is dropped here, though the thumbprint covers it. -/
def ofKey? : Proof.Key → Option VerifyingKey
  | .ec _ x y => do
    let x ← Text.Base64Url.decode? x
    let y ← Text.Base64Url.decode? y
    return ec (4 :: x ++ y)
  | .rsa n e => do
    let n ← Text.Base64Url.decode? n
    let e ← Text.Base64Url.decode? e
    return rsa n e
  | .okp _ x => do
    let x ← Text.Base64Url.decode? x
    return ed x

/-- Whether a key is of the family that an algorithm works with. A curve key suits both
curves, and the check of the signature then finds out that its point is not on the other
one. -/
def suits : Algorithm → VerifyingKey → Bool
  | .es256, ec _ | .es384, ec _ => true
  | .rs256, rsa .. | .rs384, rsa .. | .rs512, rsa .. => true
  | .ps256, rsa .. | .ps384, rsa .. | .ps512, rsa .. => true
  | .edDsa, ed _ => true
  | _, _ => false

end VerifyingKey

/-- A way to check signatures. What is proved of signed proofs holds for every such way, the
standard one among them. -/
structure Scheme where
  verify : Algorithm → VerifyingKey → (message signature : Bytes) → Bool

open Signature in
/-- The registered algorithms that a proof may use. All others verify nothing. -/
def Scheme.standard : Scheme where
  verify
    | .es256, .ec point, message, signature =>
      Ecdsa.verify .p256 (Digest.sha256 message) point signature
    | .es384, .ec point, message, signature =>
      Ecdsa.verify .p384 (Digest.sha384 message) point signature
    | .rs256, .rsa n e, message, signature =>
      (Rsa.PublicKey.ofBytes? n e).any fun k => Rsa.verifyFixed k message signature
    | .ps256, .rsa n e, message, signature =>
      (Rsa.PublicKey.ofBytes? n e).any fun k => Rsa.verifySalted k message signature
    | .edDsa, .ed point, message, signature => Ed25519.verify message point signature
    | _, _, _, _ => false

end Possession.Jose
