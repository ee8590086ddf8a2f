import Possession.Bytes
import Possession.Digest.Hmac
import Possession.Signature.Curve

/-!
# ECDSA

Signatures are two numbers of the size of the group, one after the other. The one-time
number of a signature is derived from the key and the message, so that signing is a
function.
-/

namespace Possession.Signature.Ecdsa

/-- The number that a message digest stands for: its leading bits, as many as the group
has. -/
def digestNumber (C : Curve) (digest : Bytes) : Nat :=
  Bytes.toNat (digest.take C.size) % C.n

/-- The public key in uncompressed form, if it is a point of the curve. The compressed form
is not read. -/
def point? (C : Curve) (key : Bytes) : Option Jacobian :=
  match key with
  | 4 :: coordinates =>
    if coordinates.length = 2 * C.size then
      let x := Bytes.toNat (coordinates.take C.size)
      let y := Bytes.toNat (coordinates.drop C.size)
      if C.contains x y then some (Curve.ofAffine x y) else none
    else none
  | _ => none

/-- Whether a signature of a message digest was made by the holder of a public key. -/
def verify (C : Curve) (digest key signature : Bytes) : Bool :=
  match point? C key with
  | none => false
  | some q =>
    let r := Bytes.toNat (signature.take C.size)
    let s := Bytes.toNat (signature.drop C.size)
    if signature.length = 2 * C.size ∧ 0 < r ∧ r < C.n ∧ 0 < s ∧ s < C.n then
      let w := Modular.inverse C.n s
      let u := digestNumber C digest * w % C.n
      let v := r * w % C.n
      match C.toAffine? (C.add (C.scale u C.base) (C.scale v q)) with
      | some (x, _) => x % C.n == r
      | none => false
    else false

def publicPoint? (C : Curve) (d : Nat) : Option (Nat × Nat) :=
  C.toAffine? (C.scale d C.base)

/-- The state of the derivation of one-time numbers: a key and a value, both as long as a
digest. -/
structure Derivation where
  key : Bytes
  value : Bytes

def Derivation.mix (H : Digest.Hash) (s : Derivation) (data : Bytes) : Derivation :=
  let key := Digest.hmac H s.key (s.value ++ data)
  ⟨key, Digest.hmac H key s.value⟩

/-- The first derived number between one and the order of the group, among `fuel`
candidates. For P-256 a candidate is out of range with odds of one to four billion. -/
def Derivation.number? (C : Curve) (H : Digest.Hash) :
    (fuel : Nat) → Derivation → Option Nat
  | 0, _ => none
  | fuel + 1, s =>
    let value := Digest.hmac H s.key s.value
    let k := Bytes.toNat value
    if 0 < k ∧ k < C.n then some k
    else number? C H fuel (Derivation.mix H ⟨s.key, value⟩ [0])

/-- The one-time number for a private number and a digest, on a curve whose coordinates are
as long as the hash. -/
def oneTime? (C : Curve) (H : Digest.Hash) (d : Nat) (digest : Bytes) : Option Nat :=
  let seed := Bytes.ofNat C.size d ++ Bytes.ofNat C.size (digestNumber C digest)
  let start : Derivation := ⟨List.replicate H.size 0, List.replicate H.size 1⟩
  Derivation.number? C H 64
    (Derivation.mix H (Derivation.mix H start (0 :: seed)) (1 :: seed))

def sign? (C : Curve) (H : Digest.Hash) (d : Nat) (digest : Bytes) : Option Bytes := do
  let k ← oneTime? C H d digest
  let (x, _) ← C.toAffine? (C.scale k C.base)
  let r := x % C.n
  let s := Modular.inverse C.n k * (digestNumber C digest + r * d % C.n) % C.n
  if r = 0 ∨ s = 0 then none else some (Bytes.ofNat C.size r ++ Bytes.ofNat C.size s)

end Possession.Signature.Ecdsa
