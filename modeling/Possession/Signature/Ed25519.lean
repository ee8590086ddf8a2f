import Possession.Bytes
import Possession.Digest.Sha2
import Possession.Signature.Modular

/-!
# Ed25519

Points of the twisted Edwards curve `-x² + y² = 1 + d x² y²`, in extended coordinates
`(x, y, z, t)` with `x y = z t`. A point is encoded as its `y` with the parity of its `x` in
the top bit; only the reduced encoding is read.
-/

namespace Possession.Signature.Ed25519

def p : Nat := Nat.pow 2 255 - 19

def order : Nat := Nat.pow 2 252 + 27742317777372353535851937790883648493

def d : Nat := 37095705934669439343138083508754565189542113879843219016388785533085940283555

def rootOfMinusOne : Nat := Modular.pow p 2 ((p - 1) / 4)

structure Point where
  x : Nat
  y : Nat
  z : Nat
  t : Nat
deriving Repr

def ofAffine (x y : Nat) : Point := ⟨x, y, 1, x * y % p⟩

def neutral : Point := ofAffine 0 1

def base : Point :=
  ofAffine 15112221349535400772501151409588531511454012693041857206046113283949847762202
    46316835694926478169428394003475163141307993866256225615783033603165251855960

/-- The sum of two points. The formulas hold for all pairs, equal and opposite ones
included, so there are no cases. -/
def add (a b : Point) : Point :=
  let m := Modular.sub p
  let s := m a.y a.x * m b.y b.x % p
  let u := (a.y + a.x) * (b.y + b.x) % p
  let c := 2 * a.t * b.t % p * d % p
  let e := 2 * a.z * b.z % p
  let h := m u s
  let f := m e c
  let g := (e + c) % p
  let k := (u + s) % p
  ⟨h * f % p, g * k % p, f * g % p, h * k % p⟩

def negate (a : Point) : Point := ⟨Modular.sub p 0 a.x, a.y, a.z, Modular.sub p 0 a.t⟩

/-- A multiple of a point, for a factor of at most `fuel` bits. -/
def multiple (a : Point) : (fuel k : Nat) → Point
  | 0, _ => neutral
  | fuel + 1, k =>
    if k = 0 then neutral
    else
      let half := multiple a fuel (k / 2)
      let even := add half half
      if k % 2 = 1 then add even a else even

/-- The number written by octets, least significant first. -/
def number (bs : Bytes) : Nat := Bytes.toNat bs.reverse

def encode (a : Point) : Bytes :=
  let i := Modular.inverse p a.z
  let x := a.x * i % p
  let y := a.y * i % p
  (Bytes.ofNat 32 (y + x % 2 * Nat.pow 2 255)).reverse

/-- A square root of `u / v`, if there is one. -/
def root? (u v : Nat) : Option Nat :=
  let v3 := v * v % p * v % p
  let v7 := v3 * v3 % p * v % p
  let r := u * v3 % p * Modular.pow p (u * v7 % p) ((p - 5) / 8) % p
  let check := v * (r * r % p) % p
  if check = u then some r
  else if check = Modular.sub p 0 u then some (r * rootOfMinusOne % p)
  else none

/-- The point of an encoding, by way of a square root of `x²`. A `y` that is not reduced is
refused, and so is an odd parity where `x` is zero. -/
def decode? (bs : Bytes) : Option Point :=
  let n := number bs
  let y := n % Nat.pow 2 255
  let parity := n / Nat.pow 2 255
  if bs.length ≠ 32 ∨ y ≥ p then none
  else
    let yy := y * y % p
    match root? (Modular.sub p yy 1) ((d * yy + 1) % p) with
    | none => none
    | some r =>
      if r = 0 ∧ parity = 1 then none
      else some (ofAffine (if r % 2 = parity then r else p - r) y)

/-- What stands before the octets of a key in its self-describing form. -/
def keyHeader : Bytes :=
  [0x30, 0x2a, 0x30, 0x05, 0x06, 0x03, 0x2b, 0x65, 0x70, 0x03, 0x21, 0x00]

/-- The octets of a public key, which may be given in self-describing form. -/
def bareKey (key : Bytes) : Bytes :=
  if key.length = 44 ∧ key.take 12 = keyHeader then key.drop 12 else key

/-- Whether a signature of a message was made by the holder of a public key. The point of
the signature is not read: the one that it should be is computed and its encoding
compared. -/
def verify (message key signature : Bytes) : Bool :=
  let key := bareKey key
  let r := signature.take 32
  let s := number (signature.drop 32)
  match decode? key with
  | none => false
  | some a =>
    if signature.length = 64 ∧ s < order then
      let h := number (Digest.sha512 (r ++ key ++ message)) % order
      encode (add (multiple base 253 s) (multiple (negate a) 253 h)) == r
    else false

end Possession.Signature.Ed25519
