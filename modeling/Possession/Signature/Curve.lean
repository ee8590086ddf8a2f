import Possession.Signature.Modular

/-!
# Short Weierstrass curves

Points of `y² = x³ - 3x + b` over a prime field, in Jacobian coordinates: `(x, y, z)` stands
for the point `(x / z², y / z³)`, and for the point at infinity if `z` is zero. Only the
last step of a computation divides.
-/

namespace Possession.Signature

/-- A curve with a base point: the order `p` of the field, the coefficient `b`, the order
`n` of the base point, which is a prime, its coordinates, and how many octets a coordinate
takes. -/
structure Curve where
  p : Nat
  b : Nat
  n : Nat
  baseX : Nat
  baseY : Nat
  size : Nat

structure Jacobian where
  x : Nat
  y : Nat
  z : Nat
deriving Repr

namespace Curve

def p256 : Curve where
  p := 0xffffffff00000001000000000000000000000000ffffffffffffffffffffffff
  b := 0x5ac635d8aa3a93e7b3ebbd55769886bc651d06b0cc53b0f63bce3c3e27d2604b
  n := 0xffffffff00000000ffffffffffffffffbce6faada7179e84f3b9cac2fc632551
  baseX := 0x6b17d1f2e12c4247f8bce6e563a440f277037d812deb33a0f4a13945d898c296
  baseY := 0x4fe342e2fe1a7f9b8ee7eb4a7c0f9e162bce33576b315ececbb6406837bf51f5
  size := 32

def p384 : Curve where
  p :=
    0xfffffffffffffffffffffffffffffffffffffffffffffffffffffffffffffffeffffffff0000000000000000ffffffff
  b :=
    0xb3312fa7e23ee7e4988e056be3f82d19181d9c6efe8141120314088f5013875ac656398d8a2ed19d2a85c8edd3ec2aef
  n :=
    0xffffffffffffffffffffffffffffffffffffffffffffffffc7634d81f4372ddf581a0db248b0a77aecec196accc52973
  baseX :=
    0xaa87ca22be8b05378eb1c71ef320ad746e1d3b628ba79b9859f741e082542a385502f25dbf55296c3a545e3872760ab7
  baseY :=
    0x3617de4a96262c6f5d9e98bf9292dc29f8f41dbd289a147ce9da3113b5f0b8c00a60b1ce1d7e819d7a431d7c90ea0e5f
  size := 48

variable (C : Curve)

def infinity : Jacobian := ⟨1, 1, 0⟩

def ofAffine (x y : Nat) : Jacobian := ⟨x, y, 1⟩

def base : Jacobian := ofAffine C.baseX C.baseY

/-- Whether affine coordinates are reduced and satisfy the equation of the curve. A key that
fails this is no point, and a signature under it does not verify. -/
def contains (x y : Nat) : Bool :=
  x < C.p && y < C.p && y * y % C.p == (x * x * x + (C.p - 3) * x + C.b) % C.p

def double (a : Jacobian) : Jacobian :=
  let p := C.p
  let delta := a.z * a.z % p
  let gamma := a.y * a.y % p
  let beta := a.x * gamma % p
  let alpha := 3 * (Modular.sub p a.x delta * (a.x + delta)) % p
  let x := Modular.sub p (alpha * alpha % p) (8 * beta % p)
  let z := Modular.sub p ((a.y + a.z) * (a.y + a.z) % p) ((gamma + delta) % p)
  let y :=
    Modular.sub p (alpha * Modular.sub p (4 * beta % p) x % p) (8 * gamma * gamma % p)
  ⟨x, y, z⟩

/-- The sum of two points. Equal points, opposite points and the point at infinity are cases
of their own, for which the general formulas are not made. -/
def add (a b : Jacobian) : Jacobian :=
  let p := C.p
  if a.z = 0 then b
  else if b.z = 0 then a
  else
    let za := a.z * a.z % p
    let zb := b.z * b.z % p
    let ua := a.x * zb % p
    let ub := b.x * za % p
    let sa := a.y * b.z % p * zb % p
    let sb := b.y * a.z % p * za % p
    if ua = ub then
      if sa = sb then C.double a else infinity
    else
      let h := Modular.sub p ub ua
      let r := Modular.sub p sb sa
      let hh := h * h % p
      let hhh := h * hh % p
      let v := ua * hh % p
      let x := Modular.sub p (r * r % p) ((hhh + 2 * v) % p)
      let y := Modular.sub p (r * Modular.sub p v x % p) (sa * hhh % p)
      ⟨x, y, a.z * b.z % p * h % p⟩

/-- A multiple of a point, along the binary digits of the factor. -/
def multiple (a : Jacobian) : (fuel k : Nat) → Jacobian
  | 0, _ => infinity
  | fuel + 1, k =>
    if k = 0 then infinity
    else
      let even := C.double (multiple a fuel (k / 2))
      if k % 2 = 1 then C.add even a else even

def scale (k : Nat) (a : Jacobian) : Jacobian := C.multiple a (8 * C.size) k

/-- The affine coordinates of a point that is not at infinity. -/
def toAffine? (a : Jacobian) : Option (Nat × Nat) :=
  if a.z = 0 then none
  else
    let i := Modular.inverse C.p a.z
    let ii := i * i % C.p
    some (a.x * ii % C.p, a.y * ii % C.p * i % C.p)

end Curve

end Possession.Signature
