/-!
# Arithmetic modulo a number

Residues are natural numbers below the modulus. Powers are taken by squaring, along the
binary digits of the exponent; inverses modulo a prime are powers.
-/

namespace Possession.Signature.Modular

def sub (m a b : Nat) : Nat := (a + (m - b)) % m

/-- `base ^ e mod m`, for an exponent of at most `fuel` binary digits. -/
def powWithin (m base : Nat) : (fuel e : Nat) → Nat
  | 0, _ => 1 % m
  | fuel + 1, e =>
    if e = 0 then 1 % m
    else
      let half := powWithin m base fuel (e / 2)
      let square := half * half % m
      if e % 2 = 1 then square * base % m else square

def pow (m base e : Nat) : Nat := powWithin m base (e.log2 + 1) e

/-- The inverse of a residue modulo a prime, which is its power to `p - 2`. -/
def inverse (p a : Nat) : Nat := pow p a (p - 2)

end Possession.Signature.Modular
