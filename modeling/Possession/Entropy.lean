import Possession.Error
import Possession.Random.ChaCha

/-!
# Entropy

Nonces, payloads and identifiers are drawn from a source of octets. A source is a value:
drawing from it gives the octets and the source that remains. A script of fixed octets
stands for any finite prefix of a random source, so what holds for every script holds for
whatever the operating system delivers; a seeded source gives a reproducible stream, and a
failing one nothing but its cause.
-/

namespace Possession

inductive Entropy where
  /-- The octets that are left. -/
  | script (left : Bytes)
  /-- A ChaCha stream, read up to word `pos`. -/
  | seeded (key : List UInt32) (pos : Nat)
  | failing (cause : Error)
deriving Repr, BEq

namespace Entropy

def ofSeed (seed : UInt64) : Entropy := seeded (Random.ChaCha.keyOfSeed seed) 0

def exhausted : Entropy := script []

/-- The failure of a script that is asked for more than it holds. Both counts are shown. -/
def shortage (wanted left : Nat) : Error :=
  .entropy ("fixed entropy exhausted: wanted " ++ toString wanted ++ " bytes, " ++
    toString left ++ " left")

/-- Draws `n` octets. A failed draw consumes nothing; a seeded source always gives whole
words and drops what is left of the last one. -/
def draw (n : Nat) : Entropy → Result (Octets n) × Entropy
  | script left =>
    if left.length < n then (.error (shortage n left.length), script left)
    else (.ok (.fit n left), script (left.drop n))
  | seeded key pos =>
    let count := (n + 3) / 4
    (.ok (.fit n ((Random.ChaCha.words key pos count).flatMap Random.ChaCha.octets)),
      seeded key (pos + count))
  | failing cause => (.error cause, failing cause)

theorem draw_script_of_le {n : Nat} {left : Bytes} (h : n ≤ left.length) :
    (script left).draw n = (.ok (.fit n left), script (left.drop n)) :=
  if_neg (Nat.not_lt.mpr h)

theorem draw_script_of_lt {n : Nat} {left : Bytes} (h : left.length < n) :
    (script left).draw n = (.error (shortage n left.length), script left) :=
  if_pos h

end Entropy

end Possession
