/-!
# Octet strings

Everything that is hashed, signed or packed into a token is a list of octets. This module
holds the two views that the rest of the library uses: an octet string as a big-endian
number, and the UTF-8 form of a text.
-/

namespace Possession

/-- Octet strings are lists, so that a statement about all of them is proved by induction on
their octets. -/
abbrev Bytes := List UInt8

namespace Bytes

/-- The UTF-8 form of a text. -/
def ofString (s : String) : Bytes := s.toUTF8.data.toList

/-- The number written by an octet string, most significant octet first. -/
def toNat (bs : Bytes) : Nat := bs.foldl (fun n b => n * 256 + b.toNat) 0

/-- The low `width` octets of a number, most significant octet first. -/
def ofNat : (width : Nat) → Nat → Bytes
  | 0, _ => []
  | w + 1, n => ofNat w (n / 256) ++ [UInt8.ofNat n]

/-- Octet-wise exclusive or, as long as the shorter operand. -/
def xor (a b : Bytes) : Bytes := List.zipWith (· ^^^ ·) a b

/-- The text written by an octet string in UTF-8, if it is well formed. -/
def toString? (bs : Bytes) : Option String := String.fromUTF8? ⟨bs.toArray⟩

theorem foldl_toNat (bs : Bytes) (n : Nat) :
    bs.foldl (fun n b => n * 256 + b.toNat) n = n * Nat.pow 256 bs.length + toNat bs := by
  induction bs generalizing n with
  | nil => simp [toNat]
  | cons b bs ih =>
    simp only [List.foldl_cons, List.length_cons, toNat]
    rw [ih, ih (0 * 256 + b.toNat), Nat.pow]
    grind

theorem toNat_cons (b : UInt8) (bs : Bytes) :
    toNat (b :: bs) = b.toNat * Nat.pow 256 bs.length + toNat bs := by
  show List.foldl _ _ bs = _
  rw [foldl_toNat]
  simp

theorem toNat_dropWhile (bs : Bytes) : toNat (bs.dropWhile (· == 0)) = toNat bs := by
  induction bs with
  | nil => rfl
  | cons b bs ih =>
    by_cases h : b = 0
    · simp [h, ih, toNat_cons]
    · simp [h]

theorem toNat_pos_of_head {b : UInt8} (h : b ≠ 0) (bs : Bytes) : 0 < toNat (b :: bs) := by
  rw [toNat_cons]
  have : 0 < b.toNat := Nat.pos_of_ne_zero fun e => h (UInt8.toNat_inj.mp e)
  have hp : 0 < Nat.pow 256 bs.length := Nat.pow_pos (by decide)
  have := Nat.mul_pos this hp
  omega

@[simp] theorem length_ofNat (w n : Nat) : (ofNat w n).length = w := by
  induction w generalizing n with
  | zero => rfl
  | succ w ih => simp [ofNat, ih]

/-- Two octet strings agree. Every octet is looked at whatever the others are, because the
comparison is used on codes and fingerprints, and must not tell by its course where the
first difference lies. -/
def sameAs (a b : Bytes) : Bool :=
  a.length == b.length && (List.zipWith (· ^^^ ·) a b).all (· == 0)

/-- Lower-case hexadecimal form, two digits an octet. -/
def hex (bs : Bytes) : String :=
  String.ofList
    (bs.flatMap fun b => [Nat.digitChar (b.toNat / 16), Nat.digitChar (b.toNat % 16)])

end Bytes

/-- An octet string of known length. Nonces, payloads, codes and keys are of such types, so
that a width is a fact of the type and not a hypothesis of every lemma about it. -/
structure Octets (n : Nat) where
  bytes : Bytes
  length_eq : bytes.length = n
deriving DecidableEq, Repr

namespace Octets

/-- The first `n` octets of a string, with zero octets behind a string that is too short.
From the empty string this gives the zeros that reading base 62 starts with. -/
def fit (n : Nat) (bs : Bytes) : Octets n :=
  ⟨bs.take n ++ List.replicate (n - bs.length) 0, by simp; omega⟩

def ofBytes? (n : Nat) (bs : Bytes) : Option (Octets n) :=
  if h : bs.length = n then some ⟨bs, h⟩ else none

def ofNat (n value : Nat) : Octets n := ⟨Bytes.ofNat n value, by simp⟩

def toNat {n : Nat} (o : Octets n) : Nat := Bytes.toNat o.bytes

instance {n : Nat} : Inhabited (Octets n) := ⟨fit n []⟩

@[ext] theorem ext {n : Nat} {a b : Octets n} (h : a.bytes = b.bytes) : a = b := by
  cases a; cases b; simp_all

def append {m n : Nat} (a : Octets m) (b : Octets n) : Octets (m + n) :=
  ⟨a.bytes ++ b.bytes, by simp [a.length_eq, b.length_eq]⟩

end Octets

end Possession
