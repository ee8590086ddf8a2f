import Possession.Digest.Sha2

/-!
# Keyed digests

HMAC and HKDF over a hash function given with its block length. Both are parametric in the
hash, so what is proved about their use holds for any function in its place.
-/

namespace Possession.Digest

/-- A hash function with the lengths of its block and of its digest in octets. -/
structure Hash where
  block : Nat
  size : Nat
  run : Bytes → Bytes

def Hash.sha256 : Hash := ⟨64, 32, Digest.sha256⟩

/-- The key brought to block length: hashed if longer, then filled with zero octets. -/
def blockKey (H : Hash) (key : Bytes) : Bytes :=
  let k := if key.length > H.block then H.run key else key
  k ++ List.replicate (H.block - k.length) 0

def hmac (H : Hash) (key msg : Bytes) : Bytes :=
  let k := blockKey H key
  H.run (k.map (· ^^^ 0x5c) ++ H.run (k.map (· ^^^ 0x36) ++ msg))

/-- `n` blocks of HKDF's expansion, from counter `i` and the block before. -/
def hkdfBlocks (H : Hash) (prk info : Bytes) : Nat → UInt8 → Bytes → Bytes
  | 0, _, _ => []
  | n + 1, i, prev =>
    let t := hmac H prk (prev ++ info ++ [i])
    t ++ hkdfBlocks H prk info n (i + 1) t

/-- HKDF: extract with a salt, expand to `size` octets. -/
def hkdf (H : Hash) (salt secret info : Bytes) (size : Nat) : Bytes :=
  (hkdfBlocks H (hmac H salt secret) info ((size + H.size - 1) / H.size) 1 []).take size

end Possession.Digest
