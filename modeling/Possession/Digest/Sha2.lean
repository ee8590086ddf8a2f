import Possession.Bytes

/-!
# SHA-2

SHA-256, SHA-384 and SHA-512 share one shape: a padded message, a sliding window of sixteen
schedule words, and a round function on eight working words. `Sha2` holds what differs
between the word sizes; `Sha2.hash` is the shape. Each round consumes the head of the window
and appends one new word, so the schedule is never stored whole.
-/

namespace Possession.Digest

/-- What a word size fixes: arithmetic on words, their octets, and the round constants. -/
structure Sha2 (ω : Type) where
  wordBytes : Nat
  add : ω → ω → ω
  xor : ω → ω → ω
  and : ω → ω → ω
  not : ω → ω
  bigSigma0 : ω → ω
  bigSigma1 : ω → ω
  smallSigma0 : ω → ω
  smallSigma1 : ω → ω
  ofNat : Nat → ω
  toNat : ω → Nat
  constants : List ω

namespace Sha2

/-- The eight working words. -/
structure State (ω : Type) where
  a : ω
  b : ω
  c : ω
  d : ω
  e : ω
  f : ω
  g : ω
  h : ω
deriving Repr, BEq

namespace State

variable {ω : Type}

def toList (s : State ω) : List ω := [s.a, s.b, s.c, s.d, s.e, s.f, s.g, s.h]

def zipWith (f : ω → ω → ω) (s t : State ω) : State ω :=
  ⟨f s.a t.a, f s.b t.b, f s.c t.c, f s.d t.d, f s.e t.e, f s.f t.f, f s.g t.g, f s.h t.h⟩

end State

variable {ω : Type} (H : Sha2 ω)

/-- One round: constant `k`, schedule word `w`. -/
def round (k w : ω) (s : State ω) : State ω :=
  let choose := H.xor (H.and s.e s.f) (H.and (H.not s.e) s.g)
  let majority := H.xor (H.xor (H.and s.a s.b) (H.and s.a s.c)) (H.and s.b s.c)
  let t1 := H.add (H.add (H.add (H.add s.h (H.bigSigma1 s.e)) choose) k) w
  let t2 := H.add (H.bigSigma0 s.a) majority
  ⟨H.add t1 t2, s.a, s.b, s.c, H.add s.d t1, s.e, s.f, s.g⟩

/-- The word that enters the window when its head leaves. -/
def nextWord (window : List ω) : ω :=
  let at' (i : Nat) := window.getD i (H.ofNat 0)
  H.add (H.add (H.smallSigma1 (at' 14)) (at' 9)) (H.add (H.smallSigma0 (at' 1)) (at' 0))

def rounds : List ω → List ω → State ω → State ω
  | k :: ks, w :: ws, s => rounds ks (ws ++ [H.nextWord (w :: ws)]) (H.round k w s)
  | _, _, s => s

/-- The chaining step for one block of sixteen words. -/
def compress (s : State ω) (block : List ω) : State ω :=
  State.zipWith H.add s (H.rounds H.constants block s)

/-- Words of an octet string, `wordBytes` octets each. -/
def words (fuel : Nat) (bs : Bytes) : List ω :=
  match fuel, bs with
  | 0, _ | _, [] => []
  | fuel + 1, bs =>
    H.ofNat (Bytes.toNat (bs.take H.wordBytes)) :: words fuel (bs.drop H.wordBytes)

def blocks (fuel : Nat) (ws : List ω) : List (List ω) :=
  match fuel, ws with
  | 0, _ | _, [] => []
  | fuel + 1, ws => ws.take 16 :: blocks fuel (ws.drop 16)

/-- The message followed by a one bit, zero bits, and its length in bits. -/
def pad (msg : Bytes) : Bytes :=
  let block := 16 * H.wordBytes
  let tail := 1 + 2 * H.wordBytes
  let zeros := (block - (msg.length + tail) % block) % block
  msg ++ 0x80 :: List.replicate zeros 0 ++ Bytes.ofNat (2 * H.wordBytes) (8 * msg.length)

/-- The digest of a message from an initial state, cut to `size` octets. -/
def hash (init : State ω) (size : Nat) (msg : Bytes) : Bytes :=
  let padded := H.pad msg
  let final := (blocks padded.length (H.words padded.length padded)).foldl H.compress init
  (final.toList.flatMap fun w => Bytes.ofNat H.wordBytes (H.toNat w)).take size

/-! ## The two word sizes -/

def rotr32 (x : UInt32) (n : UInt32) : UInt32 := (x >>> n) ||| (x <<< (32 - n))

def rotr64 (x : UInt64) (n : UInt64) : UInt64 := (x >>> n) ||| (x <<< (64 - n))

def constants32 : List UInt32 := [
  0x428a2f98, 0x71374491, 0xb5c0fbcf, 0xe9b5dba5, 0x3956c25b, 0x59f111f1, 0x923f82a4,
  0xab1c5ed5, 0xd807aa98, 0x12835b01, 0x243185be, 0x550c7dc3, 0x72be5d74, 0x80deb1fe,
  0x9bdc06a7, 0xc19bf174, 0xe49b69c1, 0xefbe4786, 0x0fc19dc6, 0x240ca1cc, 0x2de92c6f,
  0x4a7484aa, 0x5cb0a9dc, 0x76f988da, 0x983e5152, 0xa831c66d, 0xb00327c8, 0xbf597fc7,
  0xc6e00bf3, 0xd5a79147, 0x06ca6351, 0x14292967, 0x27b70a85, 0x2e1b2138, 0x4d2c6dfc,
  0x53380d13, 0x650a7354, 0x766a0abb, 0x81c2c92e, 0x92722c85, 0xa2bfe8a1, 0xa81a664b,
  0xc24b8b70, 0xc76c51a3, 0xd192e819, 0xd6990624, 0xf40e3585, 0x106aa070, 0x19a4c116,
  0x1e376c08, 0x2748774c, 0x34b0bcb5, 0x391c0cb3, 0x4ed8aa4a, 0x5b9cca4f, 0x682e6ff3,
  0x748f82ee, 0x78a5636f, 0x84c87814, 0x8cc70208, 0x90befffa, 0xa4506ceb, 0xbef9a3f7,
  0xc67178f2]

def constants64 : List UInt64 := [
  0x428a2f98d728ae22, 0x7137449123ef65cd, 0xb5c0fbcfec4d3b2f, 0xe9b5dba58189dbbc,
  0x3956c25bf348b538, 0x59f111f1b605d019, 0x923f82a4af194f9b, 0xab1c5ed5da6d8118,
  0xd807aa98a3030242, 0x12835b0145706fbe, 0x243185be4ee4b28c, 0x550c7dc3d5ffb4e2,
  0x72be5d74f27b896f, 0x80deb1fe3b1696b1, 0x9bdc06a725c71235, 0xc19bf174cf692694,
  0xe49b69c19ef14ad2, 0xefbe4786384f25e3, 0x0fc19dc68b8cd5b5, 0x240ca1cc77ac9c65,
  0x2de92c6f592b0275, 0x4a7484aa6ea6e483, 0x5cb0a9dcbd41fbd4, 0x76f988da831153b5,
  0x983e5152ee66dfab, 0xa831c66d2db43210, 0xb00327c898fb213f, 0xbf597fc7beef0ee4,
  0xc6e00bf33da88fc2, 0xd5a79147930aa725, 0x06ca6351e003826f, 0x142929670a0e6e70,
  0x27b70a8546d22ffc, 0x2e1b21385c26c926, 0x4d2c6dfc5ac42aed, 0x53380d139d95b3df,
  0x650a73548baf63de, 0x766a0abb3c77b2a8, 0x81c2c92e47edaee6, 0x92722c851482353b,
  0xa2bfe8a14cf10364, 0xa81a664bbc423001, 0xc24b8b70d0f89791, 0xc76c51a30654be30,
  0xd192e819d6ef5218, 0xd69906245565a910, 0xf40e35855771202a, 0x106aa07032bbd1b8,
  0x19a4c116b8d2d0c8, 0x1e376c085141ab53, 0x2748774cdf8eeb99, 0x34b0bcb5e19b48a8,
  0x391c0cb3c5c95a63, 0x4ed8aa4ae3418acb, 0x5b9cca4f7763e373, 0x682e6ff3d6b2b8a3,
  0x748f82ee5defb2fc, 0x78a5636f43172f60, 0x84c87814a1f0ab72, 0x8cc702081a6439ec,
  0x90befffa23631e28, 0xa4506cebde82bde9, 0xbef9a3f7b2c67915, 0xc67178f2e372532b,
  0xca273eceea26619c, 0xd186b8c721c0c207, 0xeada7dd6cde0eb1e, 0xf57d4f7fee6ed178,
  0x06f067aa72176fba, 0x0a637dc5a2c898a6, 0x113f9804bef90dae, 0x1b710b35131c471b,
  0x28db77f523047d84, 0x32caab7b40c72493, 0x3c9ebe0a15c9bebc, 0x431d67c49c100d4c,
  0x4cc5d4becb3e42b6, 0x597f299cfc657e2a, 0x5fcb6fab3ad6faec, 0x6c44198c4a475817]

/-- Words of 32 bits, 64 rounds. -/
def narrow : Sha2 UInt32 where
  wordBytes := 4
  add := (· + ·)
  xor := (· ^^^ ·)
  and := (· &&& ·)
  not := (~~~ ·)
  bigSigma0 x := rotr32 x 2 ^^^ rotr32 x 13 ^^^ rotr32 x 22
  bigSigma1 x := rotr32 x 6 ^^^ rotr32 x 11 ^^^ rotr32 x 25
  smallSigma0 x := rotr32 x 7 ^^^ rotr32 x 18 ^^^ (x >>> 3)
  smallSigma1 x := rotr32 x 17 ^^^ rotr32 x 19 ^^^ (x >>> 10)
  ofNat := UInt32.ofNat
  toNat := UInt32.toNat
  constants := constants32

/-- Words of 64 bits, 80 rounds. -/
def wide : Sha2 UInt64 where
  wordBytes := 8
  add := (· + ·)
  xor := (· ^^^ ·)
  and := (· &&& ·)
  not := (~~~ ·)
  bigSigma0 x := rotr64 x 28 ^^^ rotr64 x 34 ^^^ rotr64 x 39
  bigSigma1 x := rotr64 x 14 ^^^ rotr64 x 18 ^^^ rotr64 x 41
  smallSigma0 x := rotr64 x 1 ^^^ rotr64 x 8 ^^^ (x >>> 7)
  smallSigma1 x := rotr64 x 19 ^^^ rotr64 x 61 ^^^ (x >>> 6)
  ofNat := UInt64.ofNat
  toNat := UInt64.toNat
  constants := constants64

end Sha2

def sha256 (msg : Bytes) : Bytes :=
  Sha2.narrow.hash ⟨0x6a09e667, 0xbb67ae85, 0x3c6ef372, 0xa54ff53a, 0x510e527f, 0x9b05688c,
    0x1f83d9ab, 0x5be0cd19⟩ 32 msg

def sha384 (msg : Bytes) : Bytes :=
  Sha2.wide.hash ⟨0xcbbb9d5dc1059ed8, 0x629a292a367cd507, 0x9159015a3070dd17,
    0x152fecd8f70e5939, 0x67332667ffc00b31, 0x8eb44a8768581511, 0xdb0c2e0d64f98fa7,
    0x47b5481dbefa4fa4⟩ 48 msg

def sha512 (msg : Bytes) : Bytes :=
  Sha2.wide.hash ⟨0x6a09e667f3bcc908, 0xbb67ae8584caa73b, 0x3c6ef372fe94f82b,
    0xa54ff53a5f1d36f1, 0x510e527fade682d1, 0x9b05688c2b3e6c1f, 0x1f83d9abfb41bd6b,
    0x5be0cd19137e2179⟩ 64 msg

end Possession.Digest
