import Possession.Bytes

/-!
# A seeded stream of octets

ChaCha with twelve rounds, keyed by expanding a 64-bit seed with a permuted congruential
generator. The stream is addressed by word: word `i` depends on the key and on `i` alone, so
drawing from it is reading a slice, and two slices that do not overlap are independent parts
of one stream.
-/

namespace Possession.Random.ChaCha

def rotl (x n : UInt32) : UInt32 := (x <<< n) ||| (x >>> (32 - n))

def rotr (x n : UInt32) : UInt32 := (x >>> n) ||| (x <<< ((32 - n) % 32))

/-- Mixes the words at four positions. -/
def quarter (v : List UInt32) (q : Nat × Nat × Nat × Nat) : List UInt32 :=
  let (ia, ib, ic, id) := q
  let a := v.getD ia 0 + v.getD ib 0
  let d := rotl (v.getD id 0 ^^^ a) 16
  let c := v.getD ic 0 + d
  let b := rotl (v.getD ib 0 ^^^ c) 12
  let a := a + b
  let d := rotl (d ^^^ a) 8
  let c := c + d
  let b := rotl (b ^^^ c) 7
  (((v.set ia a).set ib b).set ic c).set id d

/-- A column round followed by a diagonal round. -/
def doubleRound (v : List UInt32) : List UInt32 :=
  [(0, 4, 8, 12), (1, 5, 9, 13), (2, 6, 10, 14), (3, 7, 11, 15),
   (0, 5, 10, 15), (1, 6, 11, 12), (2, 7, 8, 13), (3, 4, 9, 14)].foldl quarter v

/-- The sixteen words of block `n` under a key of eight words. -/
def block (key : List UInt32) (n : Nat) : List UInt32 :=
  let start := [0x61707865, 0x3320646e, 0x79622d32, 0x6b206574] ++ key ++
    [UInt32.ofNat n, UInt32.ofNat (n / 4294967296), 0, 0]
  List.zipWith (· + ·) start ((List.range 6).foldl (fun v _ => doubleRound v) start)

/-- `count` words of the stream from word `pos` on. -/
def words (key : List UInt32) (pos count : Nat) : List UInt32 :=
  let first := pos / 16
  let blocks := (pos % 16 + count + 15) / 16
  let stream := (List.range blocks).flatMap fun i => block key (first + i)
  (stream.drop (pos % 16)).take count

def octets (w : UInt32) : Bytes := (Bytes.ofNat 4 w.toNat).reverse

/-- One step of the seed expansion: the new state and the word it gives. -/
def expandStep (state : UInt64) : UInt64 × UInt32 :=
  let s := state * 6364136223846793005 + 11634580027462260723
  (s, rotr (((s >>> 18) ^^^ s) >>> 27).toUInt32 (s >>> 59).toUInt32)

def expand : Nat → UInt64 → List UInt32
  | 0, _ => []
  | n + 1, s => let (s, w) := expandStep s; w :: expand n s

def keyOfSeed (seed : UInt64) : List UInt32 := expand 8 seed

end Possession.Random.ChaCha
