import Possession.Bytes

/-!
# BLAKE2b

The unkeyed BLAKE2b hash with a chosen digest size. The sixteen working words are a list
that the mixing function updates at four positions; a round mixes the columns and then the
diagonals.
-/

namespace Possession.Digest.Blake2b

/-- The initialisation words, shared with SHA-512. -/
def initial : List UInt64 := [
  0x6a09e667f3bcc908, 0xbb67ae8584caa73b, 0x3c6ef372fe94f82b, 0xa54ff53a5f1d36f1,
  0x510e527fade682d1, 0x9b05688c2b3e6c1f, 0x1f83d9abfb41bd6b, 0x5be0cd19137e2179]

/-- Order in which each round reads the message words; twelve rounds, the last two repeating
the first two. -/
def schedule : List (List Nat) := [
  [0, 1, 2, 3, 4, 5, 6, 7, 8, 9, 10, 11, 12, 13, 14, 15],
  [14, 10, 4, 8, 9, 15, 13, 6, 1, 12, 0, 2, 11, 7, 5, 3],
  [11, 8, 12, 0, 5, 2, 15, 13, 10, 14, 3, 6, 7, 1, 9, 4],
  [7, 9, 3, 1, 13, 12, 11, 14, 2, 6, 5, 10, 4, 0, 15, 8],
  [9, 0, 5, 7, 2, 4, 10, 15, 14, 1, 11, 12, 6, 8, 3, 13],
  [2, 12, 6, 10, 0, 11, 8, 3, 4, 13, 7, 5, 15, 14, 1, 9],
  [12, 5, 1, 15, 14, 13, 4, 10, 0, 7, 6, 3, 9, 2, 8, 11],
  [13, 11, 7, 14, 12, 1, 3, 9, 5, 0, 15, 4, 8, 6, 2, 10],
  [6, 15, 14, 9, 11, 3, 0, 8, 12, 2, 13, 7, 1, 4, 10, 5],
  [10, 2, 8, 4, 7, 6, 1, 5, 15, 11, 9, 14, 3, 12, 13, 0],
  [0, 1, 2, 3, 4, 5, 6, 7, 8, 9, 10, 11, 12, 13, 14, 15],
  [14, 10, 4, 8, 9, 15, 13, 6, 1, 12, 0, 2, 11, 7, 5, 3]]

/-- Positions mixed by the eight steps of a round: four columns, four diagonals. -/
def quarters : List (Nat × Nat × Nat × Nat) := [
  (0, 4, 8, 12), (1, 5, 9, 13), (2, 6, 10, 14), (3, 7, 11, 15),
  (0, 5, 10, 15), (1, 6, 11, 12), (2, 7, 8, 13), (3, 4, 9, 14)]

def rotr (x : UInt64) (n : UInt64) : UInt64 := (x >>> n) ||| (x <<< (64 - n))

/-- Mixes the words at four positions with two message words. -/
def mix (v : List UInt64) (q : Nat × Nat × Nat × Nat) (x y : UInt64) : List UInt64 :=
  let (ia, ib, ic, id) := q
  let a := v.getD ia 0 + v.getD ib 0 + x
  let d := rotr (v.getD id 0 ^^^ a) 32
  let c := v.getD ic 0 + d
  let b := rotr (v.getD ib 0 ^^^ c) 24
  let a := a + b + y
  let d := rotr (d ^^^ a) 16
  let c := c + d
  let b := rotr (b ^^^ c) 63
  (((v.set ia a).set ib b).set ic c).set id d

/-- The steps of one round, two schedule entries each. -/
def steps (m : List UInt64) : List (Nat × Nat × Nat × Nat) → List Nat → List UInt64 →
    List UInt64
  | q :: qs, i :: j :: order, v => steps m qs order (mix v q (m.getD i 0) (m.getD j 0))
  | _, _, v => v

/-- The chaining step: `count` octets read so far, `last` for the final block. -/
def compress (h : List UInt64) (m : List UInt64) (count : Nat) (last : Bool) :
    List UInt64 :=
  let v := h ++ initial
  -- the count is a number of two words, of which the second is zero for all real messages
  let v := v.set 12 (v.getD 12 0 ^^^ UInt64.ofNat count)
  let v := v.set 13 (v.getD 13 0 ^^^ UInt64.ofNat (count / 18446744073709551616))
  let v := if last then v.set 14 (~~~ v.getD 14 0) else v
  let v := schedule.foldl (fun v order => steps m quarters order v) v
  List.zipWith (· ^^^ ·) h (List.zipWith (· ^^^ ·) (v.take 8) (v.drop 8))

def word (bs : Bytes) : UInt64 := UInt64.ofNat (Bytes.toNat bs.reverse)

/-- The sixteen words of a block, padded with zero octets. -/
def block (bs : Bytes) : List UInt64 :=
  let bs := bs ++ List.replicate (128 - bs.length) 0
  (List.range 16).map fun i => word ((bs.drop (8 * i)).take 8)

/-- Absorbs a message block by block. The last block is marked, and it is never absent: an
empty message has an empty last block. -/
def absorb (fuel : Nat) (h : List UInt64) (count : Nat) (msg : Bytes) : List UInt64 :=
  match fuel with
  | 0 => h
  | fuel + 1 =>
    if msg.length ≤ 128 then compress h (block msg) (count + msg.length) true
    else absorb fuel (compress h (block (msg.take 128)) (count + 128) false) (count + 128)
      (msg.drop 128)

def hash (size : Nat) (msg : Bytes) : Bytes :=
  let h := match initial with
    | w :: ws => (w ^^^ 0x01010000 ^^^ UInt64.ofNat size) :: ws
    | [] => []
  ((absorb (msg.length / 128 + 1) h 0 msg).flatMap
    fun w => (Bytes.ofNat 8 w.toNat).reverse).take size

end Possession.Digest.Blake2b

namespace Possession.Digest

def blake2b256 (msg : Bytes) : Bytes := Blake2b.hash 32 msg

end Possession.Digest
