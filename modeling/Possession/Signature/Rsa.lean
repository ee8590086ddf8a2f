import Possession.Bytes
import Possession.Digest.Sha2
import Possession.Signature.Modular

/-!
# RSA signatures

A signature raised to the public exponent gives an encoded message, which is compared with
the digest of the message in one of two encodings: a fixed one, and one with a salt under a
mask. Both are with SHA-256.
-/

namespace Possession.Signature.Rsa

structure PublicKey where
  modulus : Nat
  exponent : Nat
deriving Repr, DecidableEq

def bits (n : Nat) : Nat := if n = 0 then 0 else n.log2 + 1

/-- The key given by its octets. Neither number may be written with a zero octet in front,
the modulus has from 2048 to 8192 bits, and the exponent is odd, above one and within 33
bits. -/
def PublicKey.ofBytes? (n e : Bytes) : Option PublicKey :=
  let k : PublicKey := ⟨Bytes.toNat n, Bytes.toNat e⟩
  if n.head?.all (· == 0) || e.head?.all (· == 0) then none
  else if bits k.modulus < 2048 || 8192 < bits k.modulus || k.modulus % 2 == 0 then none
  else if bits k.exponent < 2 || 33 < bits k.exponent || k.exponent % 2 == 0 then none
  else some k

def PublicKey.size (k : PublicKey) : Nat := (bits k.modulus + 7) / 8

/-- The encoded message inside a signature, which has to be as long as the modulus and, as a
number, below it. -/
def recover? (k : PublicKey) (signature : Bytes) : Option Bytes :=
  let s := Bytes.toNat signature
  if signature.length = k.size ∧ s < k.modulus then
    some (Bytes.ofNat k.size (Modular.pow k.modulus s k.exponent))
  else none

/-- What stands before a SHA-256 digest in the fixed encoding. -/
def digestHeader : Bytes :=
  [0x30, 0x31, 0x30, 0x0d, 0x06, 0x09, 0x60, 0x86, 0x48, 0x01, 0x65, 0x03, 0x04, 0x02, 0x01,
  0x05, 0x00, 0x04, 0x20]

/-- The fixed encoding of a message in `size` octets. There is one for each message, so a
signature is checked by writing it and comparing. -/
def encodeFixed (size : Nat) (message : Bytes) : Bytes :=
  let tail := digestHeader ++ Digest.sha256 message
  [0x00, 0x01] ++ List.replicate (size - tail.length - 3) 0xff ++ 0x00 :: tail

/-- Whether a signature in the fixed encoding is that of a message. -/
def verifyFixed (k : PublicKey) (message signature : Bytes) : Bool :=
  recover? k signature == some (encodeFixed k.size message)

def mask (seed : Bytes) (length : Nat) : Bytes :=
  ((List.range ((length + 31) / 32)).flatMap fun i =>
    Digest.sha256 (seed ++ Bytes.ofNat 4 i)).take length

def saltLength : Nat := 32

/-- Whether an encoded message of `emBits` bits carries the digest of a message under a
mask. -/
def checkSalted (emBits : Nat) (em message : Bytes) : Bool :=
  let length := em.length - 33
  let masked := em.take length
  let digest := (em.drop length).take 32
  let spare := 8 * em.length - emBits
  let db := Bytes.xor masked (mask digest length)
  let db := match db with
    | b :: rest => UInt8.ofNat (b.toNat % Nat.pow 2 (8 - spare)) :: rest
    | [] => []
  let zeros := length - saltLength - 1
  let salt := db.drop (zeros + 1)
  saltLength + 34 ≤ em.length &&
    em.getLast? == some 0xbc &&
    masked.head?.all (fun b => b.toNat < Nat.pow 2 (8 - spare)) &&
    (db.take zeros).all (· == 0) &&
    db[zeros]? == some 1 &&
    Digest.sha256 (List.replicate 8 0 ++ Digest.sha256 message ++ salt) == digest

/-- Whether a signature in the salted encoding is that of a message. -/
def verifySalted (k : PublicKey) (message signature : Bytes) : Bool :=
  match recover? k signature with
  | none => false
  | some em =>
    let emBits := bits k.modulus - 1
    let emLength := (emBits + 7) / 8
    if emLength = em.length then checkSalted emBits em message
    else em.head? == some 0 && checkSalted emBits (em.drop 1) message

end Possession.Signature.Rsa
