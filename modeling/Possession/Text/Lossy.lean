import Possession.Bytes

/-!
# Texts out of octets that may not be one

UTF-8 is read octet by octet. Where the octets stop being the beginning of a character,
those read so far become one replacement character, and reading goes on with the octet that
did not fit.
-/

namespace Possession.Text

/-- A character that has begun: the octets still to come, the range of the next one, and the
bits so far. -/
structure Partial where
  missing : Nat
  low : UInt8
  high : UInt8
  bits : Nat

def replacement : Char := '\ufffd'

/-- What an octet begins: a character by itself, or the first part of one. -/
def begin (b : UInt8) : Char ⊕ Partial :=
  let bits (mask : Nat) : Nat := b.toNat % mask
  if b < 0x80 then .inl (Char.ofNat b.toNat)
  else if b < 0xc2 then .inl replacement
  else if b < 0xe0 then .inr ⟨1, 0x80, 0xbf, bits 32⟩
  else if b < 0xf0 then
    .inr ⟨2, if b = 0xe0 then 0xa0 else 0x80, if b = 0xed then 0x9f else 0xbf, bits 16⟩
  else if b < 0xf5 then
    .inr ⟨3, if b = 0xf0 then 0x90 else 0x80, if b = 0xf4 then 0x8f else 0xbf, bits 8⟩
  else .inl replacement

/-- Reads octets after a part of a character, if there is one. A part that is broken off is
replaced as a whole, by one character however many octets it had. -/
def readLossy : Option Partial → Bytes → List Char
  | none, [] => []
  | some _, [] => [replacement]
  | none, b :: bs =>
    match begin b with
    | .inl c => c :: readLossy none bs
    | .inr p => readLossy (some p) bs
  | some p, b :: bs =>
    if p.low ≤ b ∧ b ≤ p.high then
      let bits := p.bits * 64 + b.toNat % 64
      match p.missing with
      | n + 2 => readLossy (some ⟨n + 1, 0x80, 0xbf, bits⟩) bs
      | _ => Char.ofNat bits :: readLossy none bs
    else
      replacement :: match begin b with
        | .inl c => c :: readLossy none bs
        | .inr p => readLossy (some p) bs

def ofBytesLossy (bs : Bytes) : String := String.ofList (readLossy none bs)

end Possession.Text
