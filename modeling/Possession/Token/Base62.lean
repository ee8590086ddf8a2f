import Possession.Bytes
import Possession.Error

/-!
# Base 62

An octet string is written as a number in base 62, most significant digit first, with zeros
in front up to a least width. The number is never formed: it is divided by 62 octet by
octet, each division giving one digit, until nothing is left. Reading multiplies a string of
known length by 62 and adds a digit, octet by octet from the right, and refuses a character
outside the alphabet or a carry out of the string, whichever comes first.
-/

namespace Possession.Token.Base62

/-- The digit of a value below 62: decimal digits, small letters, capital letters. -/
def digit (n : Nat) : Char :=
  if n < 10 then Char.ofNat (48 + n)
  else if n < 36 then Char.ofNat (87 + n)
  else Char.ofNat (29 + n)

def value? (b : UInt8) : Option Nat :=
  let n := b.toNat
  if 48 ≤ n ∧ n ≤ 57 then some (n - 48)
  else if 97 ≤ n ∧ n ≤ 122 then some (n - 87)
  else if 65 ≤ n ∧ n ≤ 90 then some (n - 29)
  else none

/-- One step of a long division by 62: the remainder so far and the next octet. With a
remainder below 62 the result is far from the end of the word. -/
def accumulate (r : UInt32) (b : UInt8) : UInt32 := r * 256 + b.toUInt32

/-- Long division by 62 from a remainder: the octets of the quotient and the last
remainder. -/
def divide (r : UInt32) : Bytes → Bytes × UInt32
  | [] => ([], r)
  | b :: bs =>
    let acc := accumulate r b
    let (q, r') := divide (acc % 62) bs
    ((acc / 62).toUInt8 :: q, r')

theorem toNat_accumulate {r : UInt32} (h : r.toNat < 62) (b : UInt8) :
    (accumulate r b).toNat = r.toNat * 256 + b.toNat := by
  have := b.toNat_lt
  simp [accumulate]
  omega

@[simp] theorem length_divide (r : UInt32) (bs : Bytes) :
    (divide r bs).1.length = bs.length := by
  induction bs generalizing r with
  | nil => rfl
  | cons b bs ih => simp [divide, ih]

/-- Quotient and remainder make up the dividend. -/
theorem divide_eq {r : UInt32} (h : r.toNat < 62) (bs : Bytes) :
    Bytes.toNat (divide r bs).1 * 62 + (divide r bs).2.toNat =
      r.toNat * Nat.pow 256 bs.length + Bytes.toNat bs := by
  induction bs generalizing r with
  | nil => simp [divide, Bytes.toNat]
  | cons b bs ih =>
    have hb := b.toNat_lt
    have hacc := toNat_accumulate h b
    have hmod : (accumulate r b % 62).toNat < 62 := by simp; omega
    have hq : ((accumulate r b / 62).toUInt8).toNat = (accumulate r b).toNat / 62 := by
      simp; omega
    have := ih hmod
    simp only [divide, Bytes.toNat_cons, List.length_cons, length_divide, Nat.pow, hq]
    have hm : (accumulate r b % 62).toNat = (accumulate r b).toNat % 62 := by simp
    rw [hm] at this
    have hdm := Nat.div_add_mod (accumulate r b).toNat 62
    generalize (accumulate r b).toNat / 62 = q at *
    generalize (accumulate r b).toNat % 62 = m at *
    generalize Nat.pow 256 bs.length = p at *
    rw [hacc] at hdm
    grind

/-- Dividing makes a number smaller, which is why the digits come to an end. -/
theorem toNat_divide_lt {bs rest : Bytes} {b : UInt8}
    (h : bs.dropWhile (· == 0) = b :: rest) :
    Bytes.toNat (divide 0 (b :: rest)).1 < Bytes.toNat bs := by
  have hb : b ≠ 0 := by
    have := List.head?_dropWhile_not (· == (0 : UInt8)) bs
    rw [h] at this
    simpa using this
  have hpos := Bytes.toNat_pos_of_head hb rest
  have heq := divide_eq (r := 0) (by decide) (b :: rest)
  rw [← Bytes.toNat_dropWhile bs, h]
  simp at heq
  omega

/-- The digits of a number given by its octets, least significant first. Zeros in front of
the number are dropped before each division, and zero itself has no digits. -/
def digits (bs : Bytes) : List Char :=
  match _h : bs.dropWhile (· == 0) with
  | [] => []
  | b :: rest =>
    digit (divide 0 (b :: rest)).2.toNat :: digits (divide 0 (b :: rest)).1
termination_by Bytes.toNat bs
decreasing_by exact toNat_divide_lt _h

/-- Puts zeros in front of a list of digits, up to a width. -/
def padLeft (width : Nat) (ds : List Char) : List Char :=
  List.replicate (width - ds.length) '0' ++ ds

/-- The written form of an octet string, at least `width` digits long. The zeros in front
make up for digits that small numbers do not have; large ones may have one more. -/
def encode (bs : Bytes) (width : Nat) : String :=
  String.ofList (padLeft width (digits bs).reverse)

/-- Why a text is not the written form of `n` octets. -/
inductive Failure where
  | empty
  | badDigit (code : UInt8)
  | overflow (n : Nat)
deriving Repr, DecidableEq

/-- The text of a failure. A bad digit is shown as the character of its code, one octet of
it if the character has several. -/
def Failure.reason : Failure → String
  | empty => "Empty base62 field"
  | badDigit b => "Invalid base62 character " ++ Text.quoteChar (Char.ofNat b.toNat)
  | overflow n => "Base62 value does not fit in " ++ toString n ++ " bytes"

/-- Multiplies a string by 62 and adds to it, from the last octet on: the octets of the
result and the carry out of the first. -/
def multiplyAdd (carry : UInt32) : Bytes → Bytes × UInt32
  | [] => ([], carry)
  | b :: bs =>
    let (out, c) := multiplyAdd carry bs
    let acc := b.toUInt32 * 62 + c
    ((acc % 256).toUInt8 :: out, acc / 256)

@[simp] theorem length_multiplyAdd (carry : UInt32) (bs : Bytes) :
    (multiplyAdd carry bs).1.length = bs.length := by
  induction bs with
  | nil => rfl
  | cons b bs ih => simp [multiplyAdd, ih]

/-- Reads digits onto a string of octets. A carry out of the string is found at the digit
that causes it, before any digit behind it is looked at. -/
def readDigits {n : Nat} : Bytes → Octets n → Except Failure (Octets n)
  | [], out => .ok out
  | b :: bs, out =>
    match value? b with
    | none => .error (.badDigit b)
    | some d =>
      -- a digit enters as the carry into the last octet
      let step := multiplyAdd (UInt32.ofNat d) out.bytes
      if step.2 ≠ 0 then .error (.overflow n)
      else readDigits bs ⟨step.1, by simp [step, out.length_eq]⟩

/-- The `n` octets of a written form. Zeros in front do not count, so more than one text is
read as the same octets. -/
def decode? (n : Nat) (text : Bytes) : Except Failure (Octets n) :=
  match text with
  | [] => .error .empty
  | _ :: _ => readDigits text (.fit n [])

def decode (n : Nat) (text : String) : Result (Octets n) :=
  (decode? n (Bytes.ofString text)).mapError fun f => .format f.reason

end Possession.Token.Base62
