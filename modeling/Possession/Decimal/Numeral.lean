/-!
# Reading decimal numerals

Two readings of a numeral as a floating-point number. `nearest` is exact: the number nearest
to the written one. `scaled` is the reading of JSON texts: the leading digits that fit a
64-bit word are taken as a number and then multiplied or divided by a power of ten, which
can miss the nearest number by a unit in the last place.
-/

namespace Possession.Decimal

/-- The number written by decimal digits. -/
def natOfDigits (cs : List Char) : Nat := cs.foldl (fun n c => n * 10 + (c.toNat - 48)) 0

/-- The floating-point number nearest to `significand · 10^exponent`. -/
def nearest (significand : Nat) (exponent : Int) : Float :=
  let length : Int := (Nat.toDigits 10 significand).length
  if significand = 0 then 0
  else if length + exponent > 400 then 1 / 0
  else if length + exponent < -400 then 0
  else if 0 ≤ exponent then Float.ofScientific significand false exponent.toNat
  else Float.ofScientific significand true (-exponent).toNat

def maxWord : Nat := 18446744073709551615

def fitsInt64 (n : Int) : Bool := -9223372036854775808 ≤ n && n < 9223372036854775808

/-- Takes digits into a word for as long as it holds them: the word and the digits left
over. Of these only the count matters, since they just move the point. -/
def fill : Nat → List Char → Nat × List Char
  | n, [] => (n, [])
  | n, c :: cs =>
    let n' := n * 10 + (c.toNat - 48)
    if n' > maxWord then (n, c :: cs) else fill n' cs

def tenTo (e : Nat) : Float := Float.ofScientific 1 false e

/-- Multiplies by `10^e`, in steps of `10^308` where a single power does not reach. Nothing
if the product is too large. -/
def scale : (fuel : Nat) → Float → Int → Option Float
  | 0, f, _ => some f
  | fuel + 1, f, e =>
    if e.natAbs ≤ 308 then
      if 0 ≤ e then
        let f := f * tenTo e.natAbs
        if f.isInf then none else some f
      else some (f / tenTo e.natAbs)
    else if f == 0 then some f
    else if 0 ≤ e then none
    else scale fuel (f / tenTo 308) (e + 308)

/-- The reading of JSON texts of the digits before the point, the digits behind it and the
exponent. -/
def scaled (whole frac : List Char) (exponent : Int) : Option Float :=
  let (n, left) := fill 0 whole
  let (n', left') := fill n frac
  scale 8 (UInt64.ofNat n').toFloat (exponent + left.length - (frac.length - left'.length))

end Possession.Decimal
