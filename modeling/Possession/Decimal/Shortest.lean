/-!
# The fewest digits of a binary number

A finite floating-point number is `m · 2^q`. Every real between the midpoints to its two
neighbours reads back as that number, the midpoints themselves if `m` is even. `shortest`
looks for a decimal with the fewest digits in that interval: for one digit, two digits, and
so on, it tests the two points of the decimal grid that enclose the number, and takes the
nearer of those that fit. Everything is exact arithmetic on natural numbers.
-/

namespace Possession.Decimal

/-- A positive binary number `m · 2^q`. At a `cliff` the neighbour below is only half as far
away as the neighbour above. -/
structure Binary where
  m : Nat
  q : Int
  cliff : Bool
deriving Repr

/-- A positive decimal number `digits · 10^exponent`. -/
structure Digits where
  digits : Nat
  exponent : Int
deriving Repr, BEq

/-- The absolute value of a finite floating-point number. -/
def Binary.ofFloat (f : Float) : Binary :=
  let bits := f.toBits.toNat
  let e : Nat := bits / 4503599627370496 % 2048
  let frac : Nat := bits % 4503599627370496
  if e = 0 then ⟨frac, -1074, false⟩
  else ⟨frac + 4503599627370496, (e : Int) - 1075, frac == 0 && e > 1⟩

/-- `2^e` or `10^e` as a pair of numerator and denominator. -/
def power (base : Nat) (e : Int) : Nat × Nat :=
  (Nat.pow base e.toNat, Nat.pow base (-e).toNat)

/-- How many zeros follow the point before the first digit of `num / den < 1`. -/
def leadingZeros (den : Nat) : (fuel num : Nat) → Nat
  | 0, _ => 0
  | fuel + 1, num => if num * 10 ≥ den then 0 else leadingZeros den fuel (num * 10) + 1

/-- The power of ten just above a positive fraction. -/
def magnitude (num den : Nat) : Int :=
  if num ≥ den then ((Nat.toDigits 10 (num / den)).length : Int)
  else -(leadingZeros den 400 num : Int)

/-- The points of the grid of `10^k` next to a number that read back as it, the nearer one
first. The number and its interval are given in quarters of the last binary place. -/
def gridPoint? (b : Binary) (k : Int) : Option Nat :=
  let (two, twoDen) := power 2 (b.q - 2)
  let (ten, tenDen) := power 10 k
  let scale := two * tenDen
  let unit := twoDen * ten
  let value := 4 * b.m * scale
  let low := (4 * b.m - (if b.cliff then 1 else 2)) * scale
  let high := (4 * b.m + 2) * scale
  let fits (c : Nat) : Bool :=
    if b.m % 2 = 0 then low ≤ c * unit && c * unit ≤ high
    else low < c * unit && c * unit < high
  let below := value / unit
  let above := below + 1
  -- halfway between them the even one is the nearer
  let nearerBelow :=
    2 * (value % unit) < unit || (2 * (value % unit) == unit && below % 2 == 0)
  match fits below && below > 0, fits above with
  | true, true => some (if nearerBelow then below else above)
  | true, false => some below
  | false, true => some above
  | false, false => none

/-- The first grid with a point that reads back, from `n` digits on. Seventeen digits tell
any two floating-point numbers apart, so the fuel is never used up. -/
def search (b : Binary) (magnitude : Int) : (fuel n : Nat) → Digits
  | 0, _ => ⟨0, 0⟩
  | fuel + 1, n =>
    match gridPoint? b (magnitude - n) with
    | some d => ⟨d, magnitude - n⟩
    | none => search b magnitude fuel (n + 1)

/-- A decimal of the fewest digits that reads back as a positive binary number. -/
def shortest (b : Binary) : Digits :=
  let (two, den) := power 2 b.q
  search b (magnitude (b.m * two) den) 17 1

/-- How a number is laid out: the powers of ten of its first digit from which and up to
which it is written without an exponent, and whether a whole number shows a point. -/
structure Layout where
  least : Option Int
  most : Option Int
  pointed : Bool

/-- The digits of a number without zeros at the end. -/
def stripZeros : (fuel : Nat) → Digits → Digits
  | 0, d => d
  | fuel + 1, d =>
    if d.digits ≠ 0 ∧ d.digits % 10 = 0 then stripZeros fuel ⟨d.digits / 10, d.exponent + 1⟩
    else d

def Layout.write (l : Layout) (d : Digits) : List Char :=
  let d := stripZeros 400 d
  let cs := Nat.toDigits 10 d.digits
  let point : Int := cs.length + d.exponent
  let first := point - 1
  if l.least.all (· ≤ first) && l.most.all (first ≤ ·) then
    if point ≤ 0 then ['0', '.'] ++ List.replicate (-point).toNat '0' ++ cs
    else if 0 ≤ d.exponent then
      cs ++ List.replicate d.exponent.toNat '0' ++ (if l.pointed then ['.', '0'] else [])
    else cs.take point.toNat ++ '.' :: cs.drop point.toNat
  else
    cs.take 1 ++ (if cs.length > 1 then '.' :: cs.drop 1 else []) ++
      (if first < 0 then ['e', '-'] else ['e', '+']) ++ Nat.toDigits 10 first.natAbs

/-- A floating-point number in a layout, with the fewest digits that read back. -/
def Layout.float (l : Layout) (f : Float) : String :=
  if f.isNaN then "NaN"
  else
    let negative := f.toBits >= 0x8000000000000000
    let body :=
      if f.isInf then ['i', 'n', 'f']
      else if f == 0 then (if l.pointed then ['0', '.', '0'] else ['0'])
      else l.write (shortest (.ofFloat f))
    String.ofList (if negative then '-' :: body else body)

/-- All digits written out; whole numbers without a point. -/
def plain : Layout := ⟨none, none, false⟩

/-- All digits written out; whole numbers with a point. -/
def pointed : Layout := ⟨none, none, true⟩

end Possession.Decimal
