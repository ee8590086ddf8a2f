import Possession.Decimal.Numeral

/-!
# Whole texts as numbers

Readings that take all of a text or nothing: an integer has digits with at most a sign
before them; a number may also have a point, with digits on at least one side, and an
exponent, or be one of the words for infinity and for no number.
-/

namespace Possession.Decimal

/-- Removes a sign: whether it was a minus, and the rest. -/
def takeSign : List Char → Bool × List Char
  | '-' :: rest => (true, rest)
  | '+' :: rest => (false, rest)
  | rest => (false, rest)

/-- Digits, at least one, as a number. How many zeros stand in front does not matter. -/
def readDigits? (cs : List Char) : Option Nat :=
  if !cs.isEmpty && cs.all Char.isDigit then some (natOfDigits cs) else none

def readInt? (cs : List Char) : Option Int :=
  let (negative, digits) := takeSign cs
  (readDigits? digits).map fun n => if negative then -n else n

def readInt64? (cs : List Char) : Option Int := (readInt? cs).filter fitsInt64

/-- An unsigned 64-bit integer; a minus is refused even before zero. -/
def readUInt64? (cs : List Char) : Option UInt64 :=
  if cs.head? = some '-' then none
  else ((readInt? cs).filter fun n => decide (n ≤ (maxWord : Int))).map fun n =>
    UInt64.ofNat n.toNat

/-- An exponent with its letter; zero if there is none. -/
def readExponent? : List Char → Option Int
  | [] => some 0
  | c :: rest => if c = 'e' ∨ c = 'E' then readInt? rest else none

/-- An unsigned number with digits on at least one side of its point. -/
def readMagnitude? (cs : List Char) : Option Float :=
  let (whole, rest) := cs.span Char.isDigit
  let (frac, rest) := match rest with
    | '.' :: rest => rest.span Char.isDigit
    | rest => ([], rest)
  if whole.isEmpty && frac.isEmpty then none
  else (readExponent? rest).map fun e =>
    nearest (natOfDigits (whole ++ frac)) (e - frac.length)

/-- The words for what has no digits, in letters of either case. -/
def readWord? (cs : List Char) : Option Float :=
  let word := String.ofList (cs.map Char.toLower)
  if word = "inf" ∨ word = "infinity" then some (1 / 0)
  else if word = "nan" then some (0 / 0)
  else none

def readFloat? (cs : List Char) : Option Float :=
  let (negative, rest) := takeSign cs
  ((readWord? rest).or (readMagnitude? rest)).map fun f => if negative then -f else f

end Possession.Decimal
