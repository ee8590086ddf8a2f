import Possession.Decimal.Reading
import Possession.Json.Parser

/-!
# Switches, numbers and dates in TOML

A word without quotes is a switch, an integer in one of four bases, a number or a date.
Underscores may stand between the digits of numbers. Integers have to fit 64 bits and
numbers must not be too large. A date is kept as a text in one canonical form.
-/

namespace Possession.Toml

/-- Digits with underscores between them, at least one. -/
def digits? (isDigit : Char → Bool) (cs : List Char) : Option (List Char) :=
  let parts := cs.splitOn '_'
  if parts.all fun p => !p.isEmpty && p.all isDigit then some parts.flatten else none

/-- Digits of a whole number: no zero in front. -/
def wholeDigits? (cs : List Char) : Option (List Char) :=
  (digits? Char.isDigit cs).filter fun ds => ds.length ≤ 1 || ds.head? ≠ some '0'

def readBase? (base : Nat) (cs : List Char) : Option Int :=
  let isDigit (c : Char) : Bool := (Json.hexValue? c).any (· < base)
  (digits? isDigit cs).map fun ds =>
    ((ds.foldl (fun n c => n * base + (Json.hexValue? c).getD 0) 0 : Nat) : Int)

/-- An integer. A prefix chooses the base and does away with the sign. -/
def readInteger? (cs : List Char) : Option Int :=
  let n := match cs with
    | '0' :: 'x' :: ds => readBase? 16 ds
    | '0' :: 'o' :: ds => readBase? 8 ds
    | '0' :: 'b' :: ds => readBase? 2 ds
    | cs =>
      let (negative, ds) := Decimal.takeSign cs
      (wholeDigits? ds).map fun ds =>
        let n : Int := Decimal.natOfDigits ds
        if negative then -n else n
  n.filter Decimal.fitsInt64

/-- The digits behind a point, if a point is here. -/
def fraction? : List Char → Option (List Char × List Char)
  | '.' :: rest =>
    let (ds, rest) := rest.span fun c => c.isDigit || c = '_'
    (digits? Char.isDigit ds).map (·, rest)
  | rest => some ([], rest)

/-- An exponent with its letter; zero if there is none. -/
def readExponent? : List Char → Option Int
  | [] => some 0
  | c :: rest =>
    if c = 'e' ∨ c = 'E' then
      let (negative, ds) := Decimal.takeSign rest
      (digits? Char.isDigit ds).map fun ds =>
        let n : Int := Decimal.natOfDigits ds
        if negative then -n else n
    else none

/-- A number with a point, an exponent or both. Without either it is an integer and not read
here; one that is too large is refused. -/
def readNumber? (cs : List Char) : Option Float := do
  let (negative, cs) := Decimal.takeSign cs
  let signed (f : Float) : Float := if negative then -f else f
  if cs = ['i', 'n', 'f'] then return signed (1 / 0)
  if cs = ['n', 'a', 'n'] then return signed (0 / 0)
  let (whole, rest) := cs.span fun c => c.isDigit || c = '_'
  let whole ← wholeDigits? whole
  if rest.isEmpty then none
  let (frac, rest) ← fraction? rest
  let e ← readExponent? rest
  let f := Decimal.nearest (Decimal.natOfDigits (whole ++ frac)) (e - frac.length)
  if f.isInf then none else return signed f

/-! ## Dates -/

/-- A number of exactly so many digits, between two bounds, and what follows. -/
def fixed (count low high : Nat) (cs : List Char) : Option (List Char × List Char) :=
  let ds := cs.take count
  let n := Decimal.natOfDigits ds
  if ds.length = count ∧ ds.all Char.isDigit ∧ low ≤ n ∧ n ≤ high then
    some (ds, cs.drop count)
  else none

def mark? (c : Char) : List Char → Option (List Char)
  | d :: rest => if c = d then some rest else none
  | [] => none

def daysIn (year month : Nat) : Nat :=
  if month = 2 then
    if year % 4 = 0 ∧ (year % 100 ≠ 0 ∨ year % 400 = 0) then 29 else 28
  else if month ∈ [4, 6, 9, 11] then 30
  else 31

def day (cs : List Char) : Option (List Char × List Char) := do
  let (y, rest) ← fixed 4 0 9999 cs
  let (m, rest) ← fixed 2 1 12 (← mark? '-' rest)
  let last := daysIn (Decimal.natOfDigits y) (Decimal.natOfDigits m)
  let (d, rest) ← fixed 2 1 last (← mark? '-' rest)
  return (y ++ '-' :: m ++ '-' :: d, rest)

/-- The fraction of a second in canonical form: at most nine digits, no zero at the end. -/
def secondsFraction (ds : List Char) : List Char :=
  match ((ds.take 9).reverse.dropWhile (· = '0')).reverse with
  | [] => ['.', '0']
  | ds => '.' :: ds

/-- A time of day, and what follows. Seconds may be left out. -/
def timeOfDay (cs : List Char) : Option (List Char × List Char) := do
  let (h, rest) ← fixed 2 0 23 cs
  let (m, rest) ← fixed 2 0 59 (← mark? ':' rest)
  let shown := h ++ ':' :: m
  match rest with
  | ':' :: rest =>
    let (s, rest) ← fixed 2 0 60 rest
    let shown := shown ++ ':' :: s
    match rest with
    | '.' :: rest =>
      match rest.span Char.isDigit with
      | ([], _) => none
      | (ds, rest) => return (shown ++ secondsFraction ds, rest)
    | rest => return (shown, rest)
  | rest => return (shown, rest)

/-- The distance from universal time. A distance of zero is shown with a plus, whatever its
sign was. -/
def offset? : List Char → Option (List Char)
  | ['Z'] => some ['Z']
  | ['z'] => some ['Z']
  | sign :: rest => do
    if sign ≠ '+' ∧ sign ≠ '-' then none
    let (h, rest) ← fixed 2 0 23 rest
    let (m, rest) ← fixed 2 0 59 (← mark? ':' rest)
    if rest ≠ [] then none
    let isZero := Decimal.natOfDigits (h ++ m) = 0
    return (if isZero then '+' else sign) :: h ++ ':' :: m
  | [] => none

/-- A day, a time of day, or both, with or without a distance from universal time. -/
def readDate? (cs : List Char) : Option String := do
  match day cs with
  | none =>
    match ← timeOfDay cs with
    | (t, []) => return String.ofList t
    | _ => none
  | some (d, []) => return String.ofList d
  | some (d, c :: rest) =>
    if c ∉ ['T', 't', ' '] then none
    let (t, rest) ← timeOfDay rest
    let zone ← if rest = [] then some [] else offset? rest
    return String.ofList (d ++ 'T' :: t ++ zone)

/-! ## Words -/

def isWordChar (c : Char) : Bool := c.isAlphanum || c ∈ ['+', '-', '_', '.', ':']

/-- A word at the front. A day and a time of day with a blank between them are one word. -/
def takeWord (cs : List Char) : List Char × List Char :=
  let (w, rest) := cs.span isWordChar
  match (day w).filter (·.2 = []), rest with
  | some _, ' ' :: c :: rest =>
    if c.isDigit then
      let (t, rest) := (c :: rest).span isWordChar
      (w ++ ' ' :: t, rest)
    else (w, ' ' :: c :: rest)
  | _, rest => (w, rest)

/-- The value of a word. The readings are tried in turn, and no word has two of them. -/
def readWord? (w : List Char) : Option Json :=
  if w = "true".toList then some (.bool true)
  else if w = "false".toList then some (.bool false)
  else ((readInteger? w).map Json.int).or
    (((readNumber? w).map Json.float).or ((readDate? w).map Json.str))

end Possession.Toml
