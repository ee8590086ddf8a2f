import Possession.Json.Value
import Possession.Decimal.Numeral

/-!
# Reading JSON

A reader takes the characters that are left and gives back what it read with what is then
left. The reader of values is defined by recursion on the depth of nesting that is still
allowed; lists are read by a loop that is given the reader of their items.
-/

namespace Possession.Json

abbrev Reader (α : Type) := List Char → Option (α × List Char)

/-- How deep arrays and objects may be nested. The limit keeps a hostile text from using up
the stack, and is the fuel of the recursion. -/
def maxDepth : Nat := 127

def isBlank (c : Char) : Bool := c = ' ' || c = '\n' || c = '\t' || c = '\r'

def skip : List Char → List Char := List.dropWhile isBlank

def hexValue? (c : Char) : Option Nat :=
  if '0' ≤ c ∧ c ≤ '9' then some (c.toNat - 48)
  else if 'a' ≤ c ∧ c ≤ 'f' then some (c.toNat - 87)
  else if 'A' ≤ c ∧ c ≤ 'F' then some (c.toNat - 55)
  else none

def hex4 (a b c d : Char) : Option Nat := do
  some (((← hexValue? a) * 16 + (← hexValue? b)) * 256 + (← hexValue? c) * 16 +
    (← hexValue? d))

def unescape? : Char → Option Char
  | '"' => some '"'
  | '\\' => some '\\'
  | '/' => some '/'
  | 'b' => some '\x08'
  | 'f' => some '\x0c'
  | 'n' => some '\n'
  | 'r' => some '\r'
  | 't' => some '\t'
  | _ => none

/-- The rest of a string after its opening quote. Half of a surrogate pair, or a control
that is not escaped, is refused. -/
def stringBody : Reader (List Char)
  | [] => none
  | '"' :: rest => some ([], rest)
  | '\\' :: 'u' :: a :: b :: c :: d :: rest =>
    match hex4 a b c d with
    | none => none
    | some n =>
      if n < 0xd800 ∨ 0xdfff < n then (stringBody rest).map fun (s, r) =>
        (Char.ofNat n :: s, r)
      else if 0xdc00 ≤ n then none
      else
        -- the first half of a pair, whose second half has to follow
        match rest with
        | '\\' :: 'u' :: a :: b :: c :: d :: rest =>
          match hex4 a b c d with
          | none => none
          | some m =>
            if 0xdc00 ≤ m ∧ m ≤ 0xdfff then
              (stringBody rest).map fun (s, r) =>
                (Char.ofNat (0x10000 + (n - 0xd800) * 0x400 + (m - 0xdc00)) :: s, r)
            else none
        | _ => none
  | '\\' :: c :: rest =>
    match unescape? c with
    | none => none
    | some e => (stringBody rest).map fun (s, r) => (e :: s, r)
  | c :: rest =>
    if c = '\\' ∨ c.toNat < 32 then none
    else (stringBody rest).map fun (s, r) => (c :: s, r)

def string : Reader String
  | '"' :: rest => (stringBody rest).map fun (s, r) => (String.ofList s, r)
  | _ => none

def digits (cs : List Char) : List Char × List Char := cs.span Char.isDigit

def fraction : Reader (Option (List Char))
  | '.' :: rest =>
    match digits rest with
    | ([], _) => none
    | (ds, rest) => some (some ds, rest)
  | rest => some (none, rest)

def exponent : Reader (Option Int)
  | c :: rest =>
    if c = 'e' ∨ c = 'E' then
      let (negative, rest) :=
        match rest with
        | '+' :: rest => (false, rest)
        | '-' :: rest => (true, rest)
        | rest => (false, rest)
      match digits rest with
      | ([], _) => none
      | (ds, rest) =>
        let n : Int := Decimal.natOfDigits ds
        some (some (if negative then -n else n), rest)
    else some (none, c :: rest)
  | [] => some (none, [])

/-- The value of an unsigned number: an integer if it has no point and no exponent and fits.
A negative zero is not an integer. -/
def numberValue (negative : Bool) (whole : List Char) (frac : Option (List Char))
    (exp : Option Int) : Option Json :=
  let n := Decimal.natOfDigits whole
  let isInt := frac.isNone && exp.isNone &&
    (if negative then 0 < n && Decimal.fitsInt64 (-(n : Int)) else n ≤ Decimal.maxWord)
  if isInt then some (int (if negative then -(n : Int) else n))
  else
    (Decimal.scaled whole (frac.getD []) (exp.getD 0)).map fun f =>
      float (if negative then -f else f)

def unsigned (negative : Bool) (cs : List Char) : Option (Json × List Char) := do
  let (whole, rest) := digits cs
  if whole.isEmpty || (whole.head? == some '0' && whole.length > 1) then none
  else do
    let (frac, rest) ← fraction rest
    let (exp, rest) ← exponent rest
    let v ← numberValue negative whole frac exp
    some (v, rest)

def number : Reader Json
  | '-' :: rest => unsigned true rest
  | cs => unsigned false cs

def word (w : List Char) (cs : List Char) : Option (List Char) :=
  if w.isPrefixOf cs then some (cs.drop w.length) else none

/-- Items with a comma between any two, up to a closing mark. An item takes at least one
character, so as many rounds as there are characters will do. -/
def items {α : Type} (item : Reader α) (close : Char) : (fuel : Nat) → Reader (List α)
  | 0, _ => none
  | fuel + 1, cs =>
    match item (skip cs) with
    | none => none
    | some (x, rest) =>
      match skip rest with
      | c :: rest =>
        if c = close then some ([x], rest)
        else if c = ',' then (items item close fuel rest).map fun (xs, r) => (x :: xs, r)
        else none
      | [] => none

/-- A list of items, possibly empty, after its opening mark. -/
def list {α : Type} (item : Reader α) (close : Char) (cs : List Char) :
    Option (List α × List Char) :=
  match skip cs with
  | c :: rest => if c = close then some ([], rest) else items item close cs.length cs
  | [] => none

def member (value : Reader Json) (cs : List Char) : Option ((String × Json) × List Char) :=
  match string cs with
  | none => none
  | some (k, rest) =>
    match skip rest with
    | ':' :: rest => (value (skip rest)).map fun (v, r) => ((k, v), r)
    | _ => none

/-- A value that begins here, with at most `depth` levels of nesting. -/
def value : (depth : Nat) → Reader Json
  | 0, cs => scalar cs
  | depth + 1, cs =>
    match cs with
    | '[' :: rest => (list (value depth) ']' rest).map fun (xs, r) => (arr xs, r)
    | '\x7b' :: rest =>
      (list (member (value depth)) '\x7d' rest).map fun (ms, r) => (obj ms, r)
    | cs => scalar cs
where
  scalar : Reader Json
    | 'n' :: rest => (word ['u', 'l', 'l'] rest).map fun r => (null, r)
    | 't' :: rest => (word ['r', 'u', 'e'] rest).map fun r => (bool true, r)
    | 'f' :: rest => (word ['a', 'l', 's', 'e'] rest).map fun r => (bool false, r)
    | '"' :: rest => (string ('"' :: rest)).map fun (s, r) => (str s, r)
    | cs => number cs

/-- The value written by a text, with its members in the order of the text. -/
def parse? (text : String) : Option Json :=
  match value maxDepth (skip text.toList) with
  | some (v, rest) => if (skip rest).isEmpty then some v else none
  | none => none

/-- The value written by a text, with its members in order of their names. -/
def read? (text : String) : Option Json := (parse? text).map normalize

end Possession.Json
