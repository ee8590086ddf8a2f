import Possession.Json.Value
import Possession.Decimal.Shortest

/-!
# Writing JSON

Values are written without blanks. In strings only quotes, backslashes and the controls
below the space are escaped.
-/

namespace Possession.Json

/-- Numbers show their point, and an exponent from ten to the sixteenth on and below a
hundred thousandth. -/
def floatLayout : Decimal.Layout := ⟨some (-5), some 15, true⟩

def hexDigit (n : Nat) : Char := Nat.digitChar n

/-- One character of a string. Everything from the space on stands for itself, but for the
quote and the backslash; characters beyond ASCII are not escaped. -/
def escapeChar (c : Char) : List Char :=
  if c = '"' then ['\\', '"']
  else if c = '\\' then ['\\', '\\']
  else if c = '\n' then ['\\', 'n']
  else if c = '\r' then ['\\', 'r']
  else if c = '\t' then ['\\', 't']
  else if c = '\x08' then ['\\', 'b']
  else if c = '\x0c' then ['\\', 'f']
  else if c.toNat < 32 then
    ['\\', 'u', '0', '0', hexDigit (c.toNat / 16), hexDigit (c.toNat % 16)]
  else [c]

def quoted (s : String) : List Char := '"' :: s.toList.flatMap escapeChar ++ ['"']

def integer (n : Int) : List Char :=
  if n < 0 then '-' :: Nat.toDigits 10 n.natAbs else Nat.toDigits 10 n.natAbs

def commas : List (List Char) → List Char
  | [] => []
  | [cs] => cs
  | cs :: ds :: rest => cs ++ ',' :: commas (ds :: rest)

mutual

/-- The characters of a value. An infinity and what is no number have no form in JSON and
are written as null. -/
def write : Json → List Char
  | null => ['n', 'u', 'l', 'l']
  | bool true => ['t', 'r', 'u', 'e']
  | bool false => ['f', 'a', 'l', 's', 'e']
  | int n => integer n
  | float f => if f.isFinite then (floatLayout.float f).toList else ['n', 'u', 'l', 'l']
  | str s => quoted s
  | arr items => '[' :: commas (writeItems items) ++ [']']
  | obj members => '\x7b' :: commas (writeMembers members) ++ ['\x7d']

def writeItems : List Json → List (List Char)
  | [] => []
  | v :: vs => write v :: writeItems vs

def writeMembers : List (String × Json) → List (List Char)
  | [] => []
  | (k, v) :: rest => (quoted k ++ ':' :: write v) :: writeMembers rest

end

def render (v : Json) : String := String.ofList (write v)

end Possession.Json
