import Possession.Decimal.Reading
import Possession.Json.Value

/-!
# What a YAML document holds

A scalar without quotes stands for a switch, a number or nothing where it is written like
one, and for a text otherwise. A number with a point or an exponent is kept as it is
written. Of an explicit tag only those of the core schema count; a value that does not suit
its tag is no value.
-/

namespace Possession.Yaml

/-- A node of a document. A number with a fraction is kept as its text, so that two keys are
the same only if they are written alike. -/
inductive Node where
  | null
  | bool (b : Bool)
  | int (n : Int)
  | real (text : String)
  | str (s : String)
  | seq (items : List Node)
  | map (entries : List (Node × Node))
deriving BEq, Inhabited

/-- A tag: one of the core schema, by name, or any other. -/
inductive Tag where
  | core (name : String)
  | other
deriving Repr, DecidableEq

def specialNumbers : List String :=
  [".inf", ".Inf", ".INF", "+.inf", "+.Inf", "+.INF", "-.inf", "-.Inf", "-.INF",
    ".nan", ".NaN", ".NAN"]

def isNumber (s : String) : Bool :=
  specialNumbers.contains s ||
    (s.toList.any Char.isDigit && (Decimal.readFloat? s.toList).isSome)

def digitValue? (base : Nat) (c : Char) : Option Nat :=
  let n := if c.isDigit then c.toNat - 48 else c.toLower.toNat - 87
  if (c.isDigit || ('a' ≤ c.toLower && c.toLower ≤ 'f')) && n < base then some n else none

/-- A 64-bit integer in a base, with an optional sign. -/
def readBase? (base : Nat) (cs : List Char) : Option Int :=
  let (negative, cs) := Decimal.takeSign cs
  if cs.isEmpty then none
  else
    let n : Option Nat := cs.foldlM (fun n c => (digitValue? base c).map (n * base + ·)) 0
    (n.map fun n => if negative then -(n : Int) else n).filter Decimal.fitsInt64

/-- An integer that is marked by what stands before it. -/
def readMarked? : List Char → Option Int
  | '0' :: 'x' :: cs => readBase? 16 cs
  | '0' :: 'o' :: cs => readBase? 8 cs
  | '+' :: cs => Decimal.readInt64? cs
  | _ => none

/-- What a scalar without quotes and without a tag stands for. -/
def Node.ofPlain (s : String) : Node :=
  match readMarked? s.toList with
  | some n => .int n
  | none =>
    if s = "" ∨ s = "~" ∨ s = "null" then .null
    else if s = "true" then .bool true
    else if s = "false" then .bool false
    else
      match Decimal.readInt64? s.toList with
      | some n => .int n
      | none => if isNumber s then .real s else .str s

/-- What a scalar without quotes stands for. A tag of the core schema decides how it is
read, and a scalar that cannot be read so is null; under any other tag it is a text. -/
def Node.ofTagged (s : String) : Option Tag → Node
  | none => ofPlain s
  | some (.core "bool") =>
    if s = "true" then .bool true else if s = "false" then .bool false else .null
  | some (.core "int") => ((Decimal.readInt64? s.toList).map Node.int).getD .null
  | some (.core "float") => if isNumber s then .real s else .null
  | some (.core "null") => .null
  | some _ => .str s

/-- The name that a key stands for; lists, tables and nothing are no names. -/
def Node.name? : Node → Option String
  | .str s => some s
  | .int n => some (toString n)
  | .bool b => some (if b then "true" else "false")
  | .real text => some text
  | _ => none

mutual

/-- A node as a JSON value, if its numbers are finite and its keys are names. -/
def Node.toJson? : Node → Option Json
  | .null => some .null
  | .bool b => some (.bool b)
  | .int n => some (.int n)
  | .real text => (Decimal.readFloat? text.toList).map Json.float
  | .str s => some (.str s)
  | .seq items => (itemsToJson? items).map Json.arr
  | .map entries => (entriesToJson? entries).map fun ms => .obj (Json.sort ms)

def itemsToJson? : List Node → Option (List Json)
  | [] => some []
  | n :: ns => do return (← n.toJson?) :: (← itemsToJson? ns)

def entriesToJson? : List (Node × Node) → Option (List (String × Json))
  | [] => some []
  | (k, n) :: rest => do return (← k.name?, ← n.toJson?) :: (← entriesToJson? rest)

end

/-- A table, unless a key is repeated. -/
def Node.table? (entries : List (Node × Node)) : Option Node :=
  let keys := entries.map (·.1)
  if (keys.zipIdx.any fun (k, i) => (keys.take i).any (· == k)) then none
  else some (.map entries)

end Possession.Yaml
