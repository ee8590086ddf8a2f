import Possession.Json.Value
import Possession.Decimal.Numeral
import Possession.Decimal.Shortest
import Possession.Text.Quoted

/-!
# Reading typed data out of JSON values

A record is read from an object, by name and ignoring members it does not know, or from an
array, by position. A value of the wrong shape is a `Mismatch`, which says what was found
and what was expected in its place. Members are looked at in the order of their names, so of
two mismatches the one with the smaller name is reported; a missing member is reported last,
in the order of the record's declaration.
-/

namespace Possession.Json

/-- Why a value cannot be read as the data that was asked for. -/
inductive Mismatch where
  /-- A value of the wrong kind. -/
  | kind (found expected : String)
  /-- A value of the right kind outside the range. -/
  | range (found expected : String)
  /-- A list with too few or too many items. -/
  | length (count : Nat) (expected : String)
  | missing (field : String)
  | repeated (field : String)
  | unknownName (name : String) (known : List String)
deriving Repr, DecidableEq, Inhabited

def backquoted (s : String) : String := "\x60" ++ s ++ "\x60"

def oneOf (names : List String) : String :=
  match names with
  | [] => "there are no variants"
  | [a] => "expected " ++ backquoted a
  | [a, b] => "expected " ++ backquoted a ++ " or " ++ backquoted b
  | _ => "expected one of " ++ ", ".intercalate (names.map backquoted)

def Mismatch.message : Mismatch → String
  | kind found expected => "invalid type: " ++ found ++ ", expected " ++ expected
  | range found expected => "invalid value: " ++ found ++ ", expected " ++ expected
  | length count expected =>
    "invalid length " ++ toString count ++ ", expected " ++ expected
  | missing field => "missing field " ++ backquoted field
  | repeated field => "duplicate field " ++ backquoted field
  | unknownName name known => "unknown variant " ++ backquoted name ++ ", " ++ oneOf known

/-- How a value is named in a mismatch. The text of a string is shown, but a list or an
object only as such. -/
def describe : Json → String
  | null => "null"
  | bool b => "boolean " ++ backquoted (if b then "true" else "false")
  | int n => "integer " ++ backquoted (toString n)
  | float f => "floating point " ++ backquoted (Decimal.pointed.float f)
  | str s => "string " ++ Text.quote s
  | arr _ => "sequence"
  | obj _ => "map"

abbrev Decoded (α : Type) := Except Mismatch α

def mismatch {α : Type} (expected : String) (v : Json) : Decoded α :=
  .error (.kind v.describe expected)

def decodeString : Json → Decoded String
  | str s => .ok s
  | v => mismatch "a string" v

def decodeList {α : Type} (decode : Json → Decoded α) : Json → Decoded (List α)
  | arr items => items.mapM decode
  | v => mismatch "a sequence" v

/-- An integer within bounds that are called `name`. -/
def decodeWithin (low high : Int) (name : String) : Json → Decoded Int
  | int n => if low ≤ n ∧ n ≤ high then .ok n else .error (.range (int n).describe name)
  | v => mismatch name v

def decodeInt64 (v : Json) : Decoded Int64 :=
  (decodeWithin Int64.minValue.toInt Int64.maxValue.toInt "i64" v).map Int64.ofInt

def decodeUInt64 (v : Json) : Decoded UInt64 :=
  (decodeWithin 0 Decimal.maxWord "u64" v).map fun n => UInt64.ofNat n.toNat

def decodeOption {α : Type} (decode : Json → Decoded α) : Json → Decoded (Option α)
  | null => .ok none
  | v => (decode v).map some

/-- A choice between named values: the name, or an object with the name as its only member
and null as its value. -/
def decodeName {α : Type} (choices : List (String × α)) : Json → Decoded α
  | str s => pick s
  | obj [(k, v)] => do
    let a ← pick k
    match v with
    | null => .ok a
    | v => mismatch "unit" v
  | obj _ => .error (.range "map" "map with a single key")
  | v => mismatch "string or map" v
where
  pick (name : String) : Decoded α :=
    match choices.find? (·.1 == name) with
    | some (_, a) => .ok a
    | none => .error (.unknownName name (choices.map (·.1)))

/-- A member that may be absent. Values that are read by name have been normalized, so it is
there at most once. -/
def field {α : Type} (name : String) (decode : Json → Decoded α)
    (members : List (String × Json)) : Decoded (Option α) :=
  match lookup name members with
  | none => .ok none
  | some v => (decode v).map some

/-- A member that may be absent but not repeated. It is for objects whose members are still
as they were written. -/
def fieldOnce {α : Type} (name : String) (decode : Json → Decoded α)
    (members : List (String × Json)) : Decoded (Option α) :=
  match members.filter (·.1 == name) with
  | [] => .ok none
  | [(_, v)] => (decode v).map some
  | _ => .error (.repeated name)

def require {α : Type} (name : String) : Option α → Decoded α
  | some a => .ok a
  | none => .error (.missing name)

def item {α : Type} (expected : String) (i : Nat) (decode : Json → Decoded α)
    (items : List Json) : Decoded α :=
  match items[i]? with
  | some v => decode v
  | none => .error (.length i expected)

/-- The item at a position, or what stands for it in a shorter list. -/
def itemD {α : Type} (i : Nat) (default : α) (decode : Json → Decoded α)
    (items : List Json) : Decoded α :=
  match items[i]? with
  | some v => decode v
  | none => .ok default

def elements (n : Nat) : String := if n = 1 then "1 element" else toString n ++ " elements"

/-- A record of a given name and size. An object is read by the names of its members, and a
list by position: the record may also be written as the list of its fields, of which the
last may be left out if they have a default. -/
def decodeRecord {α : Type} (name : String) (size : Nat)
    (ofMembers : List (String × Json) → Decoded α)
    (ofItems : (expected : String) → List Json → Decoded α) : Json → Decoded α
  | obj members => ofMembers members
  | arr items => do
    let a ← ofItems ("struct " ++ name ++ " with " ++ elements size) items
    if items.length ≤ size then .ok a
    else .error (.length items.length "fewer elements in array")
  | v => mismatch ("struct " ++ name) v

end Possession.Json
