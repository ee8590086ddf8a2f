import Possession.Json.Value

/-!
# Layered configuration

A configuration is a tree that is built up from sources. Each value of a source remembers
where it was set. A later source replaces what an earlier one set, except that tables are
merged member by member.
-/

namespace Possession.Config

abbrev Origin := Option String

inductive Scalar where
  | unset
  | bool (b : Bool)
  | int (n : Int)
  | float (f : Float)
  | text (s : String)
deriving Repr, Inhabited

def Scalar.toJson : Scalar → Json
  | unset => .null
  | bool b => .bool b
  | int n => .int n
  | float f => .float f
  | text s => .str s

inductive Value where
  | leaf (value : Scalar) (origin : Origin)
  | list (items : List Value) (origin : Origin)
  | table (members : List (String × Value))
deriving Inhabited

namespace Value

def unset : Value := leaf .unset none

def empty : Value := table []

/-- The members of a table; none of anything else. -/
def members : Value → List (String × Value)
  | table ms => ms
  | _ => []

def find? (name : String) (ms : List (String × Value)) : Option Value :=
  (ms.find? (·.1 == name)).map (·.2)

/-- A table with a member changed; an absent member is one that was not set. -/
def alter (name : String) (f : Value → Value) (ms : List (String × Value)) : Value :=
  table (Json.insert name (f ((find? name ms).getD unset)) ms)

mutual

/-- Writes a value over another. Tables are merged member by member; anything else is
replaced as a whole, a list by a list as well. -/
def merge : (new old : Value) → Value
  | table ms, old => mergeMembers ms old.members
  | new, _ => new

def mergeMembers : (new old : List (String × Value)) → Value
  | [], old => table old
  | (k, v) :: rest, old => mergeMembers rest (alter k (merge v) old).members

end

mutual

/-- A document as a configured value: every scalar and every list in it remembers the same
origin. -/
def ofJson (origin : Origin) : Json → Value
  | .arr items => list (ofItems origin items) origin
  | .obj ms => table (ofMembers origin ms)
  | .null => leaf .unset origin
  | .bool b => leaf (.bool b) origin
  | .int n => leaf (.int n) origin
  | .float f => leaf (.float f) origin
  | .str s => leaf (.text s) origin

def ofItems (origin : Origin) : List Json → List Value
  | [] => []
  | v :: vs => ofJson origin v :: ofItems origin vs

def ofMembers (origin : Origin) : List (String × Json) → List (String × Value)
  | [] => []
  | (k, v) :: rest => (k, ofJson origin v) :: ofMembers origin rest

end

mutual

def toJson : Value → Json
  | leaf v _ => v.toJson
  | list items _ => .arr (itemsToJson items)
  | table ms => .obj (membersToJson ms)

def itemsToJson : List Value → List Json
  | [] => []
  | v :: vs => toJson v :: itemsToJson vs

def membersToJson : List (String × Value) → List (String × Json)
  | [] => []
  | (k, v) :: rest => (k, toJson v) :: membersToJson rest

end

end Value

end Possession.Config
