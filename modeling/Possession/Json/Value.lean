/-!
# JSON values

Integers within 64 bits are kept apart from floating-point numbers. An object lists its
members in the order in which they were written, repeated names included; `normalize` orders
them by name and keeps the last value of each name, which is the form in which values are
compared and handed on.
-/

namespace Possession

inductive Json where
  | null
  | bool (b : Bool)
  | int (n : Int)
  | float (f : Float)
  | str (s : String)
  | arr (items : List Json)
  | obj (members : List (String × Json))
deriving Repr, BEq, Inhabited

namespace Json

/-- Puts a member into an ordered list, in place of one of that name. -/
def insert {α : Type} (name : String) (value : α) : List (String × α) → List (String × α)
  | [] => [(name, value)]
  | (k, v) :: rest =>
    if name < k then (name, value) :: (k, v) :: rest
    else if name = k then (name, value) :: rest
    else (k, v) :: insert name value rest

/-- The members ordered by name; of several with one name the last one counts. -/
def sort {α : Type} (members : List (String × α)) : List (String × α) :=
  members.foldl (fun sorted (k, v) => insert k v sorted) []

mutual

/-- Orders the members of every object in a value, and keeps the last value of each name. A
value that is handed on has been through this, so a member is found in it at most once. -/
def normalize : Json → Json
  | arr items => arr (normalizeItems items)
  | obj members => obj (sort (normalizeMembers members))
  | v => v

def normalizeItems : List Json → List Json
  | [] => []
  | v :: vs => normalize v :: normalizeItems vs

def normalizeMembers : List (String × Json) → List (String × Json)
  | [] => []
  | (k, v) :: rest => (k, normalize v) :: normalizeMembers rest

end

def lookup (name : String) (members : List (String × Json)) : Option Json :=
  (members.find? (·.1 == name)).map (·.2)

def member? (name : String) : Json → Option Json
  | obj members => lookup name members
  | _ => none

end Json

end Possession
