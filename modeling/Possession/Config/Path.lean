import Possession.Config.Value
import Possession.Decimal.Reading

/-!
# Paths into a configuration

The name of a setting may be a path, as in `server.ports[0]`. A name that is no path stands
for itself. Setting a path makes what is missing on the way, and replaces what is in the
way.
-/

namespace Possession.Config

inductive Step where
  | member (name : String)
  /-- A position, from the end if it is negative. -/
  | item (position : Int)
deriving Repr, DecidableEq

abbrev Path := List Step

namespace Path

def isNameChar (c : Char) : Bool := c.isAlphanum || c = '_' || c = '-'

def isPad (c : Char) : Bool := c = ' ' || c = '\t'

/-- A position between brackets, with blanks around it or not. A plus sign is refused here,
which integers elsewhere may have. -/
def readPosition? (cs : List Char) : Option Int :=
  let trimmed := ((cs.dropWhile isPad).reverse.dropWhile isPad).reverse
  if trimmed.head? = some '+' then none else Decimal.readInt64? trimmed

/-- A name that is not empty, and what follows it. -/
def takeName (cs : List Char) : Option (String × List Char) :=
  match cs.span isNameChar with
  | ([], _) => none
  | (name, rest) => some (String.ofList name, rest)

/-- The steps after the first name. Each takes at least one character, so the length of the
text is fuel enough. -/
def readSteps : (fuel : Nat) → List Char → Option Path
  | _, [] => some []
  | fuel + 1, '.' :: rest => do
    let (name, rest) ← takeName rest
    return .member name :: (← readSteps fuel rest)
  | fuel + 1, '[' :: rest => do
    let (inside, rest) := rest.span (· ≠ ']')
    let position ← readPosition? inside
    return .item position :: (← readSteps fuel (← rest.tail?))
  | _, _ => none

/-- The path that a name stands for. A name that cannot be read as a path is not an error:
it is the single member of that very name. -/
def ofName (name : String) : Path :=
  let path : Option Path := do
    let (first, rest) ← takeName name.toList
    return .member first :: (← readSteps rest.length rest)
  path.getD [.member name]

end Path

namespace Value

/-- Changes the item at a position of a list, which grows to reach it at its end or, for a
position before the start, at its start. -/
def alterItem (position : Int) (f : Value → Value) (items : List Value) : List Value :=
  let i := if 0 ≤ position then position else items.length + position
  let items := List.replicate (-i).toNat unset ++ items
  let items := items ++ List.replicate (i.toNat + 1 - items.length) unset
  items.modify i.toNat f

def alterAt (f : Value → Value) : Path → Value → Value
  | [], v => f v
  | .member name :: path, v => alter name (alterAt f path) v.members
  | .item position :: path, v =>
    match v with
    | list items origin => list (alterItem position (alterAt f path) items) origin
    | _ => list (alterItem position (alterAt f path) []) none

/-- Sets what a name stands for. Tables are merged, so setting one keeps the members of the
old table that the new one does not have. -/
def set (name : String) (value root : Value) : Value :=
  alterAt (merge value) (Path.ofName name) root

def setAll (entries : List (String × Value)) (root : Value) : Value :=
  entries.foldl (fun root (name, value) => set name value root) root

end Value

end Possession.Config
