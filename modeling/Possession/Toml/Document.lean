import Possession.Toml.Scalar
import Possession.Toml.Table

/-!
# Reading TOML

A document is a list of statements, one a line: a key with its value, or the header of a
table or of one more table of a list, to which the statements after it belong.
-/

namespace Possession.Toml

open Text (Reader)
open Text.Reader

/-- How deep lists and inline tables may be nested; deeper ones are refused. -/
def maxDepth : Nat := 80

/-- An item and the comma after it, or the closing mark. -/
def item {α : Type} (read : Reader α) (close : Char) (cs : List Char) :
    Option (Round α × List Char) :=
  match skipAll cs with
  | [] => none
  | c :: rest =>
    if c = close then some (.last [], rest)
    else do
      let (a, rest) ← read (c :: rest)
      match skipAll rest with
      | ',' :: rest => return (.more [a], rest)
      | c :: rest => if c = close then return (.last [a], rest) else none
      | [] => none

def assignment (value : Reader Json) (cs : List Char) :
    Option ((Key × Json) × List Char) := do
  match ← key cs with
  | (k, '=' :: rest) =>
    let (v, rest) ← value (skipBlanks rest)
    return ((k, v), rest)
  | _ => none

/-- A value that begins here, with at most `depth` levels of nesting. -/
def value : (depth : Nat) → Reader Json
  | depth, '[' :: rest =>
    match depth with
    | 0 => none
    | depth + 1 =>
      (collectAll (item (value depth) ']') rest).map fun (items, rest) => (.arr items, rest)
  | depth, '\x7b' :: rest =>
    match depth with
    | 0 => none
    | depth + 1 => do
      let (entries, rest) ← collectAll (item (assignment (value depth)) '\x7d') rest
      return (← Members.inline? entries, rest)
  | _, '"' :: rest => (text ('"' :: rest)).map fun (s, rest) => (.str s, rest)
  | _, '\'' :: rest => (text ('\'' :: rest)).map fun (s, rest) => (.str s, rest)
  | _, cs =>
    let (w, rest) := takeWord cs
    (readWord? w).map (·, rest)

inductive Statement where
  | assign (key : Key) (value : Json)
  | define (key : Key)
  | addItem (key : Key)

def statement : Reader Statement
  | '[' :: '[' :: rest => do
    match ← key rest with
    | (k, ']' :: ']' :: rest) => return (.addItem k, rest)
    | _ => none
  | '[' :: rest => do
    match ← key rest with
    | (k, ']' :: rest) => return (.define k, rest)
    | _ => none
  | cs => (assignment (value maxDepth) cs).map fun ((k, v), rest) => (.assign k v, rest)

/-- A line with its end, unless the document has ended. -/
def line (cs : List Char) : Option (Round Statement × List Char) :=
  match skipAll cs with
  | [] => some (.last [], [])
  | cs => do
    let (s, rest) ← statement cs
    return (.more [s], ← endLine? rest)

/-- A document that is read up to here: its members, and the key of the latest header. -/
structure State where
  members : Members
  current : Key

def State.run (s : State) : Statement → Option State
  | .assign key v =>
    (s.members.within (Members.assign key v) s.current).map fun ms => ⟨ms, s.current⟩
  | .define key => (s.members.define key).map fun ms => ⟨ms, key⟩
  | .addItem key => (s.members.addItem key).map fun ms => ⟨ms, key⟩

/-- The table that a document writes. A mark of octet order in front of it is dropped. -/
def parse? (document : String) : Option Json := do
  let cs := match document.toList with
    | '\ufeff' :: cs => cs
    | cs => cs
  let (statements, _) ← collectAll line cs
  let s ← statements.foldlM State.run ⟨[], []⟩
  return .obj (membersToJson s.members)

end Possession.Toml
