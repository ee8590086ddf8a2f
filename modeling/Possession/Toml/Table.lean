import Possession.Toml.Text

/-!
# Tables in TOML

A table is built up by statements in any order, under rules that keep a document from saying
a thing twice. A table that was only passed through by a header may still get a header of
its own. A table that came about by a dotted key may be added to by dotted keys, but gets no
header. An inline table is complete as it stands.
-/

namespace Possession.Toml

inductive Role where
  /-- Passed through by the header of a table below it. -/
  | implied
  /-- Named by a dotted key. -/
  | dotted
  /-- Named by a header. -/
  | defined
deriving Repr, DecidableEq

/-- What a name stands for while a document is read. Values are complete, tables and lists
of tables are not. -/
inductive Node where
  | value (v : Json)
  | table (role : Role) (members : List (String × Node))
  /-- A list of tables that may still grow, the latest first. -/
  | tables (items : List (List (String × Node)))
deriving Inhabited

abbrev Members := List (String × Node)

mutual

def Node.toJson : Node → Json
  | .value v => v
  | .table _ ms => .obj (membersToJson ms)
  | .tables items => .arr (tablesToJson items)

def membersToJson : List (String × Node) → List (String × Json)
  | [] => []
  | (k, n) :: rest => (k, n.toJson) :: membersToJson rest

def tablesToJson : List (List (String × Node)) → List Json
  | [] => []
  | t :: rest => tablesToJson rest ++ [.obj (membersToJson t)]

end

namespace Members

/-- Changes what a name stands for, or refuses to. -/
def change (name : String) (f : Option Node → Option Node) : Members → Option Members
  | [] => (f none).map fun n => [(name, n)]
  | (k, n) :: rest =>
    if k = name then (f (some n)).map fun n => (k, n) :: rest
    else (change name f rest).map ((k, n) :: ·)

/-- Changes the table at a key, on the way to which missing tables are made. The way leads
into the latest table of a list if it is that of a header, and not into a table with a
header if it is that of a dotted key. -/
def under (role : Role) (f : Members → Option Members) : Key → Members → Option Members
  | [], ms => f ms
  | k :: path, ms =>
    change k (fun
      | none => (under role f path []).map (.table role)
      | some (.table role' inner) =>
        if role = .dotted ∧ role' = .defined then none
        else (under role f path inner).map (.table role')
      | some (.tables (t :: ts)) =>
        if role = .dotted then none
        else (under role f path t).map fun t => .tables (t :: ts)
      | some _ => none) ms

/-- Changes the table that the latest header named. -/
def within (f : Members → Option Members) : Key → Members → Option Members
  | [], ms => f ms
  | k :: path, ms =>
    change k (fun
      | some (.table role inner) => (within f path inner).map (.table role)
      | some (.tables (t :: ts)) => (within f path t).map fun t => .tables (t :: ts)
      | _ => none) ms

/-- Changes what the last name of a key stands for, in a table that lies at the names before
it. -/
def atLast (role : Role) (f : Option Node → Option Node) (key : Key) (ms : Members) :
    Option Members :=
  match key.getLast? with
  | none => none
  | some last => under role (change last f) key.dropLast ms

/-- Gives a key a value, which it may get once only. -/
def assign (key : Key) (v : Json) : Members → Option Members :=
  atLast .dotted (fun
    | none => some (.value v)
    | some _ => none) key

/-- Begins the table of a header. A table that was only passed through may still get one;
anything else that has the name refuses it. -/
def define (key : Key) : Members → Option Members :=
  atLast .implied (fun
    | none => some (.table .defined [])
    | some (.table .implied ms) => some (.table .defined ms)
    | some _ => none) key

def addItem (key : Key) : Members → Option Members :=
  atLast .implied (fun
    | none => some (.tables [[]])
    | some (.tables ts) => some (.tables ([] :: ts))
    | some _ => none) key

/-- An inline table of members in the order of the text. -/
def inline? (entries : List (Key × Json)) : Option Json :=
  (entries.foldlM (fun ms (key, v) => assign key v ms) []).map fun ms =>
    .obj (membersToJson ms)

end Members

end Possession.Toml
