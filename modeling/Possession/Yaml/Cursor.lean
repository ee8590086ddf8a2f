import Possession.Yaml.Node

/-!
# Places in a YAML document

The structure of a document shows in the columns of its characters, so each character is
read together with its column. A comment has to stand apart from what is before it. A reader
also carries the nodes that have been named so far, which may be referred to again.
-/

namespace Possession.Yaml

structure Placed where
  char : Char
  column : Nat
  /-- Whether it is the first on its line or has a blank before it. -/
  isApart : Bool
deriving Repr, DecidableEq, Inhabited

/-- Line breaks of every kind as one character. -/
def unifyBreaks : List Char → List Char
  | '\r' :: '\n' :: rest => '\n' :: unifyBreaks rest
  | '\r' :: rest => '\n' :: unifyBreaks rest
  | c :: rest => c :: unifyBreaks rest
  | [] => []

def isBlank (c : Char) : Bool := c = ' ' || c = '\t'

def place : (column : Nat) → (isApart : Bool) → List Char → List Placed
  | _, _, [] => []
  | column, isApart, c :: rest =>
    ⟨c, column, isApart⟩ ::
      if c = '\n' then place 0 true rest else place (column + 1) (isBlank c) rest

/-- What is left of a document, and the nodes that have been named. -/
structure Cursor where
  rest : List Placed
  named : List (String × Node)

abbrev Reader := StateT Cursor Option

/-- Whether a comment begins with a character. -/
def Placed.isComment (p : Placed) : Bool := p.char = '#' && p.isApart

/-- Whether a character sets items of a list or table in brackets apart. -/
def isFlowMark (c : Char) : Bool := c ∈ [',', '[', ']', '\x7b', '\x7d']

/-- Whether what is left begins with a blank, a line break or the end. -/
def endsWord : List Placed → Bool
  | [] => true
  | p :: _ => isBlank p.char || p.char = '\n'

/-- Whether what is left begins with a character that stands by itself. -/
def startsWith (c : Char) : List Placed → Bool
  | p :: rest => p.char = c && endsWord rest
  | [] => false

/-- Whether a line that divides documents begins here: three hyphens or three points at its
start, with nothing right behind them. -/
def isDivider (rest : List Placed) : Bool :=
  match rest with
  | a :: b :: c :: rest =>
    a.column = 0 && (a.char = '-' || a.char = '.') && b.char = a.char && c.char = a.char &&
      endsWord rest
  | _ => false

def isOver (rest : List Placed) : Bool := rest.isEmpty || isDivider rest

def dropLine (rest : List Placed) : List Placed := rest.dropWhile fun p => p.char ≠ '\n'

def dropBlanks (rest : List Placed) : List Placed := rest.dropWhile fun p => isBlank p.char

/-- What is left after blanks, comments and line breaks. A tab may not stand in for the
spaces that put a line below `indent`; `fresh` says whether only blanks have been passed on
this line. -/
def skip (indent : Int) : (fresh : Bool) → List Placed → Option (List Placed)
  | _, [] => some []
  | fresh, p :: rest =>
    if p.char = '\n' then skip indent true rest
    else if p.char = ' ' then skip indent fresh rest
    else if p.char = '\t' then
      if fresh && (p.column : Int) < indent && !isBlankLine rest then none
      else skip indent fresh rest
    else if p.isComment then skipComment indent rest
    else some (p :: rest)
where
  isBlankLine (rest : List Placed) : Bool :=
    (dropBlanks rest).head?.all fun p => p.char = '\n'
  skipComment (indent : Int) : List Placed → Option (List Placed)
    | [] => some []
    | p :: rest => if p.char = '\n' then skip indent true rest else skipComment indent rest

namespace Reader

def rest : Reader (List Placed) := do return (← get).rest

def goTo (rest : List Placed) : Reader Unit := modify fun c => { c with rest }

def skipAll (indent : Int) : Reader Unit := do goTo (← skip indent false (← rest))

/-- Skips blanks within a line and tells whether the line ends there. A comment counts as
its end. -/
def skipLine : Reader Bool := do
  let after := dropBlanks (← rest)
  let isComment := after.head?.any (·.isComment)
  goTo (if isComment then dropLine after else after)
  return isComment || after.head?.all (·.char = '\n')

def mark (c : Char) : Reader Unit := do
  match ← rest with
  | p :: rest => if p.char = c then goTo rest else failure
  | [] => failure

/-- Names a node. A name that was given before now stands for the new node. -/
def name (anchor : Option String) (n : Node) : Reader Node := do
  if let some a := anchor then modify fun c => { c with named := (a, n) :: c.named }
  return n

def mentioned (anchor : String) : Reader Node := do
  match (← get).named.find? (·.1 == anchor) with
  | some (_, n) => return n
  | none => failure

end Reader

end Possession.Yaml
