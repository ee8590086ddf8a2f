import Possession.Yaml.Scalar

/-!
# Reading YAML

A table in block form is a column of keys, each with a value that stands behind it or
further in on the lines below; a list in block form is a column of dashes. Within brackets,
columns play no part. The readers are defined by recursion on a bound of their depth and
length, for which the number of characters suffices several times over.
-/

namespace Possession.Yaml

open Reader

/-- What may stand before a node: a name for it and a tag. -/
structure Properties where
  anchor : Option String := none
  tag : Option Tag := none

def Properties.isEmpty (p : Properties) : Bool := p.anchor.isNone && p.tag.isNone

/-- The characters up to a blank or a mark of brackets. -/
def word : Reader String := do
  let cs :=
    (← rest).takeWhile fun p => !(isBlank p.char || p.char = '\n' || isFlowMark p.char)
  goTo ((← rest).drop cs.length)
  return String.ofList (cs.map (·.char))

/-- The tag of a word that followed a mark of exclamation. -/
def tagOf? (w : String) : Option Tag :=
  match w.toList with
  | '!' :: name => some (.core (String.ofList name))
  | name => if name.contains '!' then none else some .other

/-- A tag, after its mark of exclamation. A tag in full stands between angle brackets. -/
def tag : Reader Tag := do
  match ← rest with
  | c :: more =>
    if c.char = '<' then
      let after := more.dropWhile fun p => p.char ≠ '>' ∧ p.char ≠ '\n'
      if after.head?.any (·.char = '>') then goTo after.tail else failure
      return .other
    else tagOf? (← word)
  | [] => tagOf? ""

def property (p : Properties) : Reader Properties := do
  match ← rest with
  | c :: more =>
    if c.char = '&' ∧ p.anchor = none then
      goTo more
      let w ← word
      if w = "" then failure
      return { p with anchor := some w }
    else if c.char = '!' ∧ p.tag = none then
      goTo more
      return { p with tag := some (← tag) }
    else return p
  | [] => return p

/-- Reads names and tags within a line. -/
def properties : Reader Properties := do
  let p ← property {}
  goTo (dropBlanks (← rest))
  let p ← property p
  goTo (dropBlanks (← rest))
  return p

def mention? : Reader (Option Node) := do
  match ← rest with
  | c :: more =>
    if c.char = '*' then
      goTo more
      return some (← mentioned (← word))
    else return none
  | [] => return none

def atQuote : Reader Bool := do
  return (← rest).head?.any fun p => p.char = '"' || p.char = '\''

/-- A node that is only its name and tag. -/
def emptyNode (p : Properties) : Reader Node := name p.anchor (Node.ofTagged "" p.tag)

/-- A scalar on one line, as a key has to be. -/
def scalarKey (inFlow : Bool) (p : Properties) : Reader Node := do
  if let some n ← mention? then return n
  if ← atQuote then
    let (s, after, oneLine) ← quoted (← rest)
    if !oneLine then failure
    goTo after
    name p.anchor (.str s)
  else
    let (s, after) ← plainKey inFlow (← rest)
    goTo after
    name p.anchor (Node.ofTagged s p.tag)

/-- The key of an entry, with the colon after it. -/
def implicitKey : Reader Node := do
  let p ← properties
  let k ← scalarKey false p
  goTo (dropBlanks (← rest))
  if startsWith ':' (← rest) then mark ':' else failure
  return k

def scalar (inFlow : Bool) (indent : Int) (p : Properties) : Reader Node := do
  if ← atQuote then
    let (s, after, _) ← quoted (← rest)
    goTo after
    name p.anchor (.str s)
  else
    let (s, after) ← plain inFlow indent (← rest)
    goTo after
    name p.anchor (Node.ofTagged s p.tag)

/-! ## Brackets -/

/-- Skips blanks and line breaks between brackets, where no line may begin before
`indent`. -/
def skipFlow (indent : Int) : Reader Unit := do
  skipAll indent
  match ← rest with
  | p :: _ => if (p.column : Int) < indent ∨ isDivider (← rest) then failure
  | [] => failure

/-- Whether a colon here sets a value apart from its key; `tight` says that the key has an
end of its own. -/
def atColon (tight : Bool) : Reader Bool := do
  match ← rest with
  | p :: more =>
    return p.char = ':' &&
      (tight || endsWord more || more.head?.any fun q => isFlowMark q.char)
  | [] => return false

def at? (a b : Char) : Reader Bool := do
  return (← rest).head?.any fun p => p.char = a || p.char = b

mutual

def flowNode (indent : Int) : (fuel : Nat) → Reader Node
  | 0 => failure
  | fuel + 1 => do
    let p ← properties
    skipFlow indent
    if let some n ← mention? then
      if p.isEmpty then return n else failure
    match (← rest).head?.map (·.char) with
    | some '[' => mark '['; name p.anchor (.seq (← flowItems indent fuel))
    | some '\x7b' =>
      mark '\x7b'
      name p.anchor (← Node.table? (← flowEntries indent fuel))
    | some c =>
      if !p.isEmpty && c ∈ [',', ']', '\x7d', ':'] && !startsPlain true (← rest) then
        emptyNode p
      else scalar true indent p
    | none => failure

/-- The rest of a list in brackets. A key with its value as an item is a table of its
own. -/
def flowItems (indent : Int) : (fuel : Nat) → Reader (List Node)
  | 0 => failure
  | fuel + 1 => do
    skipFlow indent
    if ← at? ']' ']' then
      mark ']'
      return []
    let entry ← flowEntry indent fuel
    let item := match entry with
      | (k, none) => k
      | (k, some v) => .map [(k, v)]
    skipFlow indent
    if ← at? ']' ']' then
      mark ']'
      return [item]
    mark ','
    return item :: (← flowItems indent fuel)

def flowEntries (indent : Int) : (fuel : Nat) → Reader (List (Node × Node))
  | 0 => failure
  | fuel + 1 => do
    skipFlow indent
    if ← at? '\x7d' '\x7d' then
      mark '\x7d'
      return []
    let (k, v) ← flowEntry indent fuel
    skipFlow indent
    if ← at? '\x7d' '\x7d' then
      mark '\x7d'
      return [(k, v.getD .null)]
    mark ','
    return (k, v.getD .null) :: (← flowEntries indent fuel)

/-- A key within brackets, and its value if it has one. -/
def flowEntry (indent : Int) : (fuel : Nat) → Reader (Node × Option Node)
  | 0 => failure
  | fuel + 1 => do
    let isMarked := startsWith '?' (← rest)
    if isMarked then
      mark '?'
      skipFlow indent
    let tight := (← atQuote) || (← at? '[' '\x7b')
    let k ← if ← atColon false then pure Node.null else flowNode indent fuel
    skipFlow indent
    if ← atColon tight then
      mark ':'
      skipFlow indent
      if (← at? ',' ']') || (← at? '\x7d' '\x7d') then return (k, some .null)
      return (k, some (← flowNode indent fuel))
    else return (k, if isMarked then some .null else none)

end

/-! ## Columns -/

/-- A scalar, a block of lines, or a list or table in brackets. -/
def inlineNode (indent : Int) (fuel : Nat) (p : Properties) : Reader Node := do
  if let some n ← mention? then
    if p.isEmpty then return n else failure
  match ← rest with
  | [] => emptyNode p
  | c :: more =>
    if c.char = '|' ∨ c.char = '>' then
      let (s, after) ← block (c.char = '>') indent more
      goTo after
      name p.anchor (.str s)
    else if c.char = '[' ∨ c.char = '\x7b' then
      let n ← flowNode (max indent 0) fuel
      name p.anchor n
    else scalar false indent p

def column : Reader Nat := do return ((← rest).head?.map (·.column)).getD 0

mutual

/-- A node that is further in than `indent`, at the start of a line or in the place of one.
`dashes` says whether a list may stand at `indent` itself. -/
def blockNode (indent : Int) (dashes : Bool) : (fuel : Nat) → Properties → Reader Node
  | 0, _ => failure
  | fuel + 1, p => do
    skipAll indent
    let here ← rest
    let c ← column
    if isOver here then emptyNode p
    else if startsWith '-' here ∧ (indent < c ∨ (dashes ∧ indent = c)) then
      name p.anchor (.seq (← blockItems c fuel))
    else if (c : Int) ≤ indent then emptyNode p
    else
      -- reading on tells whether a table begins here: a key with its colon is tried out
      let isTable := startsWith '?' here || (implicitKey.run (← get)).isSome
      if isTable then
        name p.anchor (← Node.table? (← blockEntries c fuel))
      else
        let q ← properties
        if q.isEmpty then inlineNode indent fuel p
        else if !p.isEmpty then failure
        else if ← skipLine then blockNode indent dashes fuel q
        else inlineNode indent fuel q

/-- A node behind the mark of an entry, where `compact` says whether a list or table may
begin on the same line. -/
def valueNode (indent : Int) (dashes compact : Bool) : (fuel : Nat) → Reader Node
  | 0 => failure
  | fuel + 1 => do
    if ← skipLine then blockNode indent dashes fuel {}
    else if compact then blockNode indent false fuel {}
    else
      let p ← properties
      if ← skipLine then blockNode indent dashes fuel p
      else if startsWith '-' (← rest) then failure
      else inlineNode indent fuel p

/-- The items of a list in a column. The list ends where its column does. -/
def blockItems (c : Nat) : (fuel : Nat) → Reader (List Node)
  | 0 => failure
  | fuel + 1 => do
    if startsWith '-' (← rest) && (← column) = c && !isOver (← rest) then
      mark '-'
      let n ← valueNode c false true fuel
      skipAll c
      if !isOver (← rest) && c < (← column) then failure
      return n :: (← blockItems c fuel)
    else return []

def blockEntries (c : Nat) : (fuel : Nat) → Reader (List (Node × Node))
  | 0 => failure
  | fuel + 1 => do
    if isOver (← rest) || (← column) < c then return []
    else if (← column) ≠ c then failure
    else
      let entry ← blockEntry c fuel
      skipAll c
      return entry :: (← blockEntries c fuel)

/-- A key with its value, behind a question mark and a colon of their own or on one line. -/
def blockEntry (c : Nat) : (fuel : Nat) → Reader (Node × Node)
  | 0 => failure
  | fuel + 1 => do
    if startsWith '?' (← rest) then
      mark '?'
      let k ← valueNode c true true fuel
      skipAll c
      if startsWith ':' (← rest) && (← column) = c then
        mark ':'
        return (k, ← valueNode c true true fuel)
      else return (k, .null)
    else
      let k ← implicitKey
      return (k, ← valueNode c true false fuel)

end

/-! ## Documents -/

def dropDirections : (lines : Nat) → List Placed → Option (List Placed)
  | 0, rest => some rest
  | lines + 1, rest => do
    let rest ← skip (-1) true rest
    match rest with
    | p :: _ =>
      if p.char = '%' ∧ p.column = 0 then dropDirections lines (dropLine rest)
      else some rest
    | [] => some []

def atDivider (c : Char) (rest : List Placed) : Bool :=
  isDivider rest && rest.head?.any fun p => p.char = c

def dropEnds : (lines : Nat) → List Placed → Option (List Placed)
  | 0, rest => some rest
  | lines + 1, rest => do
    let rest ← skip (-1) true rest
    if atDivider '.' rest then dropEnds lines (rest.drop 3) else some rest

/-- The node of the only document; nothing in the inner sense if there is no document. -/
def document (fuel : Nat) : Reader (Option Node) := do
  let before ← dropEnds fuel (← rest)
  let start ← dropDirections fuel before
  goTo start
  if start.isEmpty && before.isEmpty then return none
  if start.length < before.length && !atDivider '-' start then failure
  let n ← if atDivider '-' start then
      goTo (start.drop 3)
      valueNode (-1) true false fuel
    else blockNode (-1) true fuel {}
  goTo (← dropEnds fuel (← rest))
  if (← rest).isEmpty then return some n else failure

/-- The value that a document writes; an empty table if there is none. -/
def parse? (text : String) : Option Json := do
  let cs := place 0 true (unifyBreaks text.toList)
  let (n, _) ← (document (2 * cs.length + 8)).run ⟨cs, []⟩
  match n with
  | none => some (.obj [])
  | some n => n.toJson?

end Possession.Yaml
