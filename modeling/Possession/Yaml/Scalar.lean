import Possession.Json.Parser
import Possession.Text.Reader
import Possession.Yaml.Cursor

/-!
# Scalars in YAML

A scalar on several lines is folded: a line break becomes a blank, and of several line
breaks in a row the first is dropped; blanks around them do not count. Scalars come plain,
in single quotes, in double quotes with escapes, or as a block of lines that are further in
than what they belong to.
-/

namespace Possession.Yaml

/-! ## Folding -/

/-- A part of a scalar before it is folded. -/
inductive Piece where
  | char (c : Char)
  | blank (c : Char)
  | lineBreak
  /-- A line break that stands for nothing. -/
  | joint
deriving Repr, DecidableEq

def countBreaks (gap : List Piece) : Nat := gap.countP (· = .lineBreak)

/-- A gap between words on a line or on several. -/
def foldGap (gap : List Piece) : List Char :=
  match countBreaks gap with
  | 0 => gap.filterMap fun
    | .blank c => some c
    | _ => none
  | 1 => [' ']
  | n + 2 => List.replicate (n + 1) '\n'

/-- Folds a scalar. A gap is kept, the latest part first, until it ends; `joined` says
whether it began with a line break that stands for nothing. -/
def foldPieces : (gap : List Piece) → (joined : Bool) → List Piece → List Char
  | gap, joined, [] => close gap joined
  | gap, joined, p :: ps =>
    match p with
    | .char c => close gap joined ++ c :: foldPieces [] false ps
    | .joint => close gap joined ++ foldPieces [] true ps
    | p => foldPieces (p :: gap) joined ps
where
  close (gap : List Piece) (joined : Bool) : List Char :=
    if joined then List.replicate (countBreaks gap) '\n' else foldGap gap.reverse

def fold (ps : List Piece) : String := String.ofList (foldPieces [] false ps)

/-! ## Quotes -/

/-- A character of a scalar that is not escaped. -/
def pieceOf (c : Char) : Piece :=
  if c = '\n' then .lineBreak else if isBlank c then .blank c else .char c

def shortEscapes : List (Char × Char) :=
  [('0', '\x00'), ('a', '\x07'), ('b', '\x08'), ('t', '\t'), ('\t', '\t'), ('n', '\n'),
    ('v', '\x0b'), ('f', '\x0c'), ('r', '\r'), ('e', '\x1b'), (' ', ' '), ('"', '"'),
    ('/', '/'), ('\\', '\\'), ('N', '\x85'), ('_', '\xa0'), ('L', '\u2028'),
    ('P', '\u2029')]

/-- A character by its number in so many digits, and what follows. -/
def numbered (digits : Nat) (rest : List Placed) : Option (Piece × List Placed) := do
  let (n, _) ← Text.Reader.hexNumber Json.hexValue? digits 0
    ((rest.take digits).map (·.char))
  return (.char (← Text.Reader.charOf? n), rest.drop digits)

/-- What an escape stands for, after its backslash, and what follows. -/
def escape : List Placed → Option (Piece × List Placed)
  | [] => none
  | p :: rest =>
    match p.char with
    | '\n' => some (.joint, rest)
    | 'x' => numbered 2 rest
    | 'u' => numbered 4 rest
    | 'U' => numbered 8 rest
    | c => (shortEscapes.lookup c).map fun c => (.char c, rest)

/-- The parts of a scalar in double quotes, after the first. -/
def doubleQuoted : (rounds : Nat) → List Placed → Option (List Piece × List Placed)
  | 0, _ => none
  | _, [] => none
  | rounds + 1, p :: rest =>
    if isDivider (p :: rest) then none
    else if p.char = '"' then some ([], rest)
    else if p.char = '\\' then do
      let (piece, rest) ← escape rest
      let (ps, rest) ← doubleQuoted rounds rest
      return (piece :: ps, rest)
    else (doubleQuoted rounds rest).map fun (ps, rest) => (pieceOf p.char :: ps, rest)

/-- The parts of a scalar in single quotes, after the first. A quote within is written
twice. -/
def singleQuoted : List Placed → Option (List Piece × List Placed)
  | [] => none
  | p :: rest =>
    if isDivider (p :: rest) then none
    else if p.char = '\'' then
      match rest with
      | q :: rest' =>
        if q.char = '\'' then
          (singleQuoted rest').map fun (ps, rest) => (.char '\'' :: ps, rest)
        else some ([], rest)
      | [] => some ([], [])
    else (singleQuoted rest).map fun (ps, rest) => (pieceOf p.char :: ps, rest)

/-- A scalar in quotes: its text, what follows, and whether it stands on one line. -/
def quoted : List Placed → Option (String × List Placed × Bool)
  | [] => none
  | p :: rest => do
    let (ps, rest) ←
      if p.char = '"' then doubleQuoted rest.length rest
      else if p.char = '\'' then singleQuoted rest
      else none
    return (fold ps, rest, !ps.any fun p => p = .lineBreak || p = .joint)

/-! ## Plain scalars -/

/-- Characters with which no plain scalar begins. -/
def isIndicator (c : Char) : Bool :=
  isFlowMark c || c ∈ ['#', '&', '*', '!', '|', '>', '\'', '"', '%', '@', '\x60']

/-- Whether a plain scalar may begin here. -/
def startsPlain (inFlow : Bool) : List Placed → Bool
  | [] => false
  | p :: rest =>
    if p.char ∈ ['-', '?', ':'] then
      !endsWord rest && !(inFlow && rest.head?.any fun q => isFlowMark q.char)
    else !isIndicator p.char && !endsWord (p :: rest)

/-- Whether a plain scalar ends before what is left. -/
def endsPlain (inFlow : Bool) : List Placed → Bool
  | [] => true
  | p :: rest =>
    p.char = '\n' || p.isComment || (inFlow && isFlowMark p.char) ||
      (p.char = ':' &&
        (endsWord rest || (inFlow && rest.head?.any fun q => isFlowMark q.char)))

def plainLine (inFlow : Bool) : List Placed → List Char × List Placed
  | [] => ([], [])
  | p :: rest =>
    if endsPlain inFlow (p :: rest) then ([], p :: rest)
    else
      let (cs, rest) := plainLine inFlow rest
      (p.char :: cs, rest)

/-- Whether a plain scalar goes on with what comes after line breaks. -/
def continuesPlain (inFlow : Bool) (indent : Int) (rest : List Placed) : Bool :=
  match rest with
  | [] => false
  | p :: _ => !isDivider rest && indent < p.column && !endsPlain inFlow rest

/-- The parts of a plain scalar, line by line. -/
def plainPieces (inFlow : Bool) (indent : Int) : (lines : Nat) → List Placed →
    List Piece × List Placed
  | 0, rest => ([], rest)
  | lines + 1, rest =>
    let (cs, after) := plainLine inFlow rest
    let ps := ((cs.reverse.dropWhile isBlank).reverse).map pieceOf
    let gap := after.takeWhile fun p => isBlank p.char || p.char = '\n'
    let next := after.drop gap.length
    let breaks := (gap.map fun p => pieceOf p.char).filter (· = .lineBreak)
    if !breaks.isEmpty && continuesPlain inFlow indent next then
      let (more, rest) := plainPieces inFlow indent lines next
      (ps ++ breaks ++ more, rest)
    else (ps, after)

/-- A plain scalar whose further lines are further in than `indent`. -/
def plain (inFlow : Bool) (indent : Int) (rest : List Placed) :
    Option (String × List Placed) :=
  if startsPlain inFlow rest then
    let (ps, rest) := plainPieces inFlow indent rest.length rest
    some (fold ps, rest)
  else none

/-- A plain scalar on one line. -/
def plainKey (inFlow : Bool) (rest : List Placed) : Option (String × List Placed) :=
  if startsPlain inFlow rest then
    let (cs, rest) := plainLine inFlow rest
    some (String.ofList (cs.reverse.dropWhile isBlank).reverse, rest)
  else none

/-! ## Blocks of lines -/

/-- What becomes of the line breaks at the end of a block. -/
inductive Chomp where
  | clip
  | strip
  | keep
deriving Repr, DecidableEq

/-- What stands after the mark of a block: the depth of its lines, if it is given, and what
becomes of its end. -/
structure BlockHeader where
  depth : Option Nat := none
  chomp : Chomp := .clip

/-- Reads what stands after the mark of a block, in either order. -/
def blockHeader (rest : List Placed) : Option (BlockHeader × List Placed) :=
  let step (h : BlockHeader) (rest : List Placed) : BlockHeader × List Placed :=
    match rest with
    | p :: after =>
      if p.char = '-' ∧ h.chomp = .clip then ({ h with chomp := .strip }, after)
      else if p.char = '+' ∧ h.chomp = .clip then ({ h with chomp := .keep }, after)
      else if '1' ≤ p.char ∧ p.char ≤ '9' ∧ h.depth = none then
        ({ h with depth := some (p.char.toNat - 48) }, after)
      else (h, rest)
    | [] => (h, [])
  let (h, rest) := step {} rest
  let (h, rest) := step h rest
  let after := dropBlanks rest
  let after := if after.head?.any (·.isComment) then dropLine after else after
  match after with
  | [] => some (h, [])
  | p :: rest => if p.char = '\n' then some (h, rest) else none

def lines (rest : List Placed) : List (List Placed) :=
  match rest with
  | [] => []
  | p :: ps =>
    let more := lines ps
    if p.char = '\n' then [] :: more
    else match more with
      | [] => [[p]]
      | l :: ls => (p :: l) :: ls

def isEmptyLine (line : List Placed) : Bool := line.all (·.char = ' ')

def depthOf (line : List Placed) : Nat := (line.takeWhile (·.char = ' ')).length

/-- The column of the lines of a block that belongs to something at `indent`. -/
def blockColumn (h : BlockHeader) (indent : Int) (ls : List (List Placed)) : Nat :=
  match h.depth with
  | some d => indent.toNat + d
  | none =>
    let empty := ls.takeWhile isEmptyLine
    let first := (ls.drop empty.length).head?.toList
    ((empty ++ first).map depthOf).foldl max (max 1 (indent + 1).toNat)

/-- Folds the lines of a block: a single line break between two lines that are not further
in becomes a blank. `before` is the line that came last, and `breaks` the line breaks
since. -/
def foldLines : (before : Option (List Char)) → (breaks : Nat) → List (List Char) →
    List Char
  | _, breaks, [] => List.replicate breaks '\n'
  | before, breaks, [] :: ls => foldLines before (breaks + 1) ls
  | before, breaks, (c :: l) :: ls =>
    let isFar (l : List Char) : Bool := l.head?.any isBlank
    let gap := match before with
      | none => List.replicate breaks '\n'
      | some b =>
        if isFar b || isFar (c :: l) then List.replicate breaks '\n'
        else if breaks = 1 then [' ']
        else List.replicate (breaks - 1) '\n'
    gap ++ c :: l ++ foldLines (some (c :: l)) 1 ls

/-- The text of the lines of a block without the line breaks at its end, and with what
becomes of them. -/
def blockText (folded : Bool) (chomp : Chomp) (ls : List (List Char)) : String :=
  let all := if folded then foldLines none 0 ls else ls.flatMap (· ++ ['\n'])
  let body := (all.reverse.dropWhile (· = '\n')).reverse
  let last := match chomp with
    | .strip => []
    | .keep => List.replicate (all.length - body.length) '\n'
    | .clip => if body.isEmpty then [] else ['\n']
  String.ofList (body ++ last)

/-- A block of lines that belongs to something at `indent`, after its mark. -/
def block (folded : Bool) (indent : Int) (rest : List Placed) :
    Option (String × List Placed) := do
  let (h, rest) ← blockHeader rest
  let ls := lines rest
  let column := blockColumn h indent ls
  let own := ls.takeWhile fun l => isEmptyLine l || column ≤ depthOf l
  let size := (own.map fun l => l.length + 1).foldl (· + ·) 0
  return (blockText folded h.chomp (own.map fun l => (l.drop column).map (·.char)),
    rest.drop size)

end Possession.Yaml
