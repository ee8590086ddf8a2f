import Possession.Text.Composites

/-!
# Normal form C

A text in normal form C has each character in its composed form and marks in a fixed order.
The form is reached by taking characters apart, ordering the marks by class, and putting
characters together again. The syllables of Hangul are composed by arithmetic, all others by
table; characters that stand for another single character are not in the table.
-/

namespace Possession.Text.Composed

/-- The class of a mark; zero for all other characters. -/
def classOf (c : Char) : Nat :=
  match combiningClasses.find? c with
  | some [k] => k.toNat
  | _ => 0

def splitSyllable (n : Nat) : List Char :=
  let i := n - 0xac00
  let tail := i % 28
  [Char.ofNat (0x1100 + i / 588), Char.ofNat (0x1161 + i % 588 / 28)] ++
    if tail = 0 then [] else [Char.ofNat (0x11a7 + tail)]

/-- A character taken apart, with at most `depth` composites inside one another. -/
def decompose : (depth : Nat) → Char → List Char
  | 0, c => [c]
  | depth + 1, c =>
    if 0xac00 ≤ c.toNat ∧ c.toNat ≤ 0xd7a3 then splitSyllable c.toNat
    else
      match composites.find? c with
      | some parts => parts.flatMap (decompose depth)
      | none => [c]

/-- Puts a mark behind all marks of its class or a lower one, and before all others, in a
text whose marks are in order. The text is given last character first. -/
def insertMark (c : Char) (k : Nat) : List Char → List Char
  | [] => [c]
  | d :: rest =>
    if k < classOf d then d :: insertMark c k rest else c :: d :: rest

def order (cs : List Char) : List Char :=
  (cs.foldl (fun before c =>
    let k := classOf c
    if k = 0 then c :: before else insertMark c k before) []).reverse

def pair? (a b : Char) : Option Char :=
  let m := a.toNat
  let n := b.toNat
  if 0x1100 ≤ m ∧ m < 0x1113 ∧ 0x1161 ≤ n ∧ n < 0x1176 then
    some (Char.ofNat (0xac00 + (m - 0x1100) * 588 + (n - 0x1161) * 28))
  else if 0xac00 ≤ m ∧ m ≤ 0xd7a3 ∧ (m - 0xac00) % 28 = 0 ∧ 0x11a7 < n ∧ n < 0x11c3 then
    some (Char.ofNat (m + (n - 0x11a7)))
  else
    (composites.entries.find? fun e => e.value == [m, n]).map fun e => Char.ofNat e.first

/-- Composes a text from a first character on. `marks` are those behind it that did not
compose, last one first, and `last` is the class of the last one. -/
def composeFrom (first : Char) (marks : List Char) (last : Nat) : List Char → List Char
  | [] => first :: marks.reverse
  | c :: cs =>
    let k := classOf c
    match if marks.isEmpty || last < k then pair? first c else none with
    | some d => composeFrom d marks last cs
    | none =>
      if k = 0 then first :: marks.reverse ++ composeFrom c [] 0 cs
      else composeFrom first (c :: marks) k cs

/-- Normal form C of a text whose characters stand for themselves. Below the first composite
character there is nothing to do. -/
def normalize (cs : List Char) : List Char :=
  if cs.all (·.toNat < 0xc0) then cs
  else
    match order (cs.flatMap (decompose 4)) with
    | [] => []
    | c :: rest => composeFrom c [] 0 rest

end Possession.Text.Composed
