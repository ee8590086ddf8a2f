/-!
# Sets of code points

A character property is a sorted array of disjoint ranges, searched by halving. Tables are
written as texts of ranges in hexadecimal, `41-5a 61-7a aa`, which keeps them short and
readable.
-/

namespace Possession.Text

/-- Sorted, disjoint ranges of code points, both ends included. -/
structure CodePoints where
  ranges : Array (Nat × Nat)
deriving Repr, Inhabited

namespace CodePoints

def hexDigit (c : Char) : Nat := if c.isDigit then c.toNat - 48 else c.toNat - 87

def hexNat (cs : List Char) : Nat := cs.foldl (fun n c => n * 16 + hexDigit c) 0

/-- One range, `first-last` or a single code point. -/
def readRange (cs : List Char) : Nat × Nat :=
  let first := cs.takeWhile (· ≠ '-')
  match cs.dropWhile (· ≠ '-') with
  | [] => (hexNat first, hexNat first)
  | _ :: last => (hexNat first, hexNat last)

/-- Cuts a list at every occurrence of a character. There is always at least one part, and
parts may be empty. -/
def cut (sep : Char) : List Char → List (List Char)
  | [] => [[]]
  | c :: cs =>
    match cut sep cs with
    | [] => [[c]]
    | w :: ws => if c = sep then [] :: w :: ws else (c :: w) :: ws

/-- Cuts a list at the last occurrence of a character, which is left out. Without an
occurrence there is no cut; what this means is for the caller to say. -/
def cutLast (sep : Char) (cs : List Char) : Option (List Char × List Char) :=
  match cs.reverse.dropWhile (· ≠ sep) with
  | [] => none
  | _ :: before => some (before.reverse, (cs.reverse.takeWhile (· ≠ sep)).reverse)

def ofLines (lines : List String) : CodePoints :=
  ⟨(lines.flatMap fun l => (cut ' ' l.toList).map readRange).toArray⟩

/-- Looks for the range that holds `n` among positions `lo` to `hi`. Each step halves what
is left, so a fuel of 32 is enough for every table here. -/
def search (t : CodePoints) (n : Nat) : (fuel lo hi : Nat) → Bool
  | 0, _, _ => false
  | fuel + 1, lo, hi =>
    if lo < hi then
      let mid := (lo + hi) / 2
      match t.ranges[mid]? with
      | none => false
      | some (a, b) =>
        if n < a then t.search n fuel lo mid
        else if b < n then t.search n fuel (mid + 1) hi
        else true
    else false

def contains (t : CodePoints) (c : Char) : Bool := t.search c.toNat 32 0 t.ranges.size

end CodePoints

end Possession.Text
