import Possession.Text.CodePoints

/-!
# Maps from code points

A map from characters to lists of characters, written as a text of entries. The entry
`41-5a:61` maps each of a range to its counterpart in the range that starts at `61`,
`100-12e/2:101` does so for every second one, `df:73,73` maps a single character to several,
and `300-314=e6` maps all of a range to the same.
-/

namespace Possession.Text

structure CodeMap.Entry where
  first : Nat
  last : Nat
  step : Nat
  moving : Bool
  value : List Nat
deriving Repr, Inhabited

/-- Entries in order, none overlapping another, so that the entry of a character is found by
halving. -/
structure CodeMap where
  entries : Array CodeMap.Entry
deriving Repr, Inhabited

namespace CodeMap

open CodePoints

def readEntry (cs : List Char) : Entry :=
  let isMark (c : Char) : Bool := c = ':' || c = '='
  let keys := cs.takeWhile (!isMark ·)
  let (moving, values) := match cs.dropWhile (!isMark ·) with
    | ':' :: vs => (true, vs)
    | _ :: vs => (false, vs)
    | [] => (false, [])
  let range := keys.takeWhile (· ≠ '/')
  let step := match keys.dropWhile (· ≠ '/') with
    | _ :: s => hexNat s
    | [] => 1
  let (first, last) := readRange range
  ⟨first, last, step, moving, (cut ',' values).map hexNat⟩

def ofLines (lines : List String) : CodeMap :=
  ⟨(lines.flatMap fun l => (cut ' ' l.toList).map readEntry).toArray⟩

/-- The value of an entry at a code point within its range. -/
def Entry.at (e : Entry) (n : Nat) : Option (List Nat) :=
  if (n - e.first) % e.step ≠ 0 then none
  else if e.moving then
    match e.value with
    | v :: vs => some ((v + (n - e.first)) :: vs)
    | [] => some []
  else some e.value

/-- Looks for the entry of `n` among positions `lo` to `hi`. -/
def search (t : CodeMap) (n : Nat) : (fuel lo hi : Nat) → Option (List Nat)
  | 0, _, _ => none
  | fuel + 1, lo, hi =>
    if lo < hi then
      let mid := (lo + hi) / 2
      match t.entries[mid]? with
      | none => none
      | some e =>
        if n < e.first then t.search n fuel lo mid
        else if e.last < n then t.search n fuel (mid + 1) hi
        else e.at n
    else none

def find? (t : CodeMap) (c : Char) : Option (List Char) :=
  (t.search c.toNat 32 0 t.entries.size).map (·.map Char.ofNat)

end CodeMap

end Possession.Text
