/-!
# Readers

A reader takes the characters that are left and gives back what it read with what is then
left, or nothing if it cannot read what is there. Loops are given a number of rounds, for
which the number of characters always suffices, since each round takes at least one.
-/

namespace Possession.Text

abbrev Reader (α : Type) := List Char → Option (α × List Char)

namespace Reader

variable {α β : Type}

inductive Round (α : Type) where
  | more (found : List α)
  | last (found : List α)

/-- Collects what the rounds of a loop find. A loop that runs out of rounds has not ended,
and gives nothing. -/
def collect (round : Reader (Round α)) : (rounds : Nat) → Reader (List α)
  | 0, _ => none
  | rounds + 1, cs =>
    match round cs with
    | none => none
    | some (.last found, rest) => some (found, rest)
    | some (.more found, rest) =>
      (collect round rounds rest).map fun (more, rest) => (found ++ more, rest)

/-- Collects what the rounds of a loop find, for as long as there are characters. -/
def collectAll (round : Reader (Round α)) : Reader (List α) := fun cs =>
  collect round (cs.length + 1) cs

def hexNumber (digit? : Char → Option Nat) : (count : Nat) → (soFar : Nat) → Reader Nat
  | 0, n, cs => some (n, cs)
  | _ + 1, _, [] => none
  | count + 1, n, c :: cs => (digit? c).bind fun d => hexNumber digit? count (n * 16 + d) cs

def charOf? (n : Nat) : Option Char := if n.isValidChar then some (Char.ofNat n) else none

end Reader

end Possession.Text
