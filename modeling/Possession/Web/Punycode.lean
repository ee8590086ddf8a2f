import Possession.Text.CodePoints

/-!
# Punycode

A label with characters beyond ASCII is written in ASCII: first its ASCII characters, then,
in order of code points, where each of the others is to be inserted. Positions are written
as differences in numbers of variable length, whose digits adapt to the sizes of the
differences.
-/

namespace Possession.Web.Punycode

/-- The digit of a value below 36: letters, then decimal digits. -/
def digit (d : Nat) : Char := if d < 26 then Char.ofNat (97 + d) else Char.ofNat (22 + d)

def value? (c : Char) : Option Nat :=
  let n := c.toNat
  if 97 ≤ n ∧ n ≤ 122 then some (n - 97)
  else if 65 ≤ n ∧ n ≤ 90 then some (n - 65)
  else if 48 ≤ n ∧ n ≤ 57 then some (n - 22)
  else none

/-- From which value on a digit at position `k` is not the last of its number. -/
def threshold (k bias : Nat) : Nat :=
  if k ≤ bias then 1 else if bias + 26 ≤ k then 26 else k - bias

theorem threshold_pos (k bias : Nat) : 1 ≤ threshold k bias := by
  unfold threshold
  split
  · omega
  · split <;> omega

theorem threshold_le (k bias : Nat) : threshold k bias ≤ 26 := by
  unfold threshold
  split
  · omega
  · split <;> omega

def scaleDown (delta k : Nat) : Nat × Nat :=
  if 455 < delta then scaleDown (delta / 35) (k + 36) else (delta, k)
termination_by delta
decreasing_by exact Nat.div_lt_self (by omega) (by omega)

/-- The bias after a difference, by which the digits of the next one adapt to its size. -/
def adapt (delta points : Nat) (first : Bool) : Nat :=
  let d := if first then delta / 700 else delta / 2
  let (d, k) := scaleDown (d + d / points) 0
  k + 36 * d / (d + 38)

/-- The digits of a number, from position `k` on. -/
def writeNumber (bias k q : Nat) : List Char :=
  let t := threshold k bias
  if q < t then [digit q]
  else digit (t + (q - t) % (36 - t)) :: writeNumber bias (k + 36) ((q - t) / (36 - t))
termination_by q
decreasing_by
  have h1 := threshold_pos k bias
  have : (q - threshold k bias) / (36 - threshold k bias) ≤ q - threshold k bias :=
    Nat.div_le_self _ _
  omega

/-- The state of writing: the digits so far, the difference that is pending, the bias, and
how many characters are written. -/
structure Writing where
  out : List Char
  delta : Nat
  bias : Nat
  done : Nat

/-- Passes one character of the label in the round of code point `m`. -/
def Writing.pass (basic m : Nat) (s : Writing) (c : Char) : Writing :=
  if c.toNat < m then { s with delta := s.delta + 1 }
  else if c.toNat = m then
    ⟨s.out ++ writeNumber s.bias 36 s.delta, 0,
      adapt s.delta (s.done + 1) (s.done == basic), s.done + 1⟩
  else s

/-- The rounds for the code points of a list, in rising order, from `n` on. -/
def rounds (label : List Char) (basic : Nat) : List Nat → Nat → Writing → Writing
  | [], _, s => s
  | m :: rest, n, s =>
    let s := { s with delta := s.delta + (m - n) * (s.done + 1) }
    let s := label.foldl (Writing.pass basic m) s
    rounds label basic rest (m + 1) { s with delta := s.delta + 1 }

def insert (n : Nat) : List Nat → List Nat
  | [] => [n]
  | m :: rest =>
    if n < m then n :: m :: rest else if n = m then m :: rest else m :: insert n rest

def isBasic (c : Char) : Bool := c.toNat < 128

/-- The written form of a label: its ASCII characters and a hyphen, if it has any, then the
differences. -/
def encode (label : List Char) : List Char :=
  let basic := label.filter isBasic
  let others := ((label.filter (!isBasic ·)).map Char.toNat).foldr insert []
  let s := rounds label basic.length others 128 ⟨[], 0, 72, basic.length⟩
  basic ++ (if basic.isEmpty then [] else ['-']) ++ s.out

/-- Reads a number of weight `w` onto `i`, from position `k` on. -/
def readNumber (bias : Nat) : List Char → (k w i : Nat) → Option (Nat × List Char)
  | [], _, _, _ => none
  | c :: rest, k, w, i =>
    match value? c with
    | none => none
    | some d =>
      if d < threshold k bias then some (i + d * w, rest)
      else readNumber bias rest (k + 36) (w * (36 - threshold k bias)) (i + d * w)

theorem length_readNumber (bias : Nat) (cs : List Char) (k w i : Nat) (r : Nat × List Char)
    (h : readNumber bias cs k w i = some r) : r.2.length < cs.length := by
  induction cs generalizing k w i with
  | nil => simp [readNumber] at h
  | cons c rest ih =>
    rw [readNumber] at h
    split at h
    · simp at h
    · split at h
      · rw [← Option.some.inj h]; simp
      · have := ih _ _ _ h
        simp only [List.length_cons]
        omega

/-- Inserts the characters that are left into a label. -/
def readInsertions (bias n i : Nat) (out : List Char) (cs : List Char) :
    Option (List Char) :=
  match cs with
  | [] => some out
  | c :: rest =>
    match h : readNumber bias (c :: rest) 36 1 i with
    | none => none
    | some (i', left) =>
      let points := out.length + 1
      let n := n + i' / points
      let at' := i' % points
      if n < 0xd800 ∨ (0xdfff < n ∧ n < 0x110000) then
        readInsertions (adapt (i' - i) points (i == 0)) n (at' + 1)
          (out.insertIdx at' (Char.ofNat n)) left
      else none
termination_by cs.length
decreasing_by exact length_readNumber _ _ _ _ _ _ h

/-- The label of a written form: what stands before its last hyphen are the ASCII
characters, and a form without a hyphen has none. -/
def decode? (cs : List Char) : Option (List Char) :=
  let (basic, insertions) := (Text.CodePoints.cutLast '-' cs).getD ([], cs)
  if basic.all isBasic then readInsertions 72 128 0 basic insertions else none

end Possession.Web.Punycode
