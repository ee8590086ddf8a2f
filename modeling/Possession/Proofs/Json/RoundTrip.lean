import Mathlib.Data.List.Basic
import Mathlib.Data.List.TakeDrop
import Mathlib.Data.Nat.Digits.Defs
import Possession.Json.Parser
import Possession.Json.Printer
import Possession.Proofs.Text.Digits

/-!
# JSON texts, read back

A value that is written is read as that value, in whatever text it stands. The values for
which this holds are those without floating-point numbers, whose integers fit a machine
word, and that are not nested deeper than a reader allows (`Plain`):

> `parse?_render`: the text of such a value is read as the value, member for member.

The proof follows the writer: a character, a string, a number, a list with commas, and then
a value by recursion on its depth. A reader of numbers stops only at a character that cannot
continue a number, so everything is said of a text that is followed by the end, or by a
comma or a closing mark (`Stops`).
-/

namespace Possession.Json

/-- Values that are read back: no floating-point numbers, integers of 64 bits, and at most
so many levels of nesting. -/
def Plain : (depth : Nat) → Json → Prop
  | _, null | _, bool _ | _, str _ => True
  | _, int n => -2 ^ 63 ≤ n ∧ n < 2 ^ 64
  | _, float _ => False
  | 0, arr _ | 0, obj _ => False
  | depth + 1, arr items => ∀ v ∈ items, Plain depth v
  | depth + 1, obj members => ∀ m ∈ members, Plain depth m.2

/-- A text that follows a value: nothing, or a comma or a closing mark comes first. -/
def Stops (rest : List Char) : Prop := ∀ c ∈ rest.head?, c = ',' ∨ c = ']' ∨ c = '\x7d'

theorem stops_nil : Stops [] := by
  intro c hc
  cases hc

theorem stops_cons {c : Char} (h : c = ',' ∨ c = ']' ∨ c = '\x7d') (rest : List Char) :
    Stops (c :: rest) := by
  intro d hd
  cases hd
  exact h

/-- Nothing is skipped before a character that is not blank. -/
theorem skip_cons {c : Char} (h : isBlank c = false) (rest : List Char) :
    skip (c :: rest) = c :: rest := by
  unfold skip
  rw [List.dropWhile_cons_of_neg (by simp [h])]

/-! ## Strings -/

theorem hexValue?_hexDigit {n : Nat} (h : n < 16) : hexValue? (hexDigit n) = some n := by
  revert n
  decide

theorem hex4_control {n : Nat} (h : n < 32) :
    hex4 '0' '0' (hexDigit (n / 16)) (hexDigit (n % 16)) = some n := by
  unfold hex4
  rw [hexValue?_hexDigit (by omega), hexValue?_hexDigit (by omega)]
  show some _ = some n
  congr 1
  show (0 * 16 + 0) * 256 + n / 16 * 16 + n % 16 = n
  omega

/-- A short escape is read as the character that it stands for. -/
theorem stringBody_escape {c e : Char} (h : unescape? e = some c) (rest : List Char) :
    stringBody ('\\' :: e :: rest) = (stringBody rest).map fun (s, r) => (c :: s, r) := by
  have hu : e ≠ 'u' := by
    rintro rfl
    cases h
  rw [stringBody.eq_def]
  split <;> grind

/-- A character in its written form is read as that character. -/
theorem stringBody_escapeChar (c : Char) (rest : List Char) :
    stringBody (escapeChar c ++ rest) = (stringBody rest).map fun (s, r) =>
    (c :: s, r) := by
  unfold escapeChar
  split
  next h => exact stringBody_escape (by rw [h]; rfl) rest
  split
  next h => exact stringBody_escape (by rw [h]; rfl) rest
  split
  next h => exact stringBody_escape (by rw [h]; rfl) rest
  split
  next h => exact stringBody_escape (by rw [h]; rfl) rest
  split
  next h => exact stringBody_escape (by rw [h]; rfl) rest
  split
  next h => exact stringBody_escape (by rw [h]; rfl) rest
  split
  next h => exact stringBody_escape (by rw [h]; rfl) rest
  split
  next h =>
    have hhex := hex4_control h
    simp only [List.cons_append, List.nil_append, stringBody, hhex]
    rw [if_pos (by omega), Char.ofNat_toNat]
  next hquote hslash _ _ _ _ _ hcontrol =>
    simp only [List.cons_append, List.nil_append]
    rw [stringBody.eq_def]
    split <;> simp_all

theorem stringBody_escaped (cs rest : List Char) :
    stringBody (cs.flatMap escapeChar ++ '"' :: rest) = some (cs, rest) := by
  induction cs with
  | nil =>
    rw [List.flatMap_nil, List.nil_append, stringBody]
  | cons c cs ih =>
    rw [List.flatMap_cons, List.append_assoc, stringBody_escapeChar, ih]
    rfl

/-- A string between quotes is read as that string. -/
theorem string_quoted (s : String) (rest : List Char) :
    string (quoted s ++ rest) = some (s, rest) := by
  have hshape : quoted s ++ rest = '"' :: (s.toList.flatMap escapeChar ++ '"' :: rest) := by
    unfold quoted
    rw [List.cons_append, List.cons_append, List.append_assoc]
    rfl
  rw [hshape]
  show (stringBody _).map _ = _
  rw [stringBody_escaped]
  show some (String.ofList s.toList, rest) = _
  rw [String.ofList_toList]

/-! ## Numbers -/

theorem natOfDigits_toDigits (n : Nat) : Decimal.natOfDigits (Nat.toDigits 10 n) = n :=
  Text.foldl_toDigits n

/-- The digits of a number are all the digits in front of a text that stops. -/
theorem digits_toDigits (n : Nat) {rest : List Char} (h : Stops rest) :
    digits (Nat.toDigits 10 n ++ rest) = (Nat.toDigits 10 n, rest) := by
  have hall : ∀ c ∈ Nat.toDigits 10 n, c.isDigit = true :=
    fun _ => Text.isDigit_of_mem_toDigits
  have hrest : rest.takeWhile Char.isDigit = [] ∧ rest.dropWhile Char.isDigit = rest := by
    cases rest with
    | nil => exact ⟨rfl, rfl⟩
    | cons c cs =>
      have hc : c.isDigit = false := by
        rcases h c rfl with rfl | rfl | rfl <;> rfl
      exact ⟨List.takeWhile_cons_of_neg (by simp [hc]),
        List.dropWhile_cons_of_neg (by simp [hc])⟩
  unfold digits
  rw [List.span_eq_takeWhile_dropWhile, List.takeWhile_append_of_pos hall,
    List.dropWhile_append_of_pos hall, hrest.1, hrest.2, List.append_nil]

/-- Digits of a number are not refused for a zero in front. -/
theorem toDigits_plain (n : Nat) : ((Nat.toDigits 10 n).isEmpty ||
    ((Nat.toDigits 10 n).head? == some '0' && (Nat.toDigits 10 n).length > 1)) = false := by
  rcases Nat.eq_zero_or_pos n with rfl | hpos
  · decide
  · simp [Text.head?_toDigits hpos, Nat.toDigits_ne_nil]

theorem fraction_of_stops {rest : List Char} (h : Stops rest) :
    fraction rest = some (none, rest) := by
  cases rest with
  | nil => rfl
  | cons c cs =>
    rcases h c rfl with rfl | rfl | rfl <;> rfl

theorem exponent_of_stops {rest : List Char} (h : Stops rest) :
    exponent rest = some (none, rest) := by
  cases rest with
  | nil => rfl
  | cons c cs =>
    rcases h c rfl with rfl | rfl | rfl <;> rfl

theorem numberValue_negative {n : Nat} (hpos : 0 < n) (hfits : n ≤ 2 ^ 63) :
    numberValue true (Nat.toDigits 10 n) none none = some (int (-n)) := by
  unfold numberValue Decimal.fitsInt64
  rw [natOfDigits_toDigits, if_pos (by simp; omega)]
  rfl

theorem numberValue_positive {n : Nat} (hfits : n < 2 ^ 64) :
    numberValue false (Nat.toDigits 10 n) none none = some (int n) := by
  unfold numberValue Decimal.maxWord
  rw [natOfDigits_toDigits, if_pos (by simp; omega)]
  rfl

/-- Written digits are read as their number, with the sign that was in front of them. -/
theorem unsigned_toDigits {negative : Bool} {n : Nat} {v : Json}
    (hvalue : numberValue negative (Nat.toDigits 10 n) none none = some v)
    {rest : List Char} (h : Stops rest) :
    unsigned negative (Nat.toDigits 10 n ++ rest) = some (v, rest) := by
  unfold unsigned
  simp only [digits_toDigits n h, toDigits_plain, Bool.false_eq_true, if_false]
  rw [fraction_of_stops h]
  show (exponent rest).bind _ = _
  rw [exponent_of_stops h]
  show (numberValue _ _ _ _).bind _ = _
  rw [hvalue]
  rfl

/-- The first digit of a number, and what follows. -/
theorem exists_digit (n : Nat) :
    ∃ c cs, Nat.toDigits 10 n = c :: cs ∧ c.isDigit = true := by
  cases hdigits : Nat.toDigits 10 n with
  | nil => exact absurd hdigits Nat.toDigits_ne_nil
  | cons c cs =>
    exact ⟨c, cs, rfl, Text.isDigit_of_mem_toDigits (hdigits ▸ List.mem_cons_self ..)⟩

/-- An integer of 64 bits is read as that integer, and not as a floating-point number. -/
theorem number_integer {n : Int} (hlow : -2 ^ 63 ≤ n) (hhigh : n < 2 ^ 64)
    {rest : List Char} (h : Stops rest) :
    number (integer n ++ rest) = some (int n, rest) := by
  unfold integer
  by_cases hneg : n < 0
  · have hvalue := numberValue_negative (n := n.natAbs) (by omega) (by omega)
    rw [show -(n.natAbs : Int) = n by omega] at hvalue
    rw [if_pos hneg]
    exact unsigned_toDigits hvalue h
  · have hvalue := numberValue_positive (n := n.natAbs) (by omega)
    rw [show (n.natAbs : Int) = n by omega] at hvalue
    have hread := unsigned_toDigits hvalue h
    obtain ⟨c, cs, hdigits, hc⟩ := exists_digit n.natAbs
    rw [if_neg hneg, ← hread, hdigits, List.cons_append]
    unfold number
    split
    next heq =>
      cases heq
      cases hc
    next => rfl

/-! ## Lists -/

section Lists

variable {α : Type} {item : Reader α} {write : α → List Char} {close : Char}

/-- A reader reads back what a writer writes for an element, and an element's text does not
begin with a blank or with the closing mark. -/
structure ReadsBack (item : Reader α) (write : α → List Char) (close : Char) (x : α) :
    Prop where
  read : ∀ rest, Stops rest → item (write x ++ rest) = some (x, rest)
  begins : ∃ c cs, write x = c :: cs ∧ c ≠ close ∧ isBlank c = false

theorem ReadsBack.skip {x : α} (h : ReadsBack item write close x) (rest : List Char) :
    Json.skip (write x ++ rest) = write x ++ rest := by
  obtain ⟨c, cs, hwrite, -, hblank⟩ := h.begins
  rw [hwrite, List.cons_append, skip_cons hblank]

/-- A list that is not empty is read back as long as there are rounds left for its
elements. -/
theorem items_commas (hclose : close = ']' ∨ close = '\x7d') {x : α} {xs : List α}
    (h : ∀ y ∈ x :: xs, ReadsBack item write close y) {fuel : Nat}
    (hfuel : xs.length < fuel) (rest : List Char) :
    items item close fuel (commas ((x :: xs).map write) ++ close :: rest) =
      some (x :: xs, rest) := by
  have hblank : isBlank close = false := by rcases hclose with rfl | rfl <;> rfl
  have hcomma : close ≠ ',' := by rcases hclose with rfl | rfl <;> decide
  induction xs generalizing x fuel with
  | nil =>
    obtain ⟨fuel, rfl⟩ := Nat.exists_eq_add_one_of_ne_zero (Nat.ne_of_gt hfuel)
    have hx := h x (List.mem_cons_self ..)
    have hstops : Stops (close :: rest) := stops_cons (Or.inr hclose) rest
    show items item close (fuel + 1) (write x ++ close :: rest) = _
    unfold items
    rw [hx.skip, hx.read _ hstops]
    dsimp only
    rw [skip_cons hblank]
    dsimp only
    rw [if_pos rfl]
  | cons y ys ih =>
    obtain ⟨fuel, rfl⟩ :=
      Nat.exists_eq_add_one_of_ne_zero (Nat.ne_of_gt (Nat.zero_lt_of_lt hfuel))
    have hx := h x (List.mem_cons_self ..)
    have hrest :=
      ih (fun z hz => h z (List.mem_cons_of_mem _ hz)) (Nat.lt_of_succ_lt_succ hfuel)
    have hshape : commas ((x :: y :: ys).map write) ++ close :: rest =
        write x ++ ',' :: (commas ((y :: ys).map write) ++ close :: rest) := by
      show (write x ++ ',' :: commas _) ++ _ = _
      rw [List.append_assoc, List.cons_append]
      rfl
    rw [hshape]
    unfold items
    rw [hx.skip, hx.read _ (stops_cons (Or.inl rfl) _)]
    dsimp only
    rw [skip_cons rfl]
    dsimp only
    rw [if_neg hcomma.symm, if_pos rfl, hrest]
    rfl

/-- Every element of a list with commas takes a character at least. -/
theorem length_le_commas {x : α} {xs : List α}
    (h : ∀ y ∈ x :: xs, ReadsBack item write close y) :
    xs.length < (commas ((x :: xs).map write)).length := by
  have hx : 0 < (write x).length := by
    obtain ⟨c, cs, hwrite, -, -⟩ := (h x (List.mem_cons_self ..)).begins
    rw [hwrite]
    exact Nat.zero_lt_succ _
  induction xs generalizing x with
  | nil => exact hx
  | cons y ys ih =>
    have hy : 0 < (write y).length := by
      obtain ⟨c, cs, hwrite, -, -⟩ := (h y (by simp)).begins
      rw [hwrite]
      exact Nat.zero_lt_succ _
    have hrest := ih (fun z hz => h z (List.mem_cons_of_mem _ hz)) hy
    show ys.length + 1 < (write x ++ ',' :: commas ((y :: ys).map write)).length
    rw [List.length_append, List.length_cons]
    omega

/-- A list is read back. -/
theorem list_commas (hclose : close = ']' ∨ close = '\x7d') {xs : List α}
    (h : ∀ y ∈ xs, ReadsBack item write close y) (rest : List Char) :
    list item close (commas (xs.map write) ++ close :: rest) = some (xs, rest) := by
  have hblank : isBlank close = false := by rcases hclose with rfl | rfl <;> rfl
  cases xs with
  | nil =>
    show list item close (close :: rest) = _
    unfold list
    rw [skip_cons hblank]
    exact if_pos rfl
  | cons x xs =>
    have hfuel : xs.length < (commas ((x :: xs).map write) ++ close :: rest).length := by
      have := length_le_commas h
      rw [List.length_append]
      omega
    rw [← items_commas hclose h hfuel rest]
    obtain ⟨c, cs, hwrite, hne, hc⟩ := (h x (List.mem_cons_self ..)).begins
    obtain ⟨tail, hshape⟩ : ∃ tail, commas ((x :: xs).map write) = c :: tail := by
      cases xs with
      | nil => exact ⟨cs, hwrite⟩
      | cons y ys => exact ⟨cs ++ ',' :: commas ((y :: ys).map write), by
          show write x ++ ',' :: _ = _
          rw [hwrite]
          rfl⟩
    rw [hshape, List.cons_append]
    unfold list
    rw [skip_cons hc]
    exact if_neg hne

end Lists

/-! ## Values -/

theorem writeItems_eq (items : List Json) : writeItems items = items.map write := by
  induction items with
  | nil => rfl
  | cons v vs ih =>
    rw [writeItems, ih]
    rfl

/-- The characters of a member. -/
def writeMember (m : String × Json) : List Char := quoted m.1 ++ ':' :: write m.2

theorem writeMembers_eq (members : List (String × Json)) :
    writeMembers members = members.map writeMember := by
  induction members with
  | nil => rfl
  | cons m ms ih =>
    rw [writeMembers, ih]
    rfl

/-- A digit is no other character. -/
theorem ne_of_isDigit {c d : Char} (hc : c.isDigit = true) (hd : d.isDigit = false) :
    c ≠ d := by
  rintro rfl
  rw [hc] at hd
  cases hd

/-- An integer begins with a digit, or with its sign. -/
theorem begins_integer (n : Int) :
    ∃ c cs, integer n = c :: cs ∧ (c = '-' ∨ c.isDigit = true) := by
  unfold integer
  split
  · exact ⟨'-', _, rfl, Or.inl rfl⟩
  · obtain ⟨c, cs, hdigits, hc⟩ := exists_digit n.natAbs
    exact ⟨c, cs, hdigits, Or.inr hc⟩

/-- The text of a value does not begin with a blank, nor with a closing mark. -/
theorem begins_write {depth : Nat} {v : Json} (h : Plain depth v) :
    ∃ c cs, write v = c :: cs ∧ c ≠ ']' ∧ isBlank c = false := by
  cases v with
  | null => exact ⟨'n', _, rfl, by decide, rfl⟩
  | bool b =>
    cases b with
    | true => exact ⟨'t', _, rfl, by decide, rfl⟩
    | false => exact ⟨'f', _, rfl, by decide, rfl⟩
  | int n =>
    obtain ⟨c, cs, hinteger, hc⟩ := begins_integer n
    refine ⟨c, cs, hinteger, ?_⟩
    rcases hc with rfl | hc
    · exact ⟨by decide, rfl⟩
    · refine ⟨ne_of_isDigit hc rfl, ?_⟩
      unfold isBlank
      simp [ne_of_isDigit hc (d := ' ') rfl, ne_of_isDigit hc (d := '\n') rfl,
        ne_of_isDigit hc (d := '\t') rfl, ne_of_isDigit hc (d := '\r') rfl]
  | float f => cases depth <;> exact absurd h id
  | str s => exact ⟨'"', _, rfl, by decide, rfl⟩
  | arr items => exact ⟨'[', _, rfl, by decide, rfl⟩
  | obj members => exact ⟨'\x7b', _, rfl, by decide, rfl⟩

/-- A member of an object is read back if its value is. -/
theorem member_writeMember {value : Reader Json} {m : String × Json}
    (h : ∀ rest, Stops rest → value (write m.2 ++ rest) = some (m.2, rest))
    (hbegins : ∃ c cs, write m.2 = c :: cs ∧ c ≠ ']' ∧ isBlank c = false) :
    ReadsBack (member value) writeMember '\x7d' m where
  read rest hrest := by
    obtain ⟨c, cs, hwrite, -, hblank⟩ := hbegins
    have hskip : skip (write m.2 ++ rest) = write m.2 ++ rest := by
      rw [hwrite, List.cons_append, skip_cons hblank]
    unfold member writeMember
    rw [List.append_assoc, string_quoted]
    show (value (skip (write m.2 ++ rest))).map _ = _
    rw [hskip, h rest hrest]
    rfl
  begins := ⟨'"', _, rfl, by decide, rfl⟩

/-- Where no list begins, a value is one without parts. -/
theorem value_eq_scalar {c : Char} (harr : c ≠ '[') (hobj : c ≠ '\x7b') (depth : Nat)
    (cs : List Char) : value depth (c :: cs) = value.scalar (c :: cs) := by
  cases depth with
  | zero => rfl
  | succ depth =>
    unfold value
    split
    next heq => exact absurd (List.cons.inj heq).1 harr
    next heq => exact absurd (List.cons.inj heq).1 hobj
    next => rfl

theorem scalar_integer {n : Int} (hlow : -2 ^ 63 ≤ n) (hhigh : n < 2 ^ 64)
    {rest : List Char} (h : Stops rest) (depth : Nat) :
    value depth (integer n ++ rest) = some (int n, rest) := by
  obtain ⟨c, cs, hinteger, hc⟩ := begins_integer n
  have hother : ∀ d : Char, d.isDigit = false → d ≠ '-' → c ≠ d := by
    intro d hd hminus
    rcases hc with rfl | hc
    · exact hminus.symm
    · exact ne_of_isDigit hc hd
  rw [← number_integer hlow hhigh h, hinteger, List.cons_append,
    value_eq_scalar (hother '[' rfl (by decide)) (hother '\x7b' rfl (by decide))]
  unfold value.scalar
  split
  next heq => exact absurd (List.cons.inj heq).1 (hother 'n' rfl (by decide))
  next heq => exact absurd (List.cons.inj heq).1 (hother 't' rfl (by decide))
  next heq => exact absurd (List.cons.inj heq).1 (hother 'f' rfl (by decide))
  next heq => exact absurd (List.cons.inj heq).1 (hother '"' rfl (by decide))
  next => rfl

/-- A value without parts is read back in front of a text that stops. -/
theorem value_write_leaf {v : Json} (h : Plain 0 v) (depth : Nat) {rest : List Char}
    (hrest : Stops rest) : value depth (write v ++ rest) = some (v, rest) := by
  cases v with
  | null => exact value_eq_scalar (by decide) (by decide) depth _
  | bool b =>
    cases b with
    | true => exact value_eq_scalar (by decide) (by decide) depth _
    | false => exact value_eq_scalar (by decide) (by decide) depth _
  | int n => exact scalar_integer h.1 h.2 hrest depth
  | float f => exact absurd h id
  | str s =>
    have hread : value depth (write (str s) ++ rest) = (string (quoted s ++ rest)).map _ :=
      value_eq_scalar (by decide) (by decide) depth _
    rw [hread, string_quoted]
    rfl
  | arr items => exact absurd h id
  | obj members => exact absurd h id

/-- A value is read back in front of a text that stops. -/
theorem value_write {depth : Nat} {v : Json} (h : Plain depth v) {rest : List Char}
    (hrest : Stops rest) : value depth (write v ++ rest) = some (v, rest) := by
  induction depth generalizing v rest with
  | zero => exact value_write_leaf h 0 hrest
  | succ depth ih =>
    cases v with
    | null => exact value_write_leaf (v := .null) h _ hrest
    | bool b => exact value_write_leaf (v := .bool b) h _ hrest
    | int n => exact value_write_leaf (v := .int n) h _ hrest
    | float f => exact absurd h id
    | str s => exact value_write_leaf (v := .str s) h _ hrest
    | arr items =>
      have hitems : ∀ v ∈ items, ReadsBack (value depth) write ']' v := fun v hv =>
        ⟨fun rest hrest => ih (h v hv) hrest, begins_write (h v hv)⟩
      have hshape :
        write (arr items) ++ rest = '[' :: (commas (items.map write) ++ ']' :: rest) := by
        simp only [write, writeItems_eq, List.cons_append, List.append_assoc,
          List.nil_append]
      rw [hshape]
      show (list (value depth) ']' _).map _ = _
      rw [list_commas (Or.inl rfl) hitems]
      rfl
    | obj members =>
      have hmembers :
        ∀ m ∈ members, ReadsBack (member (value depth)) writeMember '\x7d' m :=
        fun m hm => member_writeMember (fun rest hrest => ih (h m hm) hrest)
          (begins_write (h m hm))
      have hshape : write (obj members) ++ rest =
          '\x7b' :: (commas (members.map writeMember) ++ '\x7d' :: rest) := by
        simp only [write, writeMembers_eq, List.cons_append, List.append_assoc,
          List.nil_append]
      rw [hshape]
      show (list (member (value depth)) '\x7d' _).map _ = _
      rw [list_commas (Or.inr rfl) hmembers]
      rfl

/-- The text of a value is read as the value. -/
theorem parse?_render {v : Json} (h : Plain maxDepth v) : parse? v.render = some v := by
  obtain ⟨c, cs, hwrite, -, hblank⟩ := begins_write h
  have hread := value_write h stops_nil
  rw [List.append_nil] at hread
  have hskip : skip (write v) = write v := by
    rw [hwrite, skip_cons hblank]
  unfold parse? render
  rw [String.toList_ofList, hskip, hread]
  rfl

end Possession.Json
