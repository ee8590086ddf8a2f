import Mathlib.Computability.RegularExpressions
import Possession.Proofs.Text.Cut
import Possession.Proofs.Token.Acceptance

/-!
# The grammar of token texts

The shape of a token is usually written as a regular expression, and the parts of a text
that matches are then found by cutting it at its last two underscores. These are two
readings of one text: the expression could match a label by its optional group where the cut
leaves none, or leave the cut short of a part. They are put together here as `readMatched`,
with the failures of both, and compared with the layout that `Layout.parse` takes a text
apart into:

> `matches_iff`: the expression matches the texts of shaped layouts and no others;
> `fromRight_render`: the cut from the right finds the parts of a layout in its text;
> `parse_decides_grammar`: a text is taken apart into a layout exactly if it is the text of
> this layout and the layout has the shape of a token; all other texts fail, and all in the
> same way.

So a text has one reading, and no text that matches is short of a part.
-/

namespace Possession.Token.Layout

/-! ### The expression -/

/-- The expression that matches one character of a list. -/
def oneOf (cs : List Char) : RegularExpression Char := (cs.map .char).sum

/-- Small letters, digits and the hyphen. -/
def labelAlphabet : List Char := "abcdefghijklmnopqrstuvwxyz0123456789-".toList

/-- Capital and small letters, and digits. -/
def blockAlphabet : List Char :=
  "ABCDEFGHIJKLMNOPQRSTUVWXYZabcdefghijklmnopqrstuvwxyz0123456789".toList

/-- One or more characters of a label. -/
def labelExpression : RegularExpression Char :=
  oneOf labelAlphabet * (oneOf labelAlphabet).star

/-- The expression for tokens: perhaps a label with an underscore, then two blocks with an
underscore between them. -/
def expression : RegularExpression Char :=
  (1 + labelExpression * .char '_') *
    (oneOf blockAlphabet ^ 22 * .char '_' *
      (oneOf blockAlphabet ^ 59 + oneOf blockAlphabet ^ 60))

theorem mem_oneOf {cs w : List Char} : w ∈ (oneOf cs).matches' ↔ ∃ c ∈ cs, w = [c] := by
  induction cs with
  | nil => simp [oneOf]
  | cons c cs ih =>
    have hsplit : (oneOf (c :: cs)).matches' = {[c]} + (oneOf cs).matches' := rfl
    rw [hsplit, Language.mem_add, ih, List.exists_mem_cons_iff]
    rfl

/-- Words of single characters make up a word of these characters, as long as there are
words. -/
theorem mem_flatten_iff {cs w : List Char} {n : Nat} :
    (∃ ws : List (List Char), w = ws.flatten ∧ ws.length = n ∧ ∀ v ∈ ws, ∃ c ∈ cs,
      v = [c]) ↔ w.length = n ∧ ∀ c ∈ w, c ∈ cs := by
  constructor
  · intro h
    obtain ⟨ws, rfl, rfl, hws⟩ := h
    induction ws with
    | nil => simp
    | cons v ws ih =>
      obtain ⟨c, hc, rfl⟩ := hws v List.mem_cons_self
      obtain ⟨hlen, hmem⟩ := ih fun v hv => hws v (List.mem_cons_of_mem _ hv)
      rw [List.flatten_cons, List.length_append, hlen, List.length_cons]
      refine ⟨Nat.add_comm .., ?_⟩
      intro d hd
      rcases List.mem_append.mp hd with hd | hd
      · rw [List.mem_singleton.mp hd]
        exact hc
      · exact hmem d hd
  · intro h
    obtain ⟨rfl, hmem⟩ := h
    refine ⟨w.map fun c => [c], ?_, by simp, ?_⟩
    · rw [← List.flatMap_def, List.flatMap_singleton']
    · intro v hv
      obtain ⟨c, hc, rfl⟩ := List.mem_map.mp hv
      exact ⟨c, hmem c hc, rfl⟩

theorem mem_oneOf_pow {cs w : List Char} {n : Nat} :
    w ∈ (oneOf cs ^ n).matches' ↔ w.length = n ∧ ∀ c ∈ w, c ∈ cs := by
  rw [RegularExpression.matches'_pow, Language.mem_pow, ← mem_flatten_iff]
  simp only [mem_oneOf, ← and_assoc]

theorem mem_oneOf_star {cs w : List Char} :
    w ∈ (oneOf cs).star.matches' ↔ ∀ c ∈ w, c ∈ cs := by
  rw [RegularExpression.matches'_star, Language.mem_kstar]
  simp only [mem_oneOf]
  constructor
  · intro h
    obtain ⟨ws, hw, hws⟩ := h
    exact (mem_flatten_iff.mp ⟨ws, hw, rfl, hws⟩).2
  · intro h
    obtain ⟨ws, hw, -, hws⟩ := mem_flatten_iff.mpr ⟨(rfl : w.length = w.length), h⟩
    exact ⟨ws, hw, hws⟩

theorem mem_labelExpression {w : List Char} :
    w ∈ labelExpression.matches' ↔ w ≠ [] ∧ ∀ c ∈ w, c ∈ labelAlphabet := by
  unfold labelExpression
  rw [RegularExpression.matches'_mul, Language.mem_mul]
  simp only [mem_oneOf, mem_oneOf_star]
  constructor
  · intro h
    obtain ⟨_, ⟨c, hc, rfl⟩, rest, hrest, rfl⟩ := h
    exact ⟨nofun, List.forall_mem_cons.mpr ⟨hc, hrest⟩⟩
  · intro h
    obtain ⟨hne, hmem⟩ := h
    obtain ⟨c, rest, rfl⟩ := List.exists_cons_of_ne_nil hne
    obtain ⟨hc, hrest⟩ := List.forall_mem_cons.mp hmem
    exact ⟨[c], ⟨c, hc, rfl⟩, rest, hrest, rfl⟩

/-- A class of characters in ASCII is the class of a list, if it is so for each code. -/
theorem mem_iff_of_codes {p : Char → Bool} {cs : List Char}
    (hcodes : ∀ n < 128, p (Char.ofNat n) = cs.contains (Char.ofNat n))
    (hascii : ∀ c, p c → c.toNat < 128) (hlist : cs.all (·.toNat < 128) = true) (c : Char) :
    c ∈ cs ↔ p c := by
  have hcode : c.toNat < 128 → p c = cs.contains c :=
    Text.forall_of_codes (p := fun c => p c = cs.contains c) hcodes
  constructor
  · intro h
    rw [hcode (of_decide_eq_true (List.all_eq_true.mp hlist c h))]
    exact List.contains_iff_mem.mpr h
  · intro h
    rw [hcode (hascii c h)] at h
    exact List.contains_iff_mem.mp h

theorem mem_labelAlphabet (c : Char) : c ∈ labelAlphabet ↔
    c.isLower ∨ c.isDigit ∨ c = '-' := by
  rw [← isLabelChar_iff]
  refine mem_iff_of_codes (by decide +kernel) ?_ (by decide) c
  intro c h
  rcases isLabelChar_iff.mp h with h | h | rfl
  · have := isLower_iff.mp h
    omega
  · have := Text.isDigit_iff.mp h
    omega
  · decide

theorem mem_blockAlphabet (c : Char) : c ∈ blockAlphabet ↔ c.isAlphanum := by
  rw [← isBlockChar_iff]
  refine mem_iff_of_codes (by decide +kernel) ?_ (by decide) c
  intro c h
  unfold isBlockChar at h
  simp only [Bool.or_eq_true, Bool.and_eq_true, decide_eq_true_eq] at h
  omega

/-- What stands in front of the blocks of a layout. -/
def front (t : Layout) : List Char :=
  match t.label with
  | none => []
  | some l => l.toList ++ ['_']

theorem toList_render_eq (t : Layout) :
    t.render.toList = t.front ++ (t.payload.toList ++ '_' :: t.sealedBlock.toList) := by
  unfold render front
  cases t.label <;> simp

/-- The expression matches the texts of layouts with the shape of a token. -/
theorem matches_iff {text : String} :
    expression.rmatch text.toList ↔ ∃ t : Layout, t.Shaped ∧ t.render = text := by
  have hblock : ∀ {n : Nat} {w : List Char}, w ∈ (oneOf blockAlphabet ^ n).matches' ↔
      w.length = n ∧ ∀ c ∈ w, c.isAlphanum := by
    intro n w
    simp only [mem_oneOf_pow, mem_blockAlphabet]
  have hlabel : ∀ {w : List Char}, w ∈ labelExpression.matches' ↔
      w ≠ [] ∧ ∀ c ∈ w, c.isLower ∨ c.isDigit ∨ c = '-' := by
    intro w
    simp only [mem_labelExpression, mem_labelAlphabet]
  rw [RegularExpression.rmatch_iff_matches']
  unfold expression
  simp only [RegularExpression.matches'_mul, RegularExpression.matches'_add,
    RegularExpression.matches'_epsilon, RegularExpression.matches'_char, Language.mem_mul,
    Language.mem_add, Language.mem_one, hblock, hlabel, ← or_and_right]
  constructor
  · intro h
    obtain ⟨front, hfront, _, ⟨_, ⟨p, hp, _, rfl, rfl⟩, s, hs, rfl⟩, htext⟩ := h
    rcases hfront with rfl | ⟨l, hl, _, rfl, rfl⟩
    · refine ⟨⟨none, .ofList p, .ofList s⟩, ⟨nofun, ?_, ?_⟩, ?_⟩
      · simpa using hp
      · simpa using hs
      · apply String.toList_inj.mp
        rw [toList_render_eq, ← htext]
        simp [front]
    · refine ⟨⟨some (.ofList l), .ofList p, .ofList s⟩, ⟨?_, ?_, ?_⟩, ?_⟩
      · simpa using hl
      · simpa using hp
      · simpa using hs
      · apply String.toList_inj.mp
        rw [toList_render_eq, ← htext]
        simp [front]
  · intro h
    obtain ⟨t, ht, rfl⟩ := h
    refine ⟨t.front, ?_, t.payload.toList ++ '_' :: t.sealedBlock.toList, ?_,
      t.toList_render_eq.symm⟩
    · unfold front
      cases hlabel : t.label with
      | none => exact Or.inl rfl
      | some l =>
        obtain ⟨hne, hchars⟩ := ht.label l hlabel
        exact Or.inr ⟨l.toList, ⟨by simpa using hne, hchars⟩, ['_'], rfl, rfl⟩
    · refine ⟨t.payload.toList ++ ['_'], ⟨t.payload.toList, ?_, ['_'], rfl, rfl⟩,
        t.sealedBlock.toList, ?_, by simp⟩
      · rw [String.length_toList]
        exact ht.payload
      · rw [String.length_toList]
        exact ht.sealedBlock

/-! ### The cut from the right -/

/-- At most `n` pieces of a text that is cut at underscores from the right, the last piece
first. -/
def fromRight : (n : Nat) → List Char → List (List Char)
  | 0, _ => []
  | 1, cs => [cs]
  | n + 2, cs =>
    match Text.CodePoints.cutLast '_' cs with
    | none => [cs]
    | some (before, after) => after :: fromRight (n + 1) before

/-- Reads a token text by the expression, and cuts it from the right if it matches. -/
def readMatched (text : String) : Result Layout :=
  if expression.rmatch text.toList then
    match fromRight 3 text.toList with
    | [s, p] => .ok ⟨none, .ofList p, .ofList s⟩
    | [s, p, l] => .ok ⟨some (.ofList l), .ofList p, .ofList s⟩
    | _ => .error (.format "Token is missing a segment")
  else .error (.format "Token does not match the opaque token format")

/-- The pieces of a shaped layout's text are its parts, the last one first. -/
theorem fromRight_render {t : Layout} (h : t.Shaped) :
    fromRight 3 t.render.toList = t.parts.reverse := by
  have hparts := (wellFormed_iff_shaped.mpr h).not_mem_parts
  have hpayload : '_' ∉ t.payload.toList := hparts _ (by simp [parts])
  have hsealed : '_' ∉ t.sealedBlock.toList := hparts _ (by simp [parts])
  rw [toList_render_eq, ← List.append_assoc]
  unfold fromRight
  rw [Text.cutLast_append hsealed]
  unfold front parts fromRight
  cases t.label with
  | none =>
    dsimp only
    rw [List.nil_append, Text.cutLast_of_not_mem hpayload]
    rfl
  | some l =>
    dsimp only
    rw [List.append_assoc, List.singleton_append, Text.cutLast_append hpayload]
    rfl

theorem readMatched_render {t : Layout} (h : t.Shaped) : readMatched t.render = .ok t := by
  unfold readMatched
  rw [if_pos (matches_iff.mpr ⟨t, h, rfl⟩), fromRight_render h]
  obtain ⟨label, payload, sealedBlock⟩ := t
  cases label <;> simp [parts]

theorem readMatched_of_not_shaped {text : String}
    (h : ¬ ∃ t : Layout, t.Shaped ∧ t.render = text) :
    readMatched text = .error (.format "Token does not match the opaque token format") := by
  unfold readMatched
  rw [if_neg (mt matches_iff.mp h)]

/-! ### The reading of every text -/

theorem parse_eq_ok_iff_shaped {text : String} {t : Layout} :
    parse text = .ok t ↔ t.Shaped ∧ t.render = text := by
  rw [parse_eq_ok_iff, wellFormed_iff_shaped]

theorem parse_eq_error_iff {text : String} {e : Error} :
    parse text = .error e ↔ (¬ ∃ t : Layout, t.Shaped ∧ t.render = text) ∧
      e = .format "Token does not match the opaque token format" := by
  have hok : ∀ t, parse? text = some t ↔ t.Shaped ∧ t.render = text := fun t => by
    rw [parse?_eq_some_iff, wellFormed_iff_shaped]
  unfold parse
  cases hparse : parse? text with
  | some t =>
    have ht := (hok t).mp hparse
    exact iff_of_false nofun fun h => h.1 ⟨t, ht⟩
  | none =>
    have hnone : ¬ ∃ t : Layout, t.Shaped ∧ t.render = text := fun ⟨t, ht⟩ =>
      nomatch hparse.symm.trans ((hok t).mpr ht)
    constructor
    · intro h
      cases h
      exact ⟨hnone, rfl⟩
    · intro h
      rw [h.2]

theorem parse_eq_readMatched (text : String) : parse text = readMatched text := by
  by_cases h : ∃ t : Layout, t.Shaped ∧ t.render = text
  · obtain ⟨t, ht, rfl⟩ := h
    rw [readMatched_render ht, parse_eq_ok_iff_shaped.mpr ⟨ht, rfl⟩]
  · rw [readMatched_of_not_shaped h, parse_eq_error_iff.mpr ⟨h, rfl⟩]

/-- **The grammar decides.** A text is taken apart into a label and two blocks exactly if
the label, where there is one, is one or more small letters, digits and hyphens, the blocks
are 22 and 59 or 60 letters and digits of ASCII, and the text is these parts joined by
underscores. No text is that in two ways. All other texts are refused, and with one message.
Taking apart agrees with matching the expression and cutting from the right, and there the
cut is never short of a part. -/
theorem parse_decides_grammar (text : String) :
    (∀ t, Layout.parse text = .ok t ↔
      text = (t.label.elim "" (· ++ "_")) ++ t.payload ++ "_" ++ t.sealedBlock ∧
        (∀ l ∈ t.label, l ≠ "" ∧ ∀ c ∈ l.toList, c.isLower ∨ c.isDigit ∨ c = '-') ∧
        (t.payload.length = 22 ∧ ∀ c ∈ t.payload.toList, c.isAlphanum) ∧
        (t.sealedBlock.length = 59 ∨ t.sealedBlock.length = 60) ∧
          ∀ c ∈ t.sealedBlock.toList, c.isAlphanum) ∧
    {t : Layout | t.Shaped ∧ t.render = text}.Subsingleton ∧
    (∀ e, Layout.parse text = .error e ↔ (¬ ∃ t : Layout, t.Shaped ∧ t.render = text) ∧
      e = .format "Token does not match the opaque token format") ∧
    Layout.parse text = Layout.readMatched text ∧
    Layout.readMatched text ≠ .error (.format "Token is missing a segment") := by
  refine ⟨?_, ?_, fun e => parse_eq_error_iff, parse_eq_readMatched text, ?_⟩
  · intro t
    have hrender :
      t.render = (t.label.elim "" (· ++ "_")) ++ t.payload ++ "_" ++ t.sealedBlock := by
      unfold render
      cases t.label with
      | none => exact (String.empty_append ..).symm
      | some l => rfl
    rw [parse_eq_ok_iff_shaped, ← hrender, eq_comm (a := text)]
    constructor
    · intro h
      exact ⟨h.2, h.1.label, h.1.payload, h.1.sealedBlock⟩
    · intro h
      exact ⟨⟨h.2.1, h.2.2.1, h.2.2.2⟩, h.1⟩
  · intro t ht t' ht'
    exact Except.ok.inj
      ((parse_eq_ok_iff_shaped.mpr ht).symm.trans (parse_eq_ok_iff_shaped.mpr ht'))
  · rw [← parse_eq_readMatched]
    intro h
    exact absurd (parse_eq_error_iff.mp h).2 (by simp)

end Possession.Token.Layout
