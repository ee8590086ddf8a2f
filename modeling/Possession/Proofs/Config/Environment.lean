import Mathlib.Data.List.TakeDrop
import Mathlib.Data.List.TakeWhile
import Possession.Config.Source
import Possession.Proofs.Result

/-!
# Settings of the environment

The environment is laid over a file: a variable with the mark in front of its name sets what
the rest of the name stands for, and leaves everything else (`load_eq`,
`Value.find?_set_self`, `Value.find?_set_ne`).

What it sets is not the text of the variable but the value that the text stands for, a
switch, an integer or a number where it can be read as one. A setting that is a text is then
written back from that value:

> `settled_eq_iff`: a text comes through unchanged exactly if it is the one way in which the
> value that it stands for is written (`Verbatim`).

Most texts stand for nothing but themselves; one character that no numeral has is enough
(`verbatim_of_mem`). What is at risk are numerals, such as keys made of digits: a leading
zero or plus, an exponent and the digits beyond the precision of a number are not kept.
-/

namespace Possession

/-! ## Characters of numerals -/

namespace Decimal

/-- Characters that a numeral, or a word for a number or a switch, can have. -/
def isNumeralChar (c : Char) : Bool :=
  c.isDigit || c.toLower ∈ ['+', '-', '.', 'a', 'e', 'f', 'i', 'l', 'n', 'r', 's', 't',
    'u', 'y']

theorem isNumeralChar_of_isDigit {c : Char} (h : c.isDigit = true) :
    isNumeralChar c = true := by
  unfold isNumeralChar
  rw [h, Bool.true_or]

theorem isNumeralChar_of_takeSign {cs : List Char}
    (h : ∀ c ∈ (takeSign cs).2, isNumeralChar c) : ∀ c ∈ cs, isNumeralChar c := by
  unfold takeSign at h
  split at h
  · exact List.forall_mem_cons.mpr ⟨by decide, h⟩
  · exact List.forall_mem_cons.mpr ⟨by decide, h⟩
  · exact h

theorem isDigit_of_readDigits? {cs : List Char} {n : Nat} (h : readDigits? cs = some n) :
    ∀ c ∈ cs, c.isDigit = true := by
  unfold readDigits? at h
  split at h
  next hdigits =>
    rw [Bool.and_eq_true] at hdigits
    exact List.all_eq_true.mp hdigits.2
  next => cases h

theorem isNumeralChar_of_readInt? {cs : List Char} {n : Int} (h : readInt? cs = some n) :
    ∀ c ∈ cs, isNumeralChar c := by
  refine isNumeralChar_of_takeSign ?_
  have hread : ((readDigits? (takeSign cs).2).bind fun n => some (n : Int)).map
      (fun n => if (takeSign cs).1 then -n else n) = some n := h
  obtain ⟨m, hm, -⟩ := Option.map_eq_some_iff.mp hread
  obtain ⟨k, hk, -⟩ := Option.bind_eq_some_iff.mp hm
  exact fun c hc => isNumeralChar_of_isDigit (isDigit_of_readDigits? hk c hc)

theorem isNumeralChar_of_readExponent? {cs : List Char} {n : Int}
    (h : readExponent? cs = some n) : ∀ c ∈ cs, isNumeralChar c := by
  cases cs with
  | nil => exact nofun
  | cons d rest =>
    have hread : (if d = 'e' ∨ d = 'E' then readInt? rest else none) = some n := h
    split at hread
    next hletter =>
      have hd : isNumeralChar d = true := by
        rcases hletter with rfl | rfl <;> decide
      exact List.forall_mem_cons.mpr ⟨hd, isNumeralChar_of_readInt? hread⟩
    next => cases hread

/-- Digits may stand in front of characters of numerals. -/
theorem isNumeralChar_of_span {cs : List Char}
    (h : ∀ c ∈ (cs.span Char.isDigit).2, isNumeralChar c) : ∀ c ∈ cs, isNumeralChar c := by
  intro c hc
  rw [List.span_eq_takeWhile_dropWhile] at h
  rw [← List.takeWhile_append_dropWhile (p := Char.isDigit) (l := cs)] at hc
  rcases List.mem_append.mp hc with hdigit | hrest
  · exact isNumeralChar_of_isDigit (List.mem_takeWhile_imp hdigit)
  · exact h c hrest

/-- The digits behind a point, if there is one, and what follows. -/
def takeFraction : List Char → List Char × List Char
  | '.' :: rest => rest.span Char.isDigit
  | rest => ([], rest)

theorem isNumeralChar_of_takeFraction {cs : List Char}
    (h : ∀ c ∈ (takeFraction cs).2, isNumeralChar c) : ∀ c ∈ cs, isNumeralChar c := by
  unfold takeFraction at h
  split at h
  · exact List.forall_mem_cons.mpr ⟨by decide, isNumeralChar_of_span h⟩
  · exact h

theorem isNumeralChar_of_readMagnitude? {cs : List Char} {f : Float}
    (h : readMagnitude? cs = some f) : ∀ c ∈ cs, isNumeralChar c := by
  refine isNumeralChar_of_span (isNumeralChar_of_takeFraction ?_)
  have hread : (if (cs.span Char.isDigit).1.isEmpty &&
      (takeFraction (cs.span Char.isDigit).2).1.isEmpty then none
    else (readExponent? (takeFraction (cs.span Char.isDigit).2).2).map fun e =>
      nearest
        (natOfDigits
          ((cs.span Char.isDigit).1 ++ (takeFraction (cs.span Char.isDigit).2).1))
        (e - (takeFraction (cs.span Char.isDigit).2).1.length)) = some f := h
  split at hread
  next => cases hread
  next =>
    obtain ⟨e, he, -⟩ := Option.map_eq_some_iff.mp hread
    exact isNumeralChar_of_readExponent? he

/-- The words that are no texts. -/
theorem isNumeralChar_of_word {cs : List Char}
    (h : String.ofList (cs.map Char.toLower) ∈ ["true", "false", "inf", "infinity",
      "nan"]) :
    ∀ c ∈ cs, isNumeralChar c := by
  intro c hc
  have hletters : ∀ w ∈ ["true", "false", "inf", "infinity", "nan"], ∀ d ∈ w.toList,
      d ∈ ['+', '-', '.', 'a', 'e', 'f', 'i', 'l', 'n', 'r', 's', 't', 'u', 'y'] := by
    simp
  have hmem : c.toLower ∈ (String.ofList (cs.map Char.toLower)).toList := by
    rw [String.toList_ofList]
    exact List.mem_map_of_mem hc
  unfold isNumeralChar
  rw [decide_eq_true (hletters _ h _ hmem), Bool.or_true]

theorem isNumeralChar_of_readWord? {cs : List Char} {f : Float}
    (h : readWord? cs = some f) : ∀ c ∈ cs, isNumeralChar c := by
  refine isNumeralChar_of_word ?_
  unfold readWord? at h
  dsimp only at h
  split at h
  next hinf => rcases hinf with h | h <;> rw [h] <;> decide
  next =>
    split at h
    next hnan =>
      rw [hnan]
      decide
    next => cases h

/-- A numeral and a word have characters of numerals only. -/
theorem isNumeralChar_of_readFloat? {cs : List Char} {f : Float}
    (h : readFloat? cs = some f) : ∀ c ∈ cs, isNumeralChar c := by
  refine isNumeralChar_of_takeSign ?_
  have hread : ((readWord? (takeSign cs).2).or (readMagnitude? (takeSign cs).2)).map
      (fun f => if (takeSign cs).1 then -f else f) = some f := h
  obtain ⟨g, hg, -⟩ := Option.map_eq_some_iff.mp hread
  rcases Option.or_eq_some_iff.mp hg with hword | ⟨-, hmagnitude⟩
  · exact isNumeralChar_of_readWord? hword
  · exact isNumeralChar_of_readMagnitude? hmagnitude

/-! ## Numerals that are written -/

theorem Layout.write_ne_nil (l : Layout) (d : Digits) : l.write d ≠ [] := by
  unfold Layout.write
  have hdigits : Nat.toDigits 10 (stripZeros 400 d).digits ≠ [] := Nat.toDigits_ne_nil
  dsimp only
  split
  · split
    · simp
    · split
      · simp [hdigits]
      · simp
  · simp [hdigits]

/-- A number is written with one character at least. -/
theorem Layout.float_ne_empty (l : Layout) (f : Float) : l.float f ≠ "" := by
  unfold Layout.float
  split
  · decide
  · dsimp only
    intro hempty
    have hnil := congrArg String.toList hempty
    rw [String.toList_ofList] at hnil
    split at hnil
    · cases hnil
    · split at hnil
      · cases hnil
      · split at hnil
        · split at hnil <;> cases hnil
        · exact l.write_ne_nil _ hnil

end Decimal

namespace Config

/-! ## Setting one name -/

namespace Value

theorem find?_insert_self (name : String) (v : Value) (ms : List (String × Value)) :
    find? name (Json.insert name v ms) = some v := by
  unfold find?
  induction ms with
  | nil => simp [Json.insert]
  | cons entry rest ih =>
    obtain ⟨k, w⟩ := entry
    unfold Json.insert
    split
    · simp
    · split
      · simp
      next hne => simpa [Ne.symm hne] using ih

theorem find?_insert_ne {name other : String} (h : other ≠ name) (v : Value)
    (ms : List (String × Value)) :
    find? other (Json.insert name v ms) = find? other ms := by
  unfold find?
  induction ms with
  | nil => simp [Json.insert, h.symm]
  | cons entry rest ih =>
    obtain ⟨k, w⟩ := entry
    unfold Json.insert
    split
    · simp [h.symm]
    · split
      next heq => simp [← heq, h.symm]
      next =>
        by_cases hk : k = other
        · simp [hk]
        · simpa [hk] using ih

/-- A name is plain if it is no path into the configuration. -/
def IsPlain (name : String) : Prop := name ≠ "" ∧ ∀ c ∈ name.toList, Path.isNameChar c

instance (name : String) : Decidable (IsPlain name) := inferInstanceAs (Decidable (_ ∧ _))

theorem ofName_of_isPlain {name : String} (h : IsPlain name) :
    Path.ofName name = [.member name] := by
  have htake : Path.takeName name.toList = some (name, []) := by
    have hspan : name.toList.span Path.isNameChar = (name.toList, []) := by
      rw [List.span_eq_takeWhile_dropWhile, List.takeWhile_eq_self_iff.mpr h.2,
        List.dropWhile_eq_nil_iff.mpr h.2]
    have hne : name.toList ≠ [] := fun hnil => h.1 (String.toList_eq_nil_iff.mp hnil)
    unfold Path.takeName
    rw [hspan]
    split
    next heq => exact absurd (congrArg Prod.fst heq) hne
    next heq =>
      cases heq
      rw [String.ofList_toList]
  unfold Path.ofName
  rw [htake]
  rfl

/-- Setting a plain name puts a value without parts into the table. -/
theorem set_leaf {name : String} (h : IsPlain name) (v : Scalar) (origin : Origin)
    (root : Value) :
    set name (leaf v origin) root =
      table (Json.insert name (leaf v origin) root.members) := by
  unfold set
  rw [ofName_of_isPlain h]
  simp only [alterAt, alter, merge]

theorem find?_set_self {name : String} (h : IsPlain name) (v : Scalar) (origin : Origin)
    (root : Value) :
    find? name (set name (leaf v origin) root).members = some (leaf v origin) := by
  rw [set_leaf h]
  exact find?_insert_self ..

theorem find?_set_ne {name other : String} (h : IsPlain name) (hne : other ≠ name)
    (v : Scalar) (origin : Origin) (root : Value) :
    find? other (set name (leaf v origin) root).members = find? other root.members := by
  rw [set_leaf h]
  exact find?_insert_ne hne ..

end Value

/-! ## The environment over a file -/

/-- The environment is laid over what the file alone gives. -/
theorem load_eq (path : Bytes) (entry : Entry) (environment : List (String × String))
    (mark : String) :
    load path entry environment mark =
      (load path entry [] mark).map
        (Value.setAll (environment.filterMap (ofVariable mark))) := by
  unfold load
  cases entry with
  | absent => rfl
  | directory =>
    dsimp only
    split <;> rfl
  | file content =>
    dsimp only
    split
    · split <;> rfl
    · rfl

theorem toList_toSmall_append (a b : String) :
    (Text.toSmall (a ++ b)).toList =
      (Text.toSmall a).toList ++ (Text.toSmall b).toList := by
  unfold Text.toSmall
  rw [String.toList_ofList, String.toList_ofList, String.toList_ofList,
    String.toList_append, List.flatMap_append]

/-- A variable whose name begins with the mark sets what the rest of its name says in small
letters, each pair of underscores being a point. -/
theorem ofVariable_append {suffix : String} {name : List Char}
    (h : (Text.toSmall suffix).toList = ['_', '_'] ++ name) (mark text : String) :
    ofVariable mark (mark ++ suffix, text) =
      some (String.ofList (underscoresToPoints name),
        .leaf (readText text) (some environmentOrigin)) := by
  have hname : (Text.toSmall (mark ++ suffix)).toList =
      (Text.toSmall mark).toList ++ ['_', '_'] ++ name := by
    rw [toList_toSmall_append, h, List.append_assoc]
  unfold ofVariable
  dsimp only
  rw [hname, if_pos (List.isPrefixOf_iff_prefix.mpr (List.prefix_append _ _)),
    List.drop_left]

/-- Variables without the mark do not count. -/
theorem filterMap_ofVariable_filter (mark : String) (environment : List (String × String)) :
    (environment.filter fun e => (ofVariable mark e).isSome).filterMap (ofVariable mark) =
      environment.filterMap (ofVariable mark) := by
  have hsame : (fun e => if (ofVariable mark e).isSome then ofVariable mark e else none) =
      ofVariable mark := by
    funext e
    cases ofVariable mark e <;> rfl
  rw [List.filterMap_filter, hsame]

/-! ## Texts that come through -/

/-- A text as it is compared with the words for a switch. -/
def asWord (text : String) : String := String.ofList (text.toList.map Char.toLower)

/-- The text that is written back from the value that a text stands for. -/
def settled (text : String) : String :=
  match readText text with
  | .text s => s
  | .bool b => if b then "true" else "false"
  | .int n => toString n
  | .float f => Decimal.plain.float f
  | .unset => text

/-- A text is the one way in which the value that it stands for is written: a switch in
small letters, an integer without a plus and without zeros in front, a number with no more
digits than it takes to tell it from the others, and without an exponent. -/
structure Verbatim (text : String) : Prop where
  word : ∀ w ∈ ["true", "false"], asWord text = w → text = w
  integer : ∀ n, Decimal.readInt64? text.toList = some n → text = toString n
  number : Decimal.readInt64? text.toList = none →
    ∀ f, Decimal.readFloat? text.toList = some f → text = Decimal.plain.float f

theorem verbatim_of_word {text : String} (h : text ∈ ["true", "false"]) :
    Verbatim text := by
  have hwords : ∀ w ∈ ["true", "false"], Decimal.readInt64? w.toList = none ∧
      (Decimal.readFloat? w.toList).isNone ∧ asWord w = w := by
    decide
  obtain ⟨hint, hfloat, hlower⟩ := hwords text h
  refine ⟨?_, ?_, ?_⟩
  · intro w _ hw
    exact hlower.symm.trans hw
  · intro n hn
    cases hint.symm.trans hn
  · intro _ f hf
    rw [hf] at hfloat
    cases hfloat

/-- The word that is looked for before a text is tried as a numeral. -/
theorem readText_of_word {text w : String} (hw : w ∈ ["true", "false"])
    (h : asWord text = w) : readText text = .bool (w == "true") := by
  unfold asWord at h
  unfold readText
  dsimp only
  rw [h]
  have hcases : w = "true" ∨ w = "false" := by simpa using hw
  rcases hcases with rfl | rfl <;> rfl

theorem readText_of_not_word {text : String}
    (h : asWord text ∉ ["true", "false"]) :
    readText text = match Decimal.readInt64? text.toList with
      | some n => .int n
      | none => ((Decimal.readFloat? text.toList).map Scalar.float).getD (.text text) := by
  unfold asWord at h
  unfold readText
  dsimp only
  split
  next heq =>
    rw [heq] at h
    exact absurd (by decide) h
  next heq =>
    rw [heq] at h
    exact absurd (by decide) h
  next => rfl

/-- A setting that is a text gets the text that is written back. -/
theorem decodeString_readText (text : String) (origin : Origin) :
    decodeString (.leaf (readText text) origin) = .ok (settled text) := by
  have hset : readText text ≠ .unset := by
    by_cases hword : asWord text ∈ ["true", "false"]
    · rw [readText_of_word hword rfl]
      exact nofun
    · rw [readText_of_not_word hword]
      cases Decimal.readInt64? text.toList with
      | some n => exact nofun
      | none => cases Decimal.readFloat? text.toList <;> exact nofun
  unfold settled
  cases hread : readText text with
  | unset => exact absurd hread hset
  | _ => rfl

/-! The three ways in which a text is read, and what each writes back. -/

theorem settled_of_word {text : String}
    (h : asWord text ∈ ["true", "false"]) :
    settled text = asWord text := by
  have hback :
    ∀ w ∈ ["true", "false"], (if (w == "true") = true then "true" else "false") = w := by
    decide
  unfold settled
  rw [readText_of_word h rfl]
  exact hback _ h

theorem settled_of_integer {text : String} {n : Int}
    (h : asWord text ∉ ["true", "false"])
    (hn : Decimal.readInt64? text.toList = some n) : settled text = toString n := by
  unfold settled
  rw [readText_of_not_word h, hn]

theorem settled_of_number {text : String} {f : Float}
    (h : asWord text ∉ ["true", "false"])
    (hn : Decimal.readInt64? text.toList = none)
    (hf : Decimal.readFloat? text.toList = some f) :
    settled text = Decimal.plain.float f := by
  unfold settled
  rw [readText_of_not_word h, hn, hf]
  rfl

theorem settled_of_text {text : String}
    (h : asWord text ∉ ["true", "false"])
    (hn : Decimal.readInt64? text.toList = none)
    (hf : Decimal.readFloat? text.toList = none) : settled text = text := by
  unfold settled
  rw [readText_of_not_word h, hn, hf]
  rfl

/-- **Which texts come through.** A text is written back as it was exactly if it is
verbatim. -/
theorem settled_eq_iff {text : String} : settled text = text ↔ Verbatim text := by
  constructor
  · intro h
    by_cases hword : asWord text ∈ ["true", "false"]
    · rw [settled_of_word hword] at h
      rw [h] at hword
      exact verbatim_of_word hword
    · refine ⟨?_, ?_, ?_⟩
      · rintro w hw rfl
        exact absurd hw hword
      · intro n hn
        exact h.symm.trans (settled_of_integer hword hn)
      · intro hn f hf
        exact h.symm.trans (settled_of_number hword hn hf)
  · intro h
    by_cases hword : asWord text ∈ ["true", "false"]
    · exact (settled_of_word hword).trans (h.word _ hword rfl).symm
    · cases hn : Decimal.readInt64? text.toList with
      | some n => exact (settled_of_integer hword hn).trans (h.integer n hn).symm
      | none =>
        cases hf : Decimal.readFloat? text.toList with
        | some f => exact (settled_of_number hword hn hf).trans (h.number hn f hf).symm
        | none => exact settled_of_text hword hn hf

/-- One character that no numeral has makes a text verbatim. -/
theorem verbatim_of_mem {text : String} {c : Char} (hc : c ∈ text.toList)
    (h : Decimal.isNumeralChar c = false) : Verbatim text := by
  have hother : ¬ ∀ c ∈ text.toList, Decimal.isNumeralChar c := by
    intro hall
    exact Bool.false_ne_true (h.symm.trans (hall c hc))
  refine ⟨?_, ?_, ?_⟩
  · rintro w hw rfl
    have hwords :
      ∀ w ∈ ["true", "false"], w ∈ ["true", "false", "inf", "infinity", "nan"] := by
      decide
    exact absurd (Decimal.isNumeralChar_of_word (hwords _ hw)) hother
  · intro n hn
    exact absurd (Decimal.isNumeralChar_of_readInt? (Option.filter_eq_some_iff.mp hn).1)
      hother
  · intro _ f hf
    exact absurd (Decimal.isNumeralChar_of_readFloat? hf) hother

theorem toString_int_ne_empty (n : Int) : toString n ≠ "" := by
  cases n with
  | ofNat n =>
    show Nat.repr n ≠ ""
    simp [Nat.repr]
  | negSucc n =>
    show "-" ++ Nat.repr (n + 1) ≠ ""
    simp

/-- A text that is not empty is not written back as the empty text. -/
theorem settled_ne_empty {text : String} (h : text ≠ "") : settled text ≠ "" := by
  by_cases hword : asWord text ∈ ["true", "false"]
  · have hwords : ∀ w ∈ ["true", "false"], w ≠ "" := by decide
    rw [settled_of_word hword]
    exact hwords _ hword
  · cases hn : Decimal.readInt64? text.toList with
    | some n =>
      rw [settled_of_integer hword hn]
      exact toString_int_ne_empty n
    | none =>
      cases hf : Decimal.readFloat? text.toList with
      | some f =>
        rw [settled_of_number hword hn hf]
        exact Decimal.plain.float_ne_empty f
      | none =>
        rw [settled_of_text hword hn hf]
        exact h

end Config

end Possession
