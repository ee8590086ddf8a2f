import Mathlib.Data.List.InsertIdx
import Possession.Proofs.Text.Cut
import Possession.Proofs.Text.Digits
import Possession.Proofs.Web.Address
import Possession.Web.Idna

/-!
# What the reader of domain names gives

A URL is put together from the name that reading gave, so the name must not have a character
that would structure the URL. Where a name is kept as it was mapped, its labels have been
checked for such characters. Where a label is written or read in Punycode it is the decoded
label that has been checked, and the name has the other form:

> `Punycode.mem_encode`: what is written are characters of the label, hyphens and digits;
> `Punycode.mem_of_decode?`: what is read are characters of the label, hyphens and digits;
> `Idna.isForbidden_of_toAscii?`: so no ASCII form has a forbidden character;
> `Idna.toAscii?_of_plain`: and a name that is plain ASCII is its own ASCII form.

Digits are letters and digits of ASCII because no value reaches 36: a digit that is not the
last of its number is a remainder above a threshold of at most 26 (`Punycode.threshold_le`).
-/

namespace Possession.Web

namespace Punycode

/-! ## Writing -/

theorem exists_digit_of_mem_writeNumber {bias k q : Nat} {c : Char}
    (h : c ∈ writeNumber bias k q) : ∃ d < 36, c = digit d := by
  fun_induction writeNumber bias k q with
  | case1 k q t hlt =>
    have hle : t ≤ 26 := threshold_le k bias
    exact ⟨q, by omega, List.mem_singleton.mp h⟩
  | case2 k q t hnot ih =>
    rcases List.mem_cons.mp h with rfl | h
    · have hle : t ≤ 26 := threshold_le k bias
      have hmod : (q - t) % (36 - t) < 36 - t := Nat.mod_lt _ (by omega)
      exact ⟨t + (q - t) % (36 - t), by omega, rfl⟩
    · exact ih h

/-- What has been put out so far are digits. -/
def Writing.OnlyDigits (s : Writing) : Prop := ∀ c ∈ s.out, ∃ d < 36, c = digit d

theorem Writing.OnlyDigits.pass {s : Writing} (h : s.OnlyDigits) (basic m : Nat)
    (c : Char) : (s.pass basic m c).OnlyDigits := by
  unfold Writing.pass
  split
  · exact h
  · split
    · intro x hx
      rcases List.mem_append.mp hx with hx | hx
      · exact h x hx
      · exact exists_digit_of_mem_writeNumber hx
    · exact h

theorem Writing.OnlyDigits.foldl_pass {s : Writing} (h : s.OnlyDigits) (basic m : Nat)
    (cs : List Char) : (cs.foldl (Writing.pass basic m) s).OnlyDigits := by
  induction cs generalizing s with
  | nil => exact h
  | cons c cs ih => exact ih (h.pass basic m c)

theorem Writing.OnlyDigits.rounds {s : Writing} (h : s.OnlyDigits) (label : List Char)
    (basic : Nat) (ms : List Nat) (n : Nat) : (rounds label basic ms n s).OnlyDigits := by
  induction ms generalizing n s with
  | nil => exact h
  | cons m ms ih =>
    -- the differences are counted on between the rounds, and nothing is put out
    have hbefore :
      Writing.OnlyDigits { s with delta := s.delta + (m - n) * (s.done + 1) } := h
    unfold Punycode.rounds
    refine ih ?_ (m + 1)
    exact hbefore.foldl_pass basic m label

/-- A written form is made of characters of the label, hyphens and digits. -/
theorem mem_encode {label : List Char} {c : Char} (h : c ∈ encode label) :
    c ∈ label ∨ c = '-' ∨ ∃ d < 36, c = digit d := by
  unfold encode at h
  dsimp only at h
  rw [List.mem_append, List.mem_append] at h
  rcases h with (h | h) | h
  · exact .inl (List.mem_filter.mp h).1
  · split at h
    · cases h
    · exact .inr (.inl (List.mem_singleton.mp h))
  · refine .inr (.inr (Writing.OnlyDigits.rounds ?_ _ _ _ _ c h))
    exact List.forall_mem_nil _

/-! ## Reading -/

/-- A number is read off digits. -/
theorem exists_digits_of_readNumber {bias : Nat} {cs : List Char} {k w i : Nat}
    {r : Nat × List Char} (h : readNumber bias cs k w i = some r) :
    ∃ ds, cs = ds ++ r.2 ∧ ∀ c ∈ ds, (value? c).isSome := by
  induction cs generalizing k w i with
  | nil => cases h
  | cons c rest ih =>
    unfold readNumber at h
    split at h
    next => cases h
    next d hvalue =>
      have hc : (value? c).isSome := by
        rw [hvalue]
        rfl
      split at h
      next =>
        cases h
        exact ⟨[c], rfl, by simpa using hc⟩
      next =>
        obtain ⟨ds, rfl, hds⟩ := ih h
        exact ⟨c :: ds, rfl, List.forall_mem_cons.mpr ⟨hc, hds⟩⟩

/-- What is inserted into stays, and what the insertions are read off are digits. -/
theorem mem_of_readInsertions {bias n i : Nat} {out cs label : List Char}
    (h : readInsertions bias n i out cs = some label) :
    out ⊆ label ∧ ∀ c ∈ cs, (value? c).isSome := by
  fun_induction readInsertions bias n i out cs with
  | case1 =>
    cases h
    exact ⟨List.Subset.refl _, List.forall_mem_nil _⟩
  | case2 => cases h
  | case3 bias n i out c rest i' left hread points m position hpoint ih =>
    obtain ⟨hout, hleft⟩ := ih h
    obtain ⟨ds, hds, hdigits⟩ := exists_digits_of_readNumber hread
    refine ⟨List.Subset.trans (List.subset_insertIdx out position _) hout, ?_⟩
    rw [hds]
    exact List.forall_mem_append.mpr ⟨hdigits, hleft⟩
  | case4 => cases h

/-- A form that is read is made of characters of the label, hyphens and digits. -/
theorem mem_of_decode? {cs label : List Char} (h : decode? cs = some label) {c : Char}
    (hc : c ∈ cs) : c ∈ label ∨ c = '-' ∨ (value? c).isSome := by
  unfold decode? at h
  cases hcut : Text.CodePoints.cutLast '-' cs with
  | none =>
    -- without a hyphen all of the form are digits
    rw [hcut] at h
    exact .inr (.inr ((mem_of_readInsertions h).2 c hc))
  | some parts =>
    obtain ⟨basic, insertions⟩ := parts
    obtain ⟨rfl, -⟩ := Text.cutLast_eq_some_iff.mp hcut
    rw [hcut] at h
    dsimp only [Option.getD_some] at h
    split at h
    next =>
      obtain ⟨hbasic, hdigits⟩ := mem_of_readInsertions h
      rw [List.mem_append, List.mem_cons] at hc
      rcases hc with hc | hc | hc
      · exact .inl (hbasic hc)
      · exact .inr (.inl hc)
      · exact .inr (.inr (hdigits c hc))
    next => cases h

end Punycode

namespace Idna

/-! ## Forbidden characters -/

theorem isForbidden_digit : ∀ d < 36, isForbidden (Punycode.digit d) = false := by decide

theorem isForbidden_of_isSome_value? {c : Char} (h : (Punycode.value? c).isSome) :
    isForbidden c = false := by
  have hcodes : ∀ n < 128, (Punycode.value? (Char.ofNat n)).isSome →
      isForbidden (Char.ofNat n) = false := by decide +kernel
  have hsmall : c.toNat < 128 := by
    unfold Punycode.value? at h
    dsimp only at h
    split at h
    next => omega
    next =>
      split at h
      next => omega
      next =>
        split at h
        next => omega
        next => cases h
  exact Text.forall_of_codes
    (p := fun c => (Punycode.value? c).isSome → isForbidden c = false) hcodes hsmall h

theorem isForbidden_of_mem_label {label : List Char} (h : isLabel label = true) {c : Char}
    (hc : c ∈ label) : isForbidden c = false := by
  unfold isLabel at h
  simp only [Bool.and_eq_true, List.all_eq_true, Bool.not_eq_true'] at h
  exact (h.1.1 c hc).2

theorem isForbidden_of_mem_acePrefix {c : Char} (h : c ∈ acePrefix) :
    isForbidden c = false := by
  have hall : acePrefix.all (fun c => !isForbidden c) = true := by decide
  simpa using List.all_eq_true.mp hall c h

/-- Checking a decoded label does not change it. -/
theorem decode?_of_decodeLabel? {written label : List Char}
    (h : decodeLabel? written = some label) : Punycode.decode? written = some label := by
  unfold decodeLabel? at h
  split at h
  next => cases h
  next =>
    split at h
    next => cases h
    next decoded hpunycode => exact hpunycode.trans (Option.ite_none_right_eq_some.mp h).2

/-- The ASCII form of a label has only characters that are allowed, if the label has. -/
theorem isForbidden_of_readLabel? {label : List Char} {l : Label}
    (hread : readLabel? label = some l) (h : isLabel l.unicode = true) :
    ∀ c ∈ l.ascii, isForbidden c = false := by
  intro c hc
  unfold readLabel? at hread
  split at hread
  next hprefix =>
    -- the label is given in its ASCII form
    obtain ⟨unicode, hdecode, rfl⟩ := Option.map_eq_some_iff.mp hread
    obtain ⟨written, rfl⟩ := List.isPrefixOf_iff_prefix.mp hprefix
    rcases List.mem_append.mp hc with hc | hc
    · exact isForbidden_of_mem_acePrefix hc
    · have hpunycode : Punycode.decode? written = some unicode :=
        decode?_of_decodeLabel? hdecode
      rcases Punycode.mem_of_decode? hpunycode hc with hc | rfl | hc
      · exact isForbidden_of_mem_label h hc
      · decide
      · exact isForbidden_of_isSome_value? hc
  next =>
    split at hread
    next =>
      cases hread
      exact isForbidden_of_mem_label h hc
    next =>
      split at hread
      next => cases hread
      next =>
        cases hread
        rcases List.mem_append.mp hc with hc | hc
        · exact isForbidden_of_mem_acePrefix hc
        · rcases Punycode.mem_encode hc with hc | rfl | ⟨d, hd, rfl⟩
          · exact isForbidden_of_mem_label h hc
          · decide
          · exact isForbidden_digit d hd

/-! ## Plain names -/

theorem plain?_eq_some_iff {domain name : List Char} : plain? domain = some name ↔
    domain.map Char.toLower = name ∧ (∀ c ∈ name, c ∈ plainChars) ∧
      ∀ l ∈ Text.CodePoints.cut '.' name, ¬acePrefix <+: l := by
  unfold plain?
  dsimp only
  rw [Option.ite_none_right_eq_some, Option.some.injEq, Bool.and_eq_true, List.all_eq_true,
    Bool.not_eq_true', List.any_eq_false]
  simp only [List.contains_iff_mem, List.isPrefixOf_iff_prefix]
  constructor
  · intro h
    obtain ⟨h, rfl⟩ := h
    exact ⟨rfl, h⟩
  · intro h
    obtain ⟨rfl, h⟩ := h
    exact ⟨h, rfl⟩

/-- No ASCII form has a character that structures a URL. -/
theorem isForbidden_of_toAscii? {domain name : List Char}
    (h : toAscii? domain = some name) : ∀ c ∈ name, isForbidden c = false := by
  intro c hc
  unfold toAscii? at h
  split at h
  next plain hplain =>
    cases h
    have hall : plainChars.all (fun c => !isForbidden c) = true := by decide
    simpa using List.all_eq_true.mp hall c ((plain?_eq_some_iff.mp hplain).2.1 c hc)
  next =>
    obtain ⟨labels, hlabels, rfl⟩ := Option.map_eq_some_iff.mp h
    unfold labels? at hlabels
    dsimp only at hlabels
    split at hlabels
    next => cases hlabels
    next read hread =>
      obtain ⟨hchecked, hlabels⟩ := Option.ite_none_right_eq_some.mp hlabels
      cases hlabels
      rw [Bool.and_eq_true, List.all_eq_true] at hchecked
      rcases Text.mem_intercalate hc with rfl | ⟨w, hw, hc⟩
      · decide
      · obtain ⟨l, hl, rfl⟩ := List.mem_map.mp hw
        exact Address.forall_of_mapM (fun _ _ => isForbidden_of_readLabel?) hread l hl
          (hchecked.1 l hl) c hc

/-- A name that is plain ASCII is its own ASCII form. -/
theorem toAscii?_of_plain {name : List Char} (hchars : ∀ c ∈ name, c ∈ plainChars)
    (hlabels : ∀ l ∈ Text.CodePoints.cut '.' name, ¬acePrefix <+: l) :
    toAscii? name = some name := by
  have hlower : plainChars.all (fun c => c.toLower = c) = true := by decide
  have hsame : name.map Char.toLower = name := by
    refine (List.map_congr_left fun c hc => ?_).trans (List.map_id name)
    exact of_decide_eq_true (List.all_eq_true.mp hlower c (hchars c hc))
  unfold toAscii?
  rw [plain?_eq_some_iff.mpr ⟨hsame, hchars, hlabels⟩]

/-- Digits and points make up a name that is plain ASCII. -/
theorem toAscii?_of_isDigit {cs : List Char} (h : ∀ c ∈ cs, c.isDigit = true ∨ c = '.') :
    toAscii? cs = some cs := by
  have hcodes : ∀ n < 128, (Char.ofNat n).isDigit = true → Char.ofNat n ∈ plainChars := by
    decide +kernel
  refine toAscii?_of_plain (fun c hc => ?_) fun l hl hprefix => ?_
  · rcases h c hc with hdigit | rfl
    · have hrange := Text.isDigit_iff.mp hdigit
      exact Text.forall_of_codes (p := fun c => c.isDigit = true → c ∈ plainChars) hcodes
        (by omega) hdigit
    · decide
  · have hx : 'x' ∈ l := hprefix.subset (List.mem_cons_self ..)
    rcases h 'x' (Text.mem_of_mem_cut hl hx).1 with h | h <;> cases h

end Idna

end Possession.Web
