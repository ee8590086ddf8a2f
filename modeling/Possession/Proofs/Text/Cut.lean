import Mathlib.Data.List.TakeWhile
import Possession.Text.CodePoints

/-!
# Cutting texts

Texts are cut at each occurrence of a character, or at the last one. A cut undoes what put
the pieces together, as long as no piece contains the character:

> `cut_intercalate`: pieces with a separator between them are the pieces of the cut at it;
> `cutLast_eq_some_iff`: a cut at the last separator gives what stands before it and a piece
> without it, and nothing else.
-/

namespace Possession.Text

open CodePoints (cut cutLast)

variable {sep : Char}

theorem cut_eq_splitOn (cs : List Char) : cut sep cs = cs.splitOn sep := by
  induction cs with
  | nil => rfl
  | cons c cs ih =>
    unfold cut List.splitOn
    rw [ih, List.splitOnP_cons_eq_if_modifyHead]
    cases hcut : cs.splitOn sep with
    | nil => exact absurd hcut (List.splitOnP_ne_nil _ cs)
    | cons w ws =>
      unfold List.splitOn at hcut
      rw [hcut]
      by_cases hc : c = sep
      · simp [hc]
      · simp [hc]

/-- Pieces without the separator are the pieces of the text they make up. -/
theorem cut_intercalate {ws : List (List Char)} (h : ∀ w ∈ ws, sep ∉ w) (hne : ws ≠ []) :
    cut sep ([sep].intercalate ws) = ws := by
  rw [cut_eq_splitOn, List.splitOn_intercalate sep h hne]

/-- The pieces with the separator between them are the text. -/
theorem intercalate_cut (cs : List Char) : [sep].intercalate (cut sep cs) = cs := by
  rw [cut_eq_splitOn, List.intercalate_splitOn]

/-- What stands in pieces put together is the separator or stands in a piece. -/
theorem mem_intercalate {ws : List (List Char)} {c : Char} (h : c ∈ [sep].intercalate ws) :
    c = sep ∨ ∃ w ∈ ws, c ∈ w := by
  induction ws with
  | nil => cases h
  | cons w ws ih =>
    cases ws with
    | nil => exact .inr ⟨w, List.mem_singleton_self w, by simpa using h⟩
    | cons v ws =>
      rw [List.intercalate_cons_cons, List.append_assoc, List.mem_append, List.mem_append,
        List.mem_singleton] at h
      rcases h with h | h | h
      · exact .inr ⟨w, List.mem_cons_self .., h⟩
      · exact .inl h
      · rcases ih h with h | ⟨u, hu, hc⟩
        · exact .inl h
        · exact .inr ⟨u, List.mem_cons_of_mem w hu, hc⟩

theorem cut_ne_nil (cs : List Char) : cut sep cs ≠ [] := by
  rw [cut_eq_splitOn]
  exact List.splitOnP_ne_nil _ cs

/-- The pieces of a text stand in it, and are without the separator. -/
theorem mem_of_mem_cut {cs w : List Char} (hw : w ∈ cut sep cs) {c : Char} (hc : c ∈ w) :
    c ∈ cs ∧ c ≠ sep := by
  induction cs generalizing w with
  | nil =>
    rw [cut, List.mem_singleton] at hw
    rw [hw] at hc
    cases hc
  | cons d cs ih =>
    have hlater : ∀ {v}, v ∈ cut sep cs → c ∈ v → c ∈ d :: cs ∧ c ≠ sep := fun hv hcv =>
      ⟨List.mem_cons_of_mem d (ih hv hcv).1, (ih hv hcv).2⟩
    unfold cut at hw
    split at hw
    next heq => exact absurd heq (cut_ne_nil cs)
    next v ws heq =>
      rw [heq] at hlater
      by_cases hd : d = sep
      · rw [if_pos hd] at hw
        rcases List.mem_cons.mp hw with rfl | hw
        · cases hc
        · exact hlater hw hc
      · rw [if_neg hd] at hw
        rcases List.mem_cons.mp hw with rfl | hw
        · rcases List.mem_cons.mp hc with rfl | hc
          · exact ⟨List.mem_cons_self .., hd⟩
          · exact hlater (List.mem_cons_self ..) hc
        · exact hlater (List.mem_cons_of_mem v hw) hc

section Last

variable {before after : List Char}

theorem all_ne_of_not_mem (h : sep ∉ after) :
    ∀ c ∈ after.reverse, decide (c ≠ sep) = true := by
  intro c hc
  rw [List.mem_reverse] at hc
  exact decide_eq_true fun e => h (e ▸ hc)

theorem cutLast_of_not_mem (h : sep ∉ after) : cutLast sep after = none := by
  unfold cutLast
  rw [List.dropWhile_eq_nil_iff.mpr (all_ne_of_not_mem h)]

/-- A text is cut at a separator that is followed by none: the search from the end passes
what is behind it, and stops there. -/
theorem cutLast_append (h : sep ∉ after) :
    cutLast sep (before ++ sep :: after) = some (before, after) := by
  have hreverse :
    (before ++ sep :: after).reverse = after.reverse ++ sep :: before.reverse := by
    simp
  unfold cutLast
  rw [hreverse, List.dropWhile_append_of_pos (all_ne_of_not_mem h),
    List.takeWhile_append_of_pos (all_ne_of_not_mem h)]
  simp

/-- Where a text is cut there is a separator, and none behind it. -/
theorem eq_append_of_cutLast {cs : List Char} (h : cutLast sep cs = some (before, after)) :
    cs = before ++ sep :: after ∧ sep ∉ after := by
  unfold cutLast at h
  split at h
  next => cases h
  next c rest hstop =>
    cases h
    have hc : c = sep := by
      have hne : cs.reverse.dropWhile (· ≠ sep) ≠ [] := by
        rw [hstop]
        exact List.cons_ne_nil c rest
      have hnot := List.head_dropWhile_not (· ≠ sep) hne
      simp only [hstop, List.head_cons] at hnot
      exact not_not.mp (of_decide_eq_false hnot)
    refine ⟨?_, fun hmem => ?_⟩
    · have hsplit :=
        List.takeWhile_append_dropWhile (p := fun c => decide (c ≠ sep)) (l := cs.reverse)
      rw [hstop, hc] at hsplit
      simpa using (congrArg List.reverse hsplit).symm
    · have hne := List.mem_takeWhile_imp (List.mem_reverse.mp hmem)
      exact absurd rfl (of_decide_eq_true hne)

/-- The last separator is where a text is cut. -/
theorem cutLast_eq_some_iff {cs : List Char} :
    cutLast sep cs = some (before, after) ↔ cs = before ++ sep :: after ∧ sep ∉ after := by
  constructor
  · exact eq_append_of_cutLast
  · intro h
    obtain ⟨rfl, hafter⟩ := h
    exact cutLast_append hafter

end Last

end Possession.Text
