import Possession.Proofs.Result
import Possession.Proofs.Text.Cut
import Possession.Token.Layout

/-!
# Taking a token text apart and putting it together

Taking apart cuts a text at each underscore and looks at the pieces. No character of a label
or of a block is an underscore, so putting the pieces together again is undone by the cut:

> `parse_eq_ok_iff`: a text is taken apart into a layout exactly if the parts of the layout
> are a label, if any, and two blocks of the right widths, and the text is those parts put
> together.

So a text has one layout, and a layout has one text.
-/

namespace Possession.Token

/-- A label as an operation takes it: there is none, or it is one. -/
def LabelOk (label : Option String) : Prop := ∀ l ∈ label, isLabel l

instance (label : Option String) : Decidable (LabelOk label) :=
  match label with
  | none => isTrue nofun
  | some l => decidable_of_iff (isLabel l = true) (by simp [LabelOk])

namespace Layout

/-! ### Layouts that can be read back -/

/-- The parts of a layout are a label, if any, and two blocks. -/
structure WellFormed (t : Layout) : Prop where
  label : LabelOk t.label
  payload : isPayloadBlock t.payload.toList
  sealedBlock : isSealedBlock t.sealedBlock.toList

/-- The parts of a layout in the order in which they are written. -/
def parts (t : Layout) : List (List Char) :=
  (t.label.map String.toList).toList ++ [t.payload.toList, t.sealedBlock.toList]

theorem parts_ne_nil (t : Layout) : t.parts ≠ [] := by
  simp [parts]

theorem toList_render (t : Layout) : t.render.toList = ['_'].intercalate t.parts := by
  unfold render parts
  cases t.label <;> simp [List.intercalate]

/-- Characters of one kind do not contain an underscore that is not of this kind. -/
theorem not_mem_of_all {p : Char → Bool} {cs : List Char} (hp : p '_' = false)
    (h : cs.all p = true) : '_' ∉ cs := by
  intro hmem
  have := List.all_eq_true.mp h '_' hmem
  rw [hp] at this
  cases this

theorem WellFormed.not_mem_parts {t : Layout} (h : t.WellFormed) :
    ∀ w ∈ t.parts, '_' ∉ w := by
  obtain ⟨hlabel, hpayload, hsealed⟩ := h
  unfold isPayloadBlock at hpayload
  unfold isSealedBlock at hsealed
  rw [Bool.and_eq_true] at hpayload hsealed
  intro w hw
  unfold parts at hw
  rw [List.mem_append] at hw
  rcases hw with hw | hw
  · obtain ⟨l, hl, rfl⟩ : ∃ l ∈ t.label, l.toList = w := by simpa using hw
    have hchars := hlabel l hl
    unfold Token.isLabel isLabel at hchars
    rw [Bool.and_eq_true] at hchars
    exact not_mem_of_all (by decide) hchars.2
  · rw [List.mem_cons, List.mem_singleton] at hw
    rcases hw with rfl | rfl
    · exact not_mem_of_all (by decide) hpayload.2
    · exact not_mem_of_all (by decide) hsealed.2

/-- The pieces of a well-formed layout's text are its parts. -/
theorem WellFormed.cut_render {t : Layout} (h : t.WellFormed) :
    Text.CodePoints.cut '_' t.render.toList = t.parts := by
  rw [toList_render, Text.cut_intercalate h.not_mem_parts t.parts_ne_nil]

/-- A text with the pieces of a layout is the layout's text. -/
theorem render_eq_of_cut {t : Layout} {text : String}
    (h : Text.CodePoints.cut '_' text.toList = t.parts) : t.render = text := by
  apply String.toList_inj.mp
  rw [toList_render, ← h, Text.intercalate_cut]

/-- A layout that a text is taken apart into is well formed, and its text is this text. -/
theorem wellFormed_of_parse? {text : String} {t : Layout} (h : parse? text = some t) :
    t.WellFormed ∧ t.render = text := by
  unfold parse? at h
  split at h
  next p s hcut =>
    -- two blocks without a label
    split at h
    next hblocks =>
      cases h
      rw [Bool.and_eq_true] at hblocks
      refine ⟨⟨nofun, ?_, ?_⟩, render_eq_of_cut ?_⟩
      · rw [String.toList_ofList]
        exact hblocks.1
      · rw [String.toList_ofList]
        exact hblocks.2
      · rw [hcut]
        simp [parts]
    next => cases h
  next l p s hcut =>
    -- a label and two blocks
    split at h
    next hblocks =>
      cases h
      rw [Bool.and_eq_true, Bool.and_eq_true] at hblocks
      obtain ⟨⟨hlabel, hpayload⟩, hsealed⟩ := hblocks
      refine ⟨⟨?_, ?_, ?_⟩, render_eq_of_cut ?_⟩
      · intro x hx
        cases hx
        unfold Token.isLabel
        rw [String.toList_ofList]
        exact hlabel
      · rw [String.toList_ofList]
        exact hpayload
      · rw [String.toList_ofList]
        exact hsealed
      · rw [hcut]
        simp [parts]
    next => cases h
  next => cases h

/-- The text of a well-formed layout is taken apart into this layout. -/
theorem WellFormed.parse?_render {t : Layout} (hw : t.WellFormed) :
    parse? t.render = some t := by
  have hcut := hw.cut_render
  obtain ⟨hlabel, hpayload, hsealed⟩ := hw
  obtain ⟨label, payload, sealedBlock⟩ := t
  unfold parse?
  rw [hcut]
  cases label with
  | none =>
    show (if isPayloadBlock payload.toList && isSealedBlock sealedBlock.toList then _
      else _) = _
    rw [if_pos (by rw [hpayload, hsealed]; rfl), String.ofList_toList,
      String.ofList_toList]
  | some l =>
    have hl : isLabel l.toList = true := hlabel l rfl
    show (if isLabel l.toList && isPayloadBlock payload.toList &&
      isSealedBlock sealedBlock.toList then _ else _) = _
    rw [if_pos (by rw [hl, hpayload, hsealed]; rfl), String.ofList_toList,
      String.ofList_toList, String.ofList_toList]

/-- Taking apart accepts exactly the texts of well-formed layouts. -/
theorem parse?_eq_some_iff {text : String} {t : Layout} :
    parse? text = some t ↔ t.WellFormed ∧ t.render = text := by
  constructor
  · exact wellFormed_of_parse?
  · intro h
    obtain ⟨hw, rfl⟩ := h
    exact hw.parse?_render

theorem parse_eq_ok_iff {text : String} {t : Layout} :
    parse text = .ok t ↔ t.WellFormed ∧ t.render = text := by
  rw [← parse?_eq_some_iff]
  unfold parse
  cases parse? text <;> simp

end Layout

end Possession.Token
