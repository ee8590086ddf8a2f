import Possession.Json.Decode
import Possession.Proofs.Result

/-!
# Data in JSON values

What a value has to be for the data in it to be read. Each reader of `Json.Decode` accepts
one form of value for each thing that it gives, so reading is an equation on the value:

> `decodeString_eq_ok_iff`, `decodeInt64_eq_ok_iff`, `decodeOption_text_eq_ok_iff`: the
> value of a text, of an integer, and of a text that may be null;
> `field_eq_ok_some_iff`, `field_eq_ok_none_iff`: a member is read where it stands, or found
> absent;
> `fieldOnce_eq_ok_some_iff`: one that may not be repeated, where it stands alone.
-/

namespace Possession.Json

variable {α : Type} {name : String} {members : List (String × Json)} {v : Json}

/-! ## Values -/

/-- A text is read from a text. -/
theorem decodeString_eq_ok_iff {s : String} : decodeString v = .ok s ↔ v = .str s := by
  cases v <;> simp [decodeString, mismatch]

/-- An integer of 64 bits is read from an integer within their bounds. -/
theorem decodeInt64_eq_ok_iff {n : Int64} : decodeInt64 v = .ok n ↔ v = .int n.toInt := by
  have hlow : Int64.minValue.toInt ≤ n.toInt := n.minValue_le_toInt
  have hhigh : n.toInt ≤ Int64.maxValue.toInt := n.toInt_le
  unfold decodeInt64
  rw [Result.map_eq_ok]
  constructor
  · intro h
    obtain ⟨k, hk, rfl⟩ := h
    unfold decodeWithin at hk
    split at hk
    next m =>
      split at hk
      next hbounds =>
        cases hk
        have hmin : Int64.minValue.toInt = -2 ^ 63 := by decide
        have hmax : Int64.maxValue.toInt = 2 ^ 63 - 1 := by decide
        rw [Int64.toInt_ofInt_of_le (by omega) (by omega)]
      next => cases hk
    next => cases hk
  · intro h
    subst h
    exact ⟨n.toInt, if_pos ⟨hlow, hhigh⟩, n.ofInt_toInt⟩

/-- A text that may be null is read from null or from a text. -/
theorem decodeOption_text_eq_ok_iff {o : Option String} :
    decodeOption decodeString v = .ok o ↔ v = o.elim .null .str := by
  cases o with
  | none => cases v <;> simp [decodeOption, decodeString, mismatch, Except.map]
  | some s => cases v <;> simp [decodeOption, decodeString, mismatch, Except.map]

/-- Something that may be null is read from its own values, if null is none of them. -/
theorem decodeOption_eq_ok_some_iff {decode : Json → Decoded α} {a : α}
    (hnull : decode .null ≠ .ok a) :
    decodeOption decode v = .ok (some a) ↔ decode v = .ok a := by
  unfold decodeOption
  split
  · exact iff_of_false nofun hnull
  · rw [Result.map_eq_ok]
    simp

/-- A named value is read from its name, or from an object with the name and nothing
else. -/
theorem eq_of_decodeName {choices : List (String × α)} {a : α}
    (h : decodeName choices v = .ok a) :
    ∃ s, (s, a) ∈ choices ∧ (v = .str s ∨ v = .obj [(s, .null)]) := by
  have hpick : ∀ {s b}, decodeName.pick choices s = .ok b → (s, b) ∈ choices := by
    intro s b hs
    unfold decodeName.pick at hs
    split at hs
    next k c hfound =>
      cases hs
      have hk := List.find?_some hfound
      rw [← show k = s from eq_of_beq hk]
      exact List.mem_of_find?_eq_some hfound
    next => cases hs
  unfold decodeName at h
  split at h
  next s => exact ⟨s, hpick h, Or.inl rfl⟩
  next k w =>
    obtain ⟨b, hb, h⟩ := Result.bind_eq_ok.mp h
    split at h
    · cases h
      exact ⟨k, hpick hb, Or.inr rfl⟩
    · cases h
  next => cases h
  next => cases h

/-! ## Members -/

theorem require_eq_ok_iff {o : Option α} {a : α} : require name o = .ok a ↔ o = some a := by
  cases o with
  | none => exact iff_of_false nofun nofun
  | some b =>
    show Except.ok b = .ok a ↔ _
    rw [Except.ok.injEq, Option.some.injEq]

section Field

variable {decode : Json → Decoded α}

theorem field_eq_ok_none_iff : field name decode members = .ok none ↔
    lookup name members = none := by
  unfold field
  cases lookup name members with
  | none => exact iff_of_true rfl rfl
  | some v =>
    show (decode v).map some = .ok none ↔ _
    rw [Result.map_eq_ok]
    simp

theorem field_eq_ok_some_iff {a : α} :
    field name decode members = .ok (some a) ↔
      ∃ v, lookup name members = some v ∧ decode v = .ok a := by
  unfold field
  cases lookup name members with
  | none => exact iff_of_false nofun fun ⟨v, h, _⟩ => nomatch h
  | some v =>
    show (decode v).map some = .ok (some a) ↔ _
    rw [Result.map_eq_ok]
    simp

/-- A member that may not be repeated is read where it stands alone. -/
theorem fieldOnce_eq_ok_some_iff {a : α} :
    fieldOnce name decode members = .ok (some a) ↔
      ∃ v, members.filter (·.1 == name) = [(name, v)] ∧ decode v = .ok a := by
  unfold fieldOnce
  split
  next hnone => simp [hnone]
  next k v hone =>
    have hk : k = name := by
      have hmem : (k, v) ∈ members.filter (·.1 == name) := by
        rw [hone]
        exact List.mem_singleton_self _
      exact eq_of_beq (List.mem_filter.mp hmem).2
    subst hk
    rw [Result.map_eq_ok]
    simp [hone]
  next hnil hmany =>
    refine iff_of_false nofun ?_
    rintro ⟨v, hv, -⟩
    exact hmany _ _ hv

end Field

/-- A member is read as a text exactly if it is there and is this text. -/
theorem field_text_eq_ok_iff {s : String} :
    field name decodeString members = .ok (some s) ↔
      lookup name members = some (.str s) := by
  rw [field_eq_ok_some_iff]
  simp [decodeString_eq_ok_iff]

/-- A member is read as an integer of 64 bits exactly if it is there and is this integer. -/
theorem field_int64_eq_ok_iff {n : Int64} :
    field name decodeInt64 members = .ok (some n) ↔
      lookup name members = some (.int n.toInt) := by
  rw [field_eq_ok_some_iff]
  simp [decodeInt64_eq_ok_iff]

end Possession.Json
