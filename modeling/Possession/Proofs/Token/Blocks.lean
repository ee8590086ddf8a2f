import Possession.Proofs.Token.Layout
import Possession.Proofs.Token.Numeral

/-!
# What the blocks of a token are read as

A payload block is 22 characters wide, and 22 digits are enough for every number of sixteen
octets, so a block that is read as a payload is the one written for it. A sealed block is
written 59 characters wide, or 60 where 59 are not enough, and read in both widths:

> `decode_sealed_eq_ok_iff`: a sealed block is read as octets exactly if it is the block
> written for them, or that block with a zero in front where there is room for one.

`Layout.Spells` carries this over to token texts: each layout has the text it is written as,
and one more if its sealed block has room for a zero.
-/

namespace Possession.Token.Layout

/-! ### Blocks -/

theorem isBlockChar_digit : ∀ d < 62, isBlockChar (Base62.digit d) = true := by
  decide

theorem all_isBlockChar_encode (bs : Bytes) (width : Nat) :
    (Base62.encode bs width).toList.all isBlockChar = true := by
  rw [List.all_eq_true]
  intro c hc
  obtain ⟨d, hd, rfl⟩ := Base62.exists_digit_of_mem_encode hc
  exact isBlockChar_digit d hd

/-- Sixteen octets fill a payload block. -/
theorem length_encode_payload (o : Octets 16) :
    (Base62.encode o.bytes payloadWidth).length = payloadWidth := by
  have := Base62.length_encode_le o.bytes (Nat.le_refl payloadWidth)
    (by rw [o.length_eq]; decide)
  omega

/-- Forty-four octets fill a sealed block, or one character more. -/
theorem length_encode_sealed (o : Octets 44) :
    (Base62.encode o.bytes sealedWidth).length = sealedWidth ∨
      (Base62.encode o.bytes sealedWidth).length = sealedWidth + 1 := by
  have := Base62.length_encode_le o.bytes (Nat.le_succ sealedWidth)
    (by rw [o.length_eq]; decide)
  omega

theorem isPayloadBlock_encode (o : Octets 16) :
    isPayloadBlock (Base62.encode o.bytes payloadWidth).toList = true := by
  unfold isPayloadBlock
  rw [all_isBlockChar_encode, String.length_toList, length_encode_payload]
  rfl

theorem isSealedBlock_encode (o : Octets 44) :
    isSealedBlock (Base62.encode o.bytes sealedWidth).toList = true := by
  unfold isSealedBlock
  rw [all_isBlockChar_encode, String.length_toList]
  rcases length_encode_sealed o with h | h <;> rw [h] <;> rfl

/-- A payload block is read as a payload exactly if it is the block written for it. -/
theorem decode_payload_eq_ok_iff {block : String} {o : Octets 16}
    (h : isPayloadBlock block.toList = true) :
    Base62.decode 16 block = .ok o ↔ block = Base62.encode o.bytes payloadWidth := by
  unfold isPayloadBlock at h
  rw [Bool.and_eq_true, beq_iff_eq, String.length_toList] at h
  have hne : block ≠ "" := by
    intro hempty
    subst hempty
    exact absurd h.1 (by decide)
  rw [Base62.decode_eq_ok_iff_encode hne, h.1]
  exact eq_comm

/-- A sealed block is read as octets exactly if it is the block written for them, or that
block with a zero in front where the result is no wider than a sealed block may be. -/
theorem decode_sealed_eq_ok_iff {block : String} {o : Octets 44}
    (h : isSealedBlock block.toList = true) :
    Base62.decode 44 block = .ok o ↔
      block = Base62.encode o.bytes sealedWidth ∨
        (Base62.encode o.bytes sealedWidth).length = sealedWidth ∧
          block = "0" ++ Base62.encode o.bytes sealedWidth := by
  unfold isSealedBlock at h
  rw [Bool.and_eq_true, Bool.or_eq_true, beq_iff_eq, beq_iff_eq, String.length_toList] at h
  have hne : block ≠ "" := by
    intro hempty
    subst hempty
    exact absurd h.1 (by decide)
  rw [Base62.decode_eq_ok_iff_encode hne]
  rcases h.1 with hlen | hlen
  · rw [hlen]
    constructor
    · intro heq
      exact Or.inl heq.symm
    · intro h
      rcases h with heq | ⟨hshort, heq⟩
      · exact heq.symm
      · -- a zero in front of the narrow form makes it too wide
        rw [heq, String.length_append, hshort] at hlen
        exact absurd hlen (by decide)
  · rw [hlen, Base62.encode_succ]
    split
    next hshort =>
      constructor
      · intro heq
        exact Or.inr ⟨hshort, heq.symm⟩
      · intro h
        rcases h with heq | ⟨-, heq⟩
        · rw [heq, hshort] at hlen
          exact absurd hlen (by decide)
        · exact heq.symm
    next hwide =>
      constructor
      · intro heq
        exact Or.inl heq.symm
      · intro h
        rcases h with heq | ⟨hshort, -⟩
        · exact heq.symm
        · exact absurd hshort hwide

/-! ### Texts -/

/-- A layout with one zero in front of its sealed block. -/
def widen (t : Layout) : Layout := { t with sealedBlock := "0" ++ t.sealedBlock }

/-- The texts that say what a layout says: its own, and the widened one where its sealed
block has room for a zero. -/
def Spells (t : Layout) (text : String) : Prop :=
  text = t.render ∨ t.sealedBlock.length = sealedWidth ∧ text = t.widen.render

/-- A widened layout can be read back if the block had room for a zero. -/
theorem WellFormed.widen {t : Layout} (h : t.WellFormed)
    (hshort : t.sealedBlock.length = sealedWidth) : t.widen.WellFormed := by
  refine ⟨h.label, h.payload, ?_⟩
  have hblock := h.sealedBlock
  unfold isSealedBlock at hblock ⊢
  rw [Bool.and_eq_true] at hblock
  have hchars : t.widen.sealedBlock.toList = '0' :: t.sealedBlock.toList := by
    show ("0" ++ t.sealedBlock).toList = _
    rw [String.toList_append]
    rfl
  rw [hchars, List.length_cons, String.length_toList, hshort, List.all_cons, hblock.2]
  rfl

theorem length_render_widen (t : Layout) : t.widen.render.length = t.render.length + 1 := by
  have hzero : ∀ front : String,
      (front ++ ("0" ++ t.sealedBlock)).length = (front ++ t.sealedBlock).length + 1 := by
    intro front
    rw [String.length_append, String.length_append, String.length_append,
      show "0".length = 1 from rfl]
    omega
  unfold widen render
  cases t.label with
  | none => exact hzero _
  | some l => exact hzero _

/-- Two texts of one length that say what a layout says are the same. -/
theorem Spells.eq_of_length {t : Layout} {a b : String} (ha : t.Spells a) (hb : t.Spells b)
    (h : a.length = b.length) : a = b := by
  have hwide := t.length_render_widen
  rcases ha with rfl | ⟨-, rfl⟩
  · rcases hb with rfl | ⟨-, rfl⟩
    · rfl
    · omega
  · rcases hb with rfl | ⟨-, rfl⟩
    · omega
    · rfl

end Possession.Token.Layout
