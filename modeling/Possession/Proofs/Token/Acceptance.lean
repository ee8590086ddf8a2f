import Possession.Proofs.Text.Digits
import Possession.Proofs.Token.Opening

/-!
# The answer to every text

`opens_iff_spells` compares what opens with what a mint makes. This file says it without a
mint, and says the rest too: for each text there is, whether it opens, and if not, why. A
text can go wrong in two ways only. Either it is no token at all: it has not the shape of
one, or one of its blocks writes a number that is too large for its octets. Or it is a
token, and its tag is not the code of what it says:

> `openToken_of_holds`: a token is opened, or refused as not authentic, by its tag alone;
> `openToken_eq_format_iff`: the texts that are refused as malformed are those that are no
> tokens.

The shape is stated by characters and widths (`Layout.Shaped`), and a block by the number
that it writes in base 62 (`Layout.Holds`), so neither speaks of how a text is cut or a
block is read.
-/

namespace Possession.Token

namespace Layout

/-! ### Shape -/

/-- The shape of a token: a label of small letters, digits and hyphens, if there is one, a
block of 22 letters and digits, and a block of 59 or 60 of them. -/
structure Shaped (t : Layout) : Prop where
  label : ∀ l ∈ t.label, l ≠ "" ∧ ∀ c ∈ l.toList, c.isLower ∨ c.isDigit ∨ c = '-'
  payload : t.payload.length = 22 ∧ ∀ c ∈ t.payload.toList, c.isAlphanum
  sealedBlock : (t.sealedBlock.length = 59 ∨ t.sealedBlock.length = 60) ∧
    ∀ c ∈ t.sealedBlock.toList, c.isAlphanum

theorem isLower_iff {c : Char} : c.isLower = true ↔ 97 ≤ c.toNat ∧ c.toNat ≤ 122 := by
  unfold Char.isLower
  rw [Bool.and_eq_true, decide_eq_true_iff, decide_eq_true_iff]
  exact Iff.rfl

theorem isUpper_iff {c : Char} : c.isUpper = true ↔ 65 ≤ c.toNat ∧ c.toNat ≤ 90 := by
  unfold Char.isUpper
  rw [decide_eq_true_iff]
  exact Iff.rfl

theorem isLabelChar_iff {c : Char} :
    isLabelChar c = true ↔ c.isLower ∨ c.isDigit ∨ c = '-' := by
  unfold isLabelChar
  simp only [Bool.or_eq_true, Bool.and_eq_true, decide_eq_true_eq, beq_iff_eq, isLower_iff,
    Text.isDigit_iff, or_assoc]

theorem isBlockChar_iff {c : Char} : isBlockChar c = true ↔ c.isAlphanum := by
  unfold isBlockChar Char.isAlphanum Char.isAlpha
  simp only [Bool.or_eq_true, Bool.and_eq_true, decide_eq_true_eq, isLower_iff, isUpper_iff,
    Text.isDigit_iff]
  tauto

/-- The layouts that can be read back are those with the shape of a token. -/
theorem wellFormed_iff_shaped {t : Layout} : t.WellFormed ↔ t.Shaped := by
  have hlabel : LabelOk t.label ↔
      ∀ l ∈ t.label, l ≠ "" ∧ ∀ c ∈ l.toList, c.isLower ∨ c.isDigit ∨ c = '-' := by
    unfold LabelOk Token.isLabel isLabel
    simp [isLabelChar_iff]
  have hpayload : isPayloadBlock t.payload.toList = true ↔
      t.payload.length = 22 ∧ ∀ c ∈ t.payload.toList, c.isAlphanum := by
    unfold isPayloadBlock payloadWidth
    rw [String.length_toList]
    simp [isBlockChar_iff]
  have hsealed : isSealedBlock t.sealedBlock.toList = true ↔
      (t.sealedBlock.length = 59 ∨ t.sealedBlock.length = 60) ∧
        ∀ c ∈ t.sealedBlock.toList, c.isAlphanum := by
    unfold isSealedBlock sealedWidth
    rw [String.length_toList]
    simp [isBlockChar_iff]
  constructor
  · intro h
    exact ⟨hlabel.mp h.label, hpayload.mp h.payload, hsealed.mp h.sealedBlock⟩
  · intro h
    exact ⟨hlabel.mpr h.label, hpayload.mpr h.payload, hsealed.mpr h.sealedBlock⟩

/-! ### Numbers -/

/-- The number that a block writes in base 62. -/
def numeral (block : String) : Nat := Base62.number (Bytes.ofString block)

/-- A block of letters and digits is a numeral. -/
theorem isSome_value?_of_isAlphanum {block : String}
    (h : ∀ c ∈ block.toList, c.isAlphanum) :
    ∀ b ∈ Bytes.ofString block, (Base62.value? b).isSome := by
  have hcode : ∀ c ∈ block.toList, c.toNat < 128 ∧
      (Base62.value? (UInt8.ofNat c.toNat)).isSome := by
    intro c hc
    have hblock := isBlockChar_iff.mpr (h c hc)
    unfold isBlockChar at hblock
    simp only [Bool.or_eq_true, Bool.and_eq_true, decide_eq_true_eq] at hblock
    have hsmall : c.toNat < 128 := by omega
    have hnat : (UInt8.ofNat c.toNat).toNat = c.toNat := UInt8.toNat_ofNat_of_lt' (by
      show c.toNat < 256
      omega)
    refine ⟨hsmall, ?_⟩
    rw [Option.isSome_iff_exists]
    simp only [Base62.value?_eq_some_iff, hnat]
    rcases hblock with (hlow | hup) | hdig
    · exact ⟨c.toNat - 87, Or.inr (Or.inl (by omega))⟩
    · exact ⟨c.toNat - 29, Or.inr (Or.inr (by omega))⟩
    · exact ⟨c.toNat - 48, Or.inl (by omega)⟩
  intro b hb
  rw [← String.ofList_toList (s := block),
    Bytes.ofString_ofList fun c hc => (hcode c hc).1] at hb
  obtain ⟨c, hc, rfl⟩ := List.mem_map.mp hb
  exact (hcode c hc).2

/-- A block of letters and digits is read as the octets that write its number. -/
theorem decode_eq_ok_iff_numeral {n : Nat} {block : String} {o : Octets n}
    (hne : block ≠ "") (h : ∀ c ∈ block.toList, c.isAlphanum) :
    Base62.decode n block = .ok o ↔ numeral block = o.toNat := by
  have hnil : Bytes.ofString block ≠ [] := by
    intro hnil
    exact hne (Bytes.ofString_injective (hnil.trans rfl))
  rw [Base62.decode_eq_ok_iff]
  constructor
  · intro hdec
    exact hdec.2.2
  · intro hnum
    exact ⟨hnil, isSome_value?_of_isAlphanum h, hnum⟩

theorem decode_eq_error {n : Nat} {block : String} {e : Error}
    (h : Base62.decode n block = .error e) : ∃ reason, e = .format reason := by
  obtain ⟨f, -, rfl⟩ := Result.mapError_eq_error.mp h
  exact ⟨_, rfl⟩

/-! ### Contents -/

/-- A layout with the shape of a token, whose blocks write a payload, and a nonce with a tag
behind it. -/
structure Holds (t : Layout) (payload : Payload) (nonce : Octets 12) (tag : Octets 32) :
    Prop where
  shaped : t.Shaped
  payload : numeral t.payload = payload.toNat
  sealedBlock : numeral t.sealedBlock = (nonce.append tag).toNat

theorem Shaped.payload_ne_empty {t : Layout} (h : t.Shaped) : t.payload ≠ "" := by
  intro hempty
  have hlen := h.payload.1
  rw [hempty] at hlen
  exact absurd hlen (by decide)

theorem Shaped.sealedBlock_ne_empty {t : Layout} (h : t.Shaped) : t.sealedBlock ≠ "" := by
  intro hempty
  have hlen := h.sealedBlock.1
  rw [hempty] at hlen
  exact absurd hlen (by decide)

theorem Shaped.decode_payload {t : Layout} (h : t.Shaped) {o : Octets 16} :
    Base62.decode 16 t.payload = .ok o ↔ numeral t.payload = o.toNat :=
  decode_eq_ok_iff_numeral h.payload_ne_empty h.payload.2

theorem Shaped.decode_sealedBlock {t : Layout} (h : t.Shaped) {o : Octets 44} :
    Base62.decode 44 t.sealedBlock = .ok o ↔ numeral t.sealedBlock = o.toNat :=
  decode_eq_ok_iff_numeral h.sealedBlock_ne_empty h.sealedBlock.2

/-- A layout of the right shape holds something if its blocks can be read. -/
theorem Shaped.exists_holds {t : Layout} (h : t.Shaped)
    (hpayload : ∃ o, Base62.decode 16 t.payload = .ok o)
    (hsealed : ∃ o, Base62.decode 44 t.sealedBlock = .ok o) :
    ∃ payload nonce tag, t.Holds payload nonce tag := by
  obtain ⟨payload, hpayload⟩ := hpayload
  obtain ⟨o, hsealed⟩ := hsealed
  obtain ⟨nonce, tag, rfl⟩ := Octets.exists_eq_append (m := 12) (n := 32) o
  exact ⟨payload, nonce, tag, h, h.decode_payload.mp hpayload,
    h.decode_sealedBlock.mp hsealed⟩

/-- A layout of the right shape holds something exactly if the numbers fit. -/
theorem exists_holds_iff {t : Layout} :
    (∃ payload nonce tag, t.Holds payload nonce tag) ↔
      t.Shaped ∧ numeral t.payload < 2 ^ 128 ∧ numeral t.sealedBlock < 2 ^ 352 := by
  have hpayload : 2 ^ 128 = 256 ^ 16 := by
    rw [show 256 = 2 ^ 8 from rfl, ← pow_mul]
  have hsealed : 2 ^ 352 = 256 ^ 44 := by
    rw [show 256 = 2 ^ 8 from rfl, ← pow_mul]
  rw [hpayload, hsealed, ← Octets.exists_toNat_iff, ← Octets.exists_toNat_iff]
  constructor
  · intro h
    obtain ⟨payload, nonce, tag, hshaped, hpayload, hsealed⟩ := h
    exact ⟨hshaped, ⟨payload, hpayload⟩, ⟨nonce.append tag, hsealed⟩⟩
  · intro h
    obtain ⟨hshaped, ⟨payload, hpayload⟩, ⟨o, hsealed⟩⟩ := h
    exact hshaped.exists_holds ⟨payload, hshaped.decode_payload.mpr hpayload⟩
      ⟨o, hshaped.decode_sealedBlock.mpr hsealed⟩

end Layout

/-! ### Answers -/

/-- A message is the domain, the label with its separator, if there is one, and the
payload. -/
theorem macMessage_eq (label : Option String) (payload : Payload) :
    macMessage label payload =
      macDomain ++ Bytes.ofString (label.elim "" (· ++ "_")) ++ payload.bytes := by
  cases label with
  | none => exact congrArg (· ++ payload.bytes) (List.append_nil macDomain).symm
  | some l =>
    show _ = macDomain ++ Bytes.ofString (l ++ "_") ++ payload.bytes
    rw [Bytes.ofString_append, ← List.append_assoc]
    rfl

variable {M : MacScheme} {secret : Secret}

/-- A text that is a token opens with what it says, or is not authentic; its tag decides. -/
theorem openToken_of_holds {t : Layout} {payload : Payload} {nonce : Octets 12}
    {tag : Octets 32} (h : t.Holds payload nonce tag) :
    M.openToken secret t.render =
      if tag = M.code secret nonce t.label payload then .ok ⟨t.label, payload⟩
      else .error (.authentication "Opaque token MAC mismatch") := by
  have hparse : Layout.parse t.render = .ok t :=
    Layout.parse_eq_ok_iff.mpr ⟨Layout.wellFormed_iff_shaped.mpr h.shaped, rfl⟩
  have hpayload := h.shaped.decode_payload.mpr h.payload
  have hsealed := h.shaped.decode_sealedBlock.mpr h.sealedBlock
  have hfit := Octets.fit_append nonce tag
  have hdrop := Octets.drop_append nonce tag
  have hsame : Bytes.sameAs (M.code secret nonce t.label payload).bytes tag.bytes = true ↔
      tag = M.code secret nonce t.label payload := by
    rw [Bytes.sameAs_eq_true_iff]
    exact ⟨fun he => Octets.ext he.symm, fun he => by rw [← he]⟩
  unfold MacScheme.openToken
  rw [hparse]
  show (Base62.decode 16 t.payload >>= _) = _
  rw [hpayload]
  show (Base62.decode 44 t.sealedBlock >>= _) = _
  rw [hsealed]
  show (if Bytes.sameAs (M.code secret (Octets.fit 12 (nonce.append tag).bytes) t.label
    payload).bytes ((nonce.append tag).bytes.drop 12) = true then _ else _) = _
  rw [hfit, hdrop]
  by_cases htag : tag = M.code secret nonce t.label payload
  · rw [if_pos htag, if_pos (hsame.mpr htag)]
  · rw [if_neg htag, if_neg (mt hsame.mp htag)]

/-- A text that is no token is refused as malformed. -/
theorem openToken_of_not_holds {text : String}
    (h : ¬ ∃ (t : Layout) (payload : Payload) (nonce : Octets 12) (tag : Octets 32),
        t.render = text ∧ t.Holds payload nonce tag) :
    ∃ reason, M.openToken secret text = .error (.format reason) := by
  cases hopen : M.openToken secret text with
  | ok o =>
    obtain ⟨t, nonce, hparse, hreads⟩ := openToken_eq_ok_iff.mp hopen
    obtain ⟨hw, hrender⟩ := Layout.parse_eq_ok_iff.mp hparse
    have hshaped := Layout.wellFormed_iff_shaped.mp hw
    exact absurd ⟨t, o.payload, nonce, _, hrender, hshaped,
      hshaped.decode_payload.mp hreads.2.1, hshaped.decode_sealedBlock.mp hreads.2.2⟩ h
  | error e =>
    unfold MacScheme.openToken at hopen
    rcases Result.bind_eq_error.mp hopen with hparse | ⟨t, hparse, hopen⟩
    · unfold Layout.parse at hparse
      split at hparse
      · cases hparse
      · cases hparse
        exact ⟨_, rfl⟩
    rcases Result.bind_eq_error.mp hopen with hpayload | ⟨payload, hpayload, hopen⟩
    · obtain ⟨reason, rfl⟩ := Layout.decode_eq_error hpayload
      exact ⟨reason, rfl⟩
    rcases Result.bind_eq_error.mp hopen with hsealed | ⟨o, hsealed, -⟩
    · obtain ⟨reason, rfl⟩ := Layout.decode_eq_error hsealed
      exact ⟨reason, rfl⟩
    -- all parts of the text have been read, so it is a token after all
    obtain ⟨hw, hrender⟩ := Layout.parse_eq_ok_iff.mp hparse
    have hshaped := Layout.wellFormed_iff_shaped.mp hw
    obtain ⟨payload', nonce, tag, hholds⟩ :=
      hshaped.exists_holds ⟨payload, hpayload⟩ ⟨o, hsealed⟩
    exact absurd ⟨t, payload', nonce, tag, hrender, hholds⟩ h

/-- The texts that are refused as malformed are those that are no tokens. -/
theorem openToken_eq_format_iff {text : String} :
    (∃ reason, M.openToken secret text = .error (.format reason)) ↔
      ¬ ∃ (t : Layout) (payload : Payload) (nonce : Octets 12) (tag : Octets 32),
        t.render = text ∧ t.Holds payload nonce tag := by
  constructor
  · intro h htoken
    obtain ⟨reason, hformat⟩ := h
    obtain ⟨t, payload, nonce, tag, rfl, hholds⟩ := htoken
    rw [openToken_of_holds hholds] at hformat
    split at hformat <;> cases hformat
  · exact openToken_of_not_holds

/-- A text that is not refused as malformed is a token. -/
theorem exists_holds_of_openToken {text : String} {r : Result Opened}
    (h : M.openToken secret text = r) (hr : ∀ reason, r ≠ .error (.format reason)) :
    ∃ (t : Layout) (payload : Payload) (nonce : Octets 12) (tag : Octets 32),
      t.render = text ∧ t.Holds payload nonce tag := by
  by_contra hnot
  obtain ⟨reason, hformat⟩ : ∃ reason, M.openToken secret text = .error (.format reason) :=
    openToken_of_not_holds hnot
  exact hr reason (h.symm.trans hformat)

/-- **The answer to every text.** A text opens with a label and a payload exactly if it is a
token that says them, whose tag is the code of the domain, the label with its separator, and
the payload, under the key for its nonce. It is refused as not authentic exactly if it is a
token with another tag, and as malformed exactly if it is no token. Extracting the payload
and verifying agree with opening. -/
theorem opens_exactly_tokens (M : MacScheme) (secret : Secret) (text : String) :
    (∀ label payload, M.openToken secret text = .ok ⟨label, payload⟩ ↔
      ∃ (t : Layout) (nonce : Octets 12) (tag : Octets 32),
        t.render = text ∧ t.label = label ∧ t.Holds payload nonce tag ∧
        tag = M.mac (M.derive secret.bytes nonce.bytes)
          (macDomain ++ Bytes.ofString (label.elim "" (· ++ "_")) ++ payload.bytes)) ∧
    ((∃ reason, M.openToken secret text = .error (.authentication reason)) ↔
      ∃ (t : Layout) (payload : Payload) (nonce : Octets 12) (tag : Octets 32),
        t.render = text ∧ t.Holds payload nonce tag ∧
        tag ≠ M.mac (M.derive secret.bytes nonce.bytes)
          (macDomain ++ Bytes.ofString (t.label.elim "" (· ++ "_")) ++ payload.bytes)) ∧
    ((∃ reason, M.openToken secret text = .error (.format reason)) ↔
      ¬ ∃ t : Layout, t.render = text ∧ t.Shaped ∧ Layout.numeral t.payload < 2 ^ 128 ∧
        Layout.numeral t.sealedBlock < 2 ^ 352) ∧
    (∀ payload, M.extract secret text = .ok payload ↔
      ∃ label, M.openToken secret text = .ok ⟨label, payload⟩) ∧
    (M.verify secret text = .ok () ↔ ∃ o, M.openToken secret text = .ok o) ∧
    ∀ e, (M.extract secret text = .error e ↔ M.openToken secret text = .error e) ∧
      (M.verify secret text = .error e ↔ M.openToken secret text = .error e) := by
  simp only [← macMessage_eq]
  refine ⟨?_, ?_, ?_, ?_, ?_, ?_⟩
  · intro label payload
    constructor
    · intro hopen
      obtain ⟨t, payload', nonce, tag, rfl, hholds⟩ := exists_holds_of_openToken hopen nofun
      rw [openToken_of_holds hholds] at hopen
      split at hopen
      next htag =>
        cases hopen
        exact ⟨t, nonce, tag, rfl, rfl, hholds, htag⟩
      next => cases hopen
    · intro h
      obtain ⟨t, nonce, tag, rfl, rfl, hholds, htag⟩ := h
      rw [openToken_of_holds hholds]
      exact if_pos htag
  · constructor
    · intro h
      obtain ⟨reason, hopen⟩ := h
      obtain ⟨t, payload, nonce, tag, rfl, hholds⟩ := exists_holds_of_openToken hopen nofun
      rw [openToken_of_holds hholds] at hopen
      split at hopen
      next => cases hopen
      next htag => exact ⟨t, payload, nonce, tag, rfl, hholds, htag⟩
    · intro h
      obtain ⟨t, payload, nonce, tag, rfl, hholds, htag⟩ := h
      rw [openToken_of_holds hholds]
      exact ⟨_, if_neg htag⟩
  · rw [openToken_eq_format_iff, not_iff_not]
    constructor
    · intro h
      obtain ⟨t, payload, nonce, tag, hrender, hholds⟩ := h
      exact ⟨t, hrender, Layout.exists_holds_iff.mp ⟨payload, nonce, tag, hholds⟩⟩
    · intro h
      obtain ⟨t, hrender, hfits⟩ := h
      obtain ⟨payload, nonce, tag, hholds⟩ := Layout.exists_holds_iff.mpr hfits
      exact ⟨t, payload, nonce, tag, hrender, hholds⟩
  · intro payload
    unfold MacScheme.extract
    rw [Result.map_eq_ok]
    constructor
    · intro h
      obtain ⟨⟨label, payload'⟩, hopen, hpayload⟩ := h
      cases hpayload
      exact ⟨label, hopen⟩
    · intro h
      obtain ⟨label, hopen⟩ := h
      exact ⟨_, hopen, rfl⟩
  · unfold MacScheme.verify
    rw [Result.map_eq_ok]
    simp
  · intro e
    exact ⟨Result.map_eq_error, Result.map_eq_error⟩

end Possession.Token
