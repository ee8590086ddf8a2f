import Possession.Proofs.Token.Blocks
import Possession.Token.Seal

/-!
# Which texts open

A mint writes a token from a label and from what it draws, a payload and a nonce; opening
reads the same three things back and computes the code again. Here the two are put against
each other, for any way to derive keys and compute codes:

> `minted_token_opens`: whatever a mint draws for a label it may use, it makes a token, and
> that token opens under its secret with this label and this payload;
> `opened_text_is_minted`: a text that opens is the token that a mint of the secret makes
> for what the text says, or that token with one zero in front of its sealed block.

Both come from `opens_iff_spells`, which says that the texts that open with given contents
and a given nonce are the spellings of the token sealed from them. There can be two, so a
text that opens is not fixed by its label, payload and nonce; with its length it is.
-/

namespace Possession.Token

/-! ### What a mint makes -/

/-- The next token of a mint is made from a payload and a nonce. -/
def Mint.Draws (m : Mint) (clock : Clock) (payload : Payload) (nonce : Octets 12) : Prop :=
  (m.nextPayload clock).1 = .ok payload ∧
    ((m.nextPayload clock).2.entropy.draw 12).1 = .ok nonce

theorem filter_isLabel_eq_none_iff {label : Option String} :
    label.filter (fun l => !isLabel l) = none ↔ LabelOk label := by
  unfold LabelOk
  rw [Option.filter_eq_none_iff]
  simp

/-- A mint makes a token exactly if the label is one and the draws succeed, and then it is
the token for what was drawn. -/
theorem Mint.generate_eq_ok_iff {M : MacScheme} {m : Mint} {clock : Clock}
    {label : Option String} {text : String} :
    (m.generate M clock label).1 = .ok text ↔
      LabelOk label ∧ ∃ payload nonce, m.Draws clock payload nonce ∧
        (M.sealToken m.secret nonce label payload).render = text := by
  unfold Mint.generate Mint.Draws
  rw [← filter_isLabel_eq_none_iff]
  split
  next l hfilter =>
    -- no label, so nothing is drawn
    constructor
    · intro h
      cases h
    · intro h
      obtain ⟨h, -⟩ := h
      rw [hfilter] at h
      cases h
  next hfilter =>
    cases hnext : m.nextPayload clock with
    | mk drawn m' =>
      -- drawing a payload moves the mint on but leaves its secret alone
      have hsecret : m'.secret = m.secret := by
        have : (m.nextPayload clock).2.secret = m.secret := rfl
        rwa [hnext] at this
      cases drawn with
      | error e =>
        constructor
        · intro h
          cases h
        · intro h
          obtain ⟨-, payload, nonce, ⟨h, -⟩, -⟩ := h
          cases h
      | ok payload =>
        cases hdraw : m'.entropy.draw 12 with
        | mk drawn entropy =>
          dsimp only
          rw [hdraw]
          cases drawn with
          | error e =>
            constructor
            · intro h
              cases h
            · intro h
              obtain ⟨-, _, nonce, ⟨-, h⟩, -⟩ := h
              cases h
          | ok nonce =>
            constructor
            · intro h
              cases h
              exact ⟨hfilter, payload, nonce, ⟨rfl, rfl⟩, by rw [hsecret]⟩
            · intro h
              obtain ⟨-, _, _, ⟨hp, hn⟩, h⟩ := h
              cases hp
              cases hn
              rw [← h, ← hsecret]

/-- There is a mint for each secret and each thing that it could draw. -/
theorem exists_mint_draws (secret : Secret) (clock : Clock) (payload : Payload)
    (nonce : Octets 12) : ∃ m : Mint, m.secret = secret ∧ m.Draws clock payload nonce := by
  refine ⟨⟨secret, .script nonce.bytes, .fixed payload⟩, rfl, rfl, ?_⟩
  show ((Entropy.script nonce.bytes).draw 12).1 = .ok nonce
  unfold Entropy.draw
  dsimp only
  rw [nonce.length_eq, if_neg (Nat.lt_irrefl 12), Octets.fit_bytes]

variable {M : MacScheme} {secret : Secret}

/-! ### What opens -/

/-- The nonce that a token text carries. -/
def nonceOf (text : String) : Result (Octets 12) := do
  let t ← Layout.parse text
  let sealedData ← Base62.decode 44 t.sealedBlock
  .ok (.fit 12 sealedData.bytes)

theorem nonceOf_eq_ok_iff {text : String} {nonce : Octets 12} :
    nonceOf text = .ok nonce ↔
      ∃ t sealedData, Layout.parse text = .ok t ∧
        Base62.decode 44 t.sealedBlock = .ok sealedData ∧
        .fit 12 sealedData.bytes = nonce := by
  unfold nonceOf
  constructor
  · intro h
    obtain ⟨t, hparse, h⟩ := Result.bind_eq_ok.mp h
    obtain ⟨sealedData, hsealed, h⟩ := Result.bind_eq_ok.mp h
    cases h
    exact ⟨t, sealedData, hparse, hsealed, rfl⟩
  · intro h
    obtain ⟨t, sealedData, hparse, hsealed, h⟩ := h
    refine Result.bind_eq_ok.mpr ⟨t, hparse, ?_⟩
    refine Result.bind_eq_ok.mpr ⟨sealedData, hsealed, ?_⟩
    rw [h]

/-- The blocks of a layout are read as a payload and as a nonce with the code of what the
layout says behind it. -/
def MacScheme.Reads (M : MacScheme) (secret : Secret) (t : Layout) (o : Opened)
    (nonce : Octets 12) : Prop :=
  t.label = o.label ∧ Base62.decode 16 t.payload = .ok o.payload ∧
    Base62.decode 44 t.sealedBlock =
      .ok (nonce.append (M.code secret nonce o.label o.payload))

/-- A text opens exactly if it has a layout that is read so. -/
theorem openToken_eq_ok_iff {text : String} {o : Opened} :
    M.openToken secret text = .ok o ↔
      ∃ t nonce, Layout.parse text = .ok t ∧ M.Reads secret t o nonce := by
  unfold MacScheme.openToken
  constructor
  · intro h
    obtain ⟨t, hparse, h⟩ := Result.bind_eq_ok.mp h
    obtain ⟨payload, hpayload, h⟩ := Result.bind_eq_ok.mp h
    obtain ⟨sealedData, hsealed, h⟩ := Result.bind_eq_ok.mp h
    dsimp only at h
    split at h
    next hsame =>
      cases h
      -- what follows the nonce is the code, so the octets read are the two put together
      have hdrop := (Bytes.sameAs_eq_true_iff.mp hsame).symm
      refine ⟨t, .fit 12 sealedData.bytes, hparse, rfl, hpayload, ?_⟩
      rw [hsealed, ← Octets.eq_append_of_drop hdrop]
    next => cases h
  · intro h
    obtain ⟨t, nonce, hparse, hlabel, hpayload, hsealed⟩ := h
    have hfit := Octets.fit_append nonce (M.code secret nonce o.label o.payload)
    have hdrop := Octets.drop_append nonce (M.code secret nonce o.label o.payload)
    refine Result.bind_eq_ok.mpr ⟨t, hparse, ?_⟩
    refine Result.bind_eq_ok.mpr ⟨o.payload, hpayload, ?_⟩
    refine Result.bind_eq_ok.mpr ⟨_, hsealed, ?_⟩
    dsimp only
    rw [hfit, hdrop, hlabel, if_pos (Bytes.sameAs_eq_true_iff.mpr rfl)]

/-- A text that opens carries a nonce. -/
theorem exists_nonceOf {text : String} {o : Opened} (h : M.openToken secret text = .ok o) :
    ∃ nonce, nonceOf text = .ok nonce := by
  obtain ⟨t, nonce, hparse, -, -, hsealed⟩ := openToken_eq_ok_iff.mp h
  exact ⟨_, nonceOf_eq_ok_iff.mpr ⟨t, _, hparse, hsealed, rfl⟩⟩

/-- A sealed token has a layout that can be read back. -/
theorem sealToken_wellFormed {label : Option String} (h : LabelOk label) (nonce : Octets 12)
    (payload : Payload) : (M.sealToken secret nonce label payload).WellFormed :=
  ⟨h, Layout.isPayloadBlock_encode payload, Layout.isSealedBlock_encode _⟩

/-- A layout that can be read back is read so exactly if it is the sealed token, up to a
zero in front of the sealed block. -/
theorem reads_iff_spells {t : Layout} (hw : t.WellFormed) {o : Opened} {nonce : Octets 12} :
    M.Reads secret t o nonce ↔
      t = M.sealToken secret nonce o.label o.payload ∨
        (M.sealToken secret nonce o.label o.payload).sealedBlock.length =
          Layout.sealedWidth ∧ t = (M.sealToken secret nonce o.label o.payload).widen := by
  unfold MacScheme.Reads
  rw [Layout.decode_payload_eq_ok_iff hw.payload,
    Layout.decode_sealed_eq_ok_iff hw.sealedBlock]
  obtain ⟨label, payload, sealedBlock⟩ := t
  constructor
  · intro h
    obtain ⟨hlabel, hpayload, hsealed⟩ := h
    dsimp only at hlabel hpayload hsealed
    rcases hsealed with hsealed | ⟨hshort, hsealed⟩
    · rw [hlabel, hpayload, hsealed]
      exact Or.inl rfl
    · rw [hlabel, hpayload, hsealed]
      exact Or.inr ⟨hshort, rfl⟩
  · intro h
    rcases h with h | ⟨hshort, h⟩
    · cases h
      exact ⟨rfl, rfl, Or.inl rfl⟩
    · cases h
      exact ⟨rfl, rfl, Or.inr ⟨hshort, rfl⟩⟩

/-- The texts that open with given contents and a given nonce are the spellings of the token
sealed from them. -/
theorem opens_iff_spells {text : String} {o : Opened} {nonce : Octets 12} :
    M.openToken secret text = .ok o ∧ nonceOf text = .ok nonce ↔
      LabelOk o.label ∧ (M.sealToken secret nonce o.label o.payload).Spells text := by
  constructor
  · intro h
    obtain ⟨hopen, hnonce⟩ := h
    obtain ⟨t, nonce', hparse, hreads⟩ := openToken_eq_ok_iff.mp hopen
    -- the nonce that the text carries is the one in front of the code
    obtain ⟨t', sealedData, hparse', hsealed, hfit⟩ := nonceOf_eq_ok_iff.mp hnonce
    rw [hparse] at hparse'
    cases hparse'
    rw [hreads.2.2] at hsealed
    cases hsealed
    rw [Octets.fit_append] at hfit
    subst hfit
    obtain ⟨hw, hrender⟩ := Layout.parse_eq_ok_iff.mp hparse
    have hlabel := hw.label
    rw [hreads.1] at hlabel
    refine ⟨hlabel, ?_⟩
    rcases (reads_iff_spells hw).mp hreads with h | ⟨hshort, h⟩
    · rw [h] at hrender
      exact Or.inl hrender.symm
    · rw [h] at hrender
      exact Or.inr ⟨hshort, hrender.symm⟩
  · intro h
    obtain ⟨hlabel, hspells⟩ := h
    have hw : (M.sealToken secret nonce o.label o.payload).WellFormed :=
      sealToken_wellFormed hlabel nonce o.payload
    -- either spelling is the text of a layout that says what was sealed
    obtain ⟨t, hparse, hreads⟩ :
      ∃ t, Layout.parse text = .ok t ∧ M.Reads secret t o nonce := by
      rcases hspells with h | ⟨hshort, h⟩
      · exact ⟨_, Layout.parse_eq_ok_iff.mpr ⟨hw, h.symm⟩,
          (reads_iff_spells hw).mpr (Or.inl rfl)⟩
      · have hwide := hw.widen hshort
        exact ⟨_, Layout.parse_eq_ok_iff.mpr ⟨hwide, h.symm⟩,
          (reads_iff_spells hwide).mpr (Or.inr ⟨hshort, rfl⟩)⟩
    constructor
    · exact openToken_eq_ok_iff.mpr ⟨t, nonce, hparse, hreads⟩
    · exact nonceOf_eq_ok_iff.mpr ⟨t, _, hparse, hreads.2.2, Octets.fit_append _ _⟩

/-- A sealed token opens with what was sealed. -/
theorem open_sealToken {label : Option String} (h : LabelOk label) (payload : Payload)
    (nonce : Octets 12) :
    M.openToken secret (M.sealToken secret nonce label payload).render =
      .ok ⟨label, payload⟩ := by
  have hspells : (M.sealToken secret nonce label payload).Spells
      (M.sealToken secret nonce label payload).render := Or.inl rfl
  have hopens := opens_iff_spells (o := ⟨label, payload⟩).mpr ⟨h, hspells⟩
  exact hopens.1

/-! ## A sample -/

/-- A secret, a payload and a nonce to show tokens with. -/
def sampleSecret : Secret := ⟨Bytes.ofString "my-very-secret-key-for-mac", by decide⟩

def samplePayload : Payload :=
  ⟨[0x2f, 0x82, 0x82, 0xcb, 0xe2, 0xf9, 0x49, 0x6f, 0xb1, 0x44, 0xc0, 0xaa, 0x4c, 0xed,
    0x56, 0xdb],
    rfl⟩

def sampleNonce : Octets 12 :=
  ⟨[0x52, 0xfd, 0xfc, 0x07, 0x21, 0x82, 0x65, 0x4f, 0x16, 0x3f, 0x5f, 0x0f], rfl⟩

/-- A mint that draws the payload and the nonce of the sample. -/
def sampleMint : Mint := ⟨sampleSecret, .script sampleNonce.bytes, .fixed samplePayload⟩

/-- The text of the sample, and the same with a zero in front of the sealed block. -/
def sampleText : String :=
  "1rEhxXi9mBwmkGpXxD4Njd_wHOKGDkYTeOIHSFgC17Gf4afDf4Cmj28d4tJXIarvgzgOPHYRJPEOVm4QGW"

def widenedText : String :=
  "1rEhxXi9mBwmkGpXxD4Njd_0wHOKGDkYTeOIHSFgC17Gf4afDf4Cmj28d4tJXIarvgzgOPHYRJPEOVm4QGW"

theorem sampleMint_draws (clock : Clock) :
    sampleMint.Draws clock samplePayload sampleNonce :=
  ⟨rfl, rfl⟩

theorem sealToken_sample :
    MacScheme.standard.sealToken sampleSecret sampleNonce none samplePayload =
      ⟨none, "1rEhxXi9mBwmkGpXxD4Njd",
        "wHOKGDkYTeOIHSFgC17Gf4afDf4Cmj28d4tJXIarvgzgOPHYRJPEOVm4QGW"⟩ := by
  decide +kernel

theorem generate_sample :
    (sampleMint.generate .standard (.seconds 0) none).1 = .ok sampleText := by
  rw [Mint.generate_eq_ok_iff]
  refine ⟨by decide, samplePayload, sampleNonce, sampleMint_draws _, ?_⟩
  show (MacScheme.standard.sealToken sampleSecret sampleNonce none samplePayload).render = _
  rw [sealToken_sample]
  decide

theorem widenedText_opens :
    MacScheme.standard.openToken sampleSecret widenedText = .ok ⟨none, samplePayload⟩ ∧
      nonceOf widenedText = .ok sampleNonce := by
  have hspells :
    (MacScheme.standard.sealToken sampleSecret sampleNonce none samplePayload).Spells
      widenedText := by
    rw [sealToken_sample]
    exact Or.inr ⟨by decide, by decide⟩
  exact opens_iff_spells.mpr ⟨by decide, hspells⟩

/-! ## Minted and opened -/

/-- **Every token opens.** For each secret, each label that a mint may use, each payload and
each nonce there is a mint that draws these, and whichever mint draws them makes a token.
The token's blocks have their widths, and it opens under the secret with the label and the
payload. -/
theorem minted_token_opens (M : MacScheme) (secret : Secret) (label : Option String)
    (payload : Payload) (nonce : Octets 12) (clock : Clock) (hlabel : LabelOk label) :
    (∃ m : Mint, m.secret = secret ∧ m.Draws clock payload nonce) ∧
      ∀ m : Mint, m.secret = secret → m.Draws clock payload nonce →
        ∃ text t, (m.generate M clock label).1 = .ok text ∧ Layout.parse text = .ok t ∧
          t.label = label ∧ t.payload.length = 22 ∧
            (t.sealedBlock.length = 59 ∨ t.sealedBlock.length = 60) ∧
              M.openToken secret text = .ok ⟨label, payload⟩ := by
  refine ⟨exists_mint_draws secret clock payload nonce, ?_⟩
  intro m hsecret hdraws
  subst hsecret
  have hw : (M.sealToken m.secret nonce label payload).WellFormed :=
    sealToken_wellFormed hlabel nonce payload
  refine ⟨(M.sealToken m.secret nonce label payload).render,
    M.sealToken m.secret nonce label payload, ?_, ?_, rfl, ?_, ?_, ?_⟩
  · exact Mint.generate_eq_ok_iff.mpr ⟨hlabel, payload, nonce, hdraws, rfl⟩
  · exact Layout.parse_eq_ok_iff.mpr ⟨hw, rfl⟩
  · exact Layout.length_encode_payload payload
  · exact Layout.length_encode_sealed _
  · exact open_sealToken hlabel payload nonce

/-- A labelled token made and opened. -/
theorem sample_access_token_opens :
    LabelOk (some "at") ∧ ∃ text,
      (sampleMint.generate .standard (.seconds 0) (some "at")).1 = .ok text ∧
        MacScheme.standard.openToken sampleSecret text =
          .ok ⟨some "at", samplePayload⟩ := by
  have hlabel : LabelOk (some "at") := by decide
  obtain ⟨-, hmint⟩ := minted_token_opens .standard sampleSecret (some "at") samplePayload
    sampleNonce (.seconds 0) hlabel
  obtain ⟨text, t, hmade, -, -, -, -, hopen⟩ := hmint sampleMint rfl (sampleMint_draws _)
  exact ⟨hlabel, text, hmade, hopen⟩

/-- **Nothing else opens, up to one zero.** A text that opens carries a nonce. It is the
token that each mint of the secret makes when it draws this nonce and the payload opened, or
that token with one zero in front of its sealed block. No other text of its length opens
with the same nonce and the same contents. -/
theorem opened_text_is_minted (M : MacScheme) {secret : Secret} {text : String} {o : Opened}
    (hopen : M.openToken secret text = .ok o) :
    ∃ nonce, nonceOf text = .ok nonce ∧
      (∀ (m : Mint) (clock : Clock), m.secret = secret → m.Draws clock o.payload nonce →
        (m.generate M clock o.label).1 =
          .ok (M.sealToken secret nonce o.label o.payload).render) ∧
      (M.sealToken secret nonce o.label o.payload).Spells text ∧
      ∀ other, M.openToken secret other = .ok o → nonceOf other = .ok nonce →
        other.length = text.length → other = text := by
  obtain ⟨nonce, hnonce⟩ := exists_nonceOf hopen
  obtain ⟨hlabel, hspells⟩ := opens_iff_spells.mp ⟨hopen, hnonce⟩
  refine ⟨nonce, hnonce, ?_, hspells, ?_⟩
  · intro m clock hsecret hdraws
    subst hsecret
    exact Mint.generate_eq_ok_iff.mpr ⟨hlabel, o.payload, nonce, hdraws, rfl⟩
  · intro other hother hothers hlen
    obtain ⟨-, hspells'⟩ := opens_iff_spells.mp ⟨hother, hothers⟩
    exact hspells'.eq_of_length hspells hlen

/-- The widened sample is a spelling of the token made for its payload and nonce. -/
theorem widenedText_spells :
    MacScheme.standard.openToken sampleSecret widenedText = .ok ⟨none, samplePayload⟩ ∧
      (MacScheme.standard.sealToken sampleSecret sampleNonce none samplePayload).Spells
        widenedText := by
  obtain ⟨hopen, hnonce⟩ := widenedText_opens
  obtain ⟨nonce, hnonce', -, hspells, -⟩ := opened_text_is_minted .standard hopen
  rw [hnonce] at hnonce'
  cases hnonce'
  exact ⟨hopen, hspells⟩

/-- A text that opens and is not the one that is made for its payload and nonce. -/
theorem widenedText_is_not_minted :
    MacScheme.standard.openToken sampleMint.secret widenedText = .ok ⟨none, samplePayload⟩ ∧
      nonceOf widenedText = .ok sampleNonce ∧
      sampleMint.Draws (.seconds 0) samplePayload sampleNonce ∧
      (sampleMint.generate .standard (.seconds 0) none).1 = .ok sampleText ∧
      sampleText ≠ widenedText := by
  obtain ⟨hopen, hnonce⟩ := widenedText_opens
  exact ⟨hopen, hnonce, sampleMint_draws _, generate_sample, by decide⟩

end Possession.Token
