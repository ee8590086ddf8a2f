import Possession.Proofs.Token.Opening
import Possession.Token.Kind

/-!
# Kinds that are claimed and kinds that are opened

A router looks at the kind of a token in two places. `Kind.ofToken?` reads the label off the
text and asks which kind has it, without opening the token. Opening by kind compares the
label that was authenticated with the label of the kind asked for. The two are different
code, and they agree:

> `openKind_of_open`: a token that opens is opened as the kind that its text claims, and as
> no other;
> `routing_is_consistent`: so opening by kind is opening and claiming this kind, and a
> router's own tokens claim, and open as, the kind that they were made for and no other.

The reason is that opening returns the label of the layout that the text is taken apart into
(`label_of_open`), and that no two kinds have one label (`Kind.ofLabel?_eq_some_iff`). A
label that no kind has, and a text without a label, need no case of their own.
-/

namespace Possession.Token

namespace Kind

/-- The kind of a label is the one that has it. -/
theorem ofLabel?_eq_some_iff {label : Option String} {k : Kind} :
    ofLabel? label = some k ↔ k.label = label := by
  constructor
  · intro h
    have hfound := List.find?_some h
    exact eq_of_beq hfound
  · intro h
    subst h
    cases k <;> decide

/-- Each kind's label is one that a mint may use. -/
theorem labelOk_label (k : Kind) : LabelOk k.label := by
  cases k <;> decide

/-- The kind that a text claims is that of the label in its layout. -/
theorem ofToken?_of_parse {text : String} {t : Layout} (h : Layout.parse text = .ok t) :
    ofToken? text = ofLabel? t.label := by
  have hparse : Layout.parse? text = some t :=
    Layout.parse?_eq_some_iff.mpr (Layout.parse_eq_ok_iff.mp h)
  unfold ofToken?
  rw [hparse]
  rfl

end Kind

variable {M : MacScheme} {secret : Secret} {text : String}

/-- A token opens with the label of its layout. -/
theorem label_of_open {o : Opened} (h : M.openToken secret text = .ok o) :
    ∃ t, Layout.parse text = .ok t ∧ t.label = o.label := by
  obtain ⟨t, nonce, hparse, hlabel, -, -⟩ := openToken_eq_ok_iff.mp h
  exact ⟨t, hparse, hlabel⟩

/-- A token that opens claims the kind of the label that was authenticated. -/
theorem ofToken?_eq_some_iff_of_open {o : Opened} {kind : Kind}
    (h : M.openToken secret text = .ok o) : Kind.ofToken? text = some kind ↔
      o.label = kind.label := by
  obtain ⟨t, hparse, hlabel⟩ := label_of_open h
  rw [Kind.ofToken?_of_parse hparse, Kind.ofLabel?_eq_some_iff, hlabel, eq_comm]

/-- A token that opens is opened as the kind that it claims, and as no other. -/
theorem openKind_of_open {o : Opened} {kind : Kind} (h : M.openToken secret text = .ok o) :
    M.openKind secret kind text =
      if Kind.ofToken? text = some kind then .ok o.payload
      else .error (.authentication ("Token is not a " ++ kind.name)) := by
  unfold MacScheme.openKind
  rw [h]
  show (if o.label == kind.label then _ else _) = _
  by_cases hkind : o.label = kind.label
  · rw [if_pos (beq_iff_eq.mpr hkind), if_pos ((ofToken?_eq_some_iff_of_open h).mpr hkind)]
  · rw [if_neg (mt beq_iff_eq.mp hkind),
      if_neg (mt (ofToken?_eq_some_iff_of_open h).mp hkind)]

/-- A text that does not open is not opened as any kind, for the same reason. -/
theorem openKind_of_error {e : Error} (h : M.openToken secret text = .error e)
    (kind : Kind) : M.openKind secret kind text = .error e := by
  unfold MacScheme.openKind
  rw [h]
  rfl

theorem extract_eq_ok_iff {payload : Payload} :
    M.extract secret text = .ok payload ↔
      ∃ o, M.openToken secret text = .ok o ∧ o.payload = payload :=
  Result.map_eq_ok

/-- A token made for a kind claims this kind. -/
theorem ofToken?_sealToken (kind : Kind) (payload : Payload) (nonce : Octets 12) :
    Kind.ofToken? (M.sealToken secret nonce kind.label payload).render = some kind :=
  (ofToken?_eq_some_iff_of_open (open_sealToken kind.labelOk_label payload nonce)).mpr rfl

/-- **Routing agrees with opening.** For each kind and each text: opening by kind gives a
payload exactly if opening gives it and the text claims the kind; a token that opens and
claims another kind, or none, is refused as not authentic; a text that does not open is
refused as opening refuses it. For each payload and nonce there is a router that draws
these, and whichever router draws them makes a token that claims its kind, opens as this
kind with the payload, and is refused as any other. -/
theorem routing_is_consistent (M : MacScheme) (secret : Secret) (kind : Kind) :
    (∀ text,
      (∀ payload, M.openKind secret kind text = .ok payload ↔
        M.extract secret text = .ok payload ∧ Kind.ofToken? text = some kind) ∧
      (∀ payload, M.extract secret text = .ok payload → Kind.ofToken? text ≠ some kind →
        M.openKind secret kind text =
          .error (.authentication ("Token is not a " ++ kind.name))) ∧
      ∀ e, M.extract secret text = .error e → M.openKind secret kind text = .error e) ∧
    ∀ (payload : Payload) (nonce : Octets 12) (clock : Clock),
      (∃ m : Mint, m.secret = secret ∧ m.Draws clock payload nonce) ∧
      ∀ m : Mint, m.secret = secret → m.Draws clock payload nonce →
        ∃ text, (m.route M clock kind).1 = .ok text ∧ Kind.ofToken? text = some kind ∧
          ∀ other, M.openKind secret other text =
            if other = kind then .ok payload
            else .error (.authentication ("Token is not a " ++ other.name)) := by
  constructor
  · intro text
    refine ⟨?_, ?_, ?_⟩
    · intro payload
      rw [extract_eq_ok_iff]
      cases hopen : M.openToken secret text with
      | error e =>
        rw [openKind_of_error hopen]
        exact iff_of_false nofun fun h => nomatch h.1
      | ok o =>
        rw [openKind_of_open hopen]
        by_cases hkind : Kind.ofToken? text = some kind
        · simp [hkind]
        · simp [hkind]
    · intro payload hextract hkind
      obtain ⟨o, hopen, -⟩ := extract_eq_ok_iff.mp hextract
      rw [openKind_of_open hopen, if_neg hkind]
    · intro e hextract
      exact openKind_of_error (Result.map_eq_error.mp hextract) kind
  · intro payload nonce clock
    refine ⟨exists_mint_draws secret clock payload nonce, ?_⟩
    intro m hsecret hdraws
    subst hsecret
    refine ⟨(M.sealToken m.secret nonce kind.label payload).render, ?_,
      ofToken?_sealToken kind payload nonce, ?_⟩
    · exact Mint.generate_eq_ok_iff.mpr ⟨kind.labelOk_label, payload, nonce, hdraws, rfl⟩
    · intro other
      rw [openKind_of_open (open_sealToken kind.labelOk_label payload nonce)]
      by_cases hother : other = kind
      · subst hother
        rw [if_pos rfl, if_pos (ofToken?_sealToken ..)]
      · have hclaims :
          Kind.ofToken? (M.sealToken m.secret nonce kind.label payload).render ≠
            some other := by
          rw [ofToken?_sealToken]
          exact fun h => hother (Option.some.inj h).symm
        rw [if_neg hother, if_neg hclaims]

/-- A refresh token claims to be one, and is refused as an access token. -/
theorem sample_refresh_token_routes :
    ∃ text, (sampleMint.route .standard (.seconds 0) .refreshToken).1 = .ok text ∧
      Kind.ofToken? text = some .refreshToken ∧
      MacScheme.standard.openKind sampleSecret .refreshToken text = .ok samplePayload ∧
      MacScheme.standard.openKind sampleSecret .accessToken text =
        .error (.authentication "Token is not a access_token") := by
  obtain ⟨-, hroute⟩ := routing_is_consistent .standard sampleSecret .refreshToken
  obtain ⟨-, hmint⟩ := hroute samplePayload sampleNonce (.seconds 0)
  obtain ⟨text, hmade, hkind, hopen⟩ := hmint sampleMint rfl (sampleMint_draws _)
  exact ⟨text, hmade, hkind, hopen .refreshToken, hopen .accessToken⟩

end Possession.Token
