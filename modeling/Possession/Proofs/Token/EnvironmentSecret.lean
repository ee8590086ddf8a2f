import Mathlib
import Possession.Proofs.Config.Environment
import Possession.Proofs.Token.Splicing
import Possession.Token.Settings

/-!
# A secret from the environment

Services that share a secret open each other's tokens. One of them may get it from its
environment, where it is taken for the value that it stands for and written back, and the
others from elsewhere. What was `007` is `7` then, and nothing fails until a token is not
authentic.

> `opensUnder_iff`: the tokens of one secret open under another exactly if the two have the
> same codes;
> `environment_secret_serves_iff`: over any file that holds settings, a secret in the
> environment gives settings that serve under it exactly if it comes through unchanged, or
> the codes do not tell it from what it has become.
-/

namespace Possession.Token

open Config

/-! ## Secrets -/

/-- Octets are a secret if there are any. -/
theorem Secret.ofBytes_eq_ok_iff {bytes : Bytes} {secret : Secret} :
    Secret.ofBytes bytes = .ok secret ↔ secret.bytes = bytes := by
  unfold ofBytes
  split
  next hnil =>
    constructor
    · intro h
      cases h
    · intro h
      exact absurd (h.trans hnil) secret.ne_nil
  next =>
    obtain ⟨own, hown⟩ := secret
    simp [eq_comm]

theorem Secret.exists_ofBytes {text : String} (h : text ≠ "") :
    ∃ secret, Secret.ofBytes (Bytes.ofString text) = .ok secret := by
  have hne : Bytes.ofString text ≠ [] := fun hnil => h (Bytes.ofString_injective hnil)
  exact ⟨⟨_, hne⟩, Secret.ofBytes_eq_ok_iff.mpr rfl⟩

/-- Secrets are the same if their texts are. -/
theorem Secret.eq_iff_of_ofBytes {a b : String} {x y : Secret}
    (hx : Secret.ofBytes (Bytes.ofString a) = .ok x)
    (hy : Secret.ofBytes (Bytes.ofString b) = .ok y) : x = y ↔ a = b := by
  rw [Secret.ofBytes_eq_ok_iff] at hx hy
  constructor
  · rintro rfl
    exact Bytes.ofString_injective (hx.symm.trans hy)
  · rintro rfl
    cases x
    cases y
    cases hx.trans hy.symm
    rfl

/-! ## Secrets that open each other's tokens -/

/-- Whatever is made under the one secret opens under the other, with what it was made
for. -/
def MacScheme.OpensUnder (M : MacScheme) (made opening : Secret) : Prop :=
  ∀ m : Mint, m.secret = made → ∀ clock label payload nonce, LabelOk label →
    m.Draws clock payload nonce →
      ∃ text, (m.generate M clock label).1 = .ok text ∧
        M.openToken opening text = .ok ⟨label, payload⟩

variable {M : MacScheme}

/-- The tokens of a secret open under another exactly if both have the same codes. -/
theorem MacScheme.opensUnder_iff {made opening : Secret} :
    M.OpensUnder made opening ↔ ∀ nonce label payload, LabelOk label →
      M.code made nonce label payload = M.code opening nonce label payload := by
  constructor
  · intro h nonce label payload hlabel
    obtain ⟨m, rfl, hdraws⟩ := exists_mint_draws made (.seconds 0) payload nonce
    obtain ⟨text, hmade, hopen⟩ := h m rfl (.seconds 0) label payload nonce hlabel hdraws
    obtain ⟨-, payload', nonce', hdraws', rfl⟩ := Mint.generate_eq_ok_iff.mp hmade
    cases hdraws.1.symm.trans hdraws'.1
    cases hdraws.2.symm.trans hdraws'.2
    rw [openToken_of_holds (holds_sealToken hlabel payload nonce)] at hopen
    split at hopen
    next hcode => exact hcode
    next => cases hopen
  · rintro h m rfl clock label payload nonce hlabel hdraws
    refine ⟨_, Mint.generate_eq_ok_iff.mpr ⟨hlabel, payload, nonce, hdraws, rfl⟩, ?_⟩
    rw [openToken_of_holds (holds_sealToken hlabel payload nonce)]
    exact if_pos (h nonce label payload hlabel)

/-! ## Settings that serve under a secret -/

namespace Settings

/-- Mints of the settings make tokens that open under a secret, and what is made under the
secret opens with the settings. -/
structure Serves (M : MacScheme) (s : Settings) (given : Secret) : Prop where
  generator : ∀ nonces payloads, ∃ m, s.mint nonces payloads = .ok m ∧
    M.OpensUnder m.secret given
  verifier : ∃ opening, s.opening = .ok opening ∧ M.OpensUnder given opening

theorem serves_iff {s : Settings} {given opening : Secret} (h : s.opening = .ok opening) :
    s.Serves M given ↔ ∀ nonce label payload, LabelOk label →
      M.code opening nonce label payload = M.code given nonce label payload := by
  constructor
  · intro hserves
    obtain ⟨opening', hopening, hopens⟩ := hserves.verifier
    cases h.symm.trans hopening
    intro nonce label payload hlabel
    exact (MacScheme.opensUnder_iff.mp hopens nonce label payload hlabel).symm
  · intro hcodes
    refine ⟨?_, opening, h, ?_⟩
    · intro nonces payloads
      refine ⟨⟨opening, nonces, s.payload.source payloads⟩, ?_,
        MacScheme.opensUnder_iff.mpr hcodes⟩
      unfold mint
      rw [h]
      rfl
    · exact MacScheme.opensUnder_iff.mpr fun nonce label payload hlabel =>
        (hcodes nonce label payload hlabel).symm

/-- Settings are read from two members of a configuration. -/
theorem ofConfig_eq_ok_iff {root : Value} {s : Settings} :
    ofConfig root = .ok s ↔
      (∃ kind, field "payload" (decodeName "PayloadKind" PayloadKind.named) root =
        .ok kind ∧ kind.getD .random = s.payload) ∧
      field "secret" decodeString root = .ok (some s.secret) := by
  unfold ofConfig
  constructor
  · intro h
    obtain ⟨kind, hkind, h⟩ := Result.bind_eq_ok.mp h
    obtain ⟨secret, hsecret, h⟩ := Result.bind_eq_ok.mp h
    obtain ⟨text, htext, h⟩ := Result.bind_eq_ok.mp h
    cases secret with
    | none => cases htext
    | some secret =>
      cases htext
      cases h
      exact ⟨⟨kind, hkind, rfl⟩, hsecret⟩
  · rintro ⟨⟨kind, hkind, hpayload⟩, hsecret⟩
    refine Result.bind_eq_ok.mpr ⟨kind, hkind, Result.bind_eq_ok.mpr ⟨_, hsecret, ?_⟩⟩
    rw [hpayload]
    rfl

/-- A secret that is set over a configuration takes the place of the one that was there. -/
theorem ofConfig_set_secret {root : Value} {s : Settings} (h : ofConfig root = .ok s)
    (text : String) (origin : Origin) :
    ofConfig (Value.set "secret" (.leaf (readText text) origin) root) =
      .ok { s with secret := settled text } := by
  obtain ⟨⟨kind, hkind, hpayload⟩, -⟩ := ofConfig_eq_ok_iff.mp h
  have hplain : Value.IsPlain "secret" := ⟨by decide, by simp [Path.isNameChar]⟩
  refine ofConfig_eq_ok_iff.mpr ⟨⟨kind, ?_, hpayload⟩, ?_⟩
  · rw [← hkind]
    unfold field
    rw [Value.find?_set_ne hplain (by decide)]
  · unfold field
    rw [Value.find?_set_self hplain]
    dsimp only
    rw [decodeString_readText]
    rfl

end Settings

/-! ## The variable -/

theorem toSmall_secret :
    (Text.toSmall "__SECRET").toList = ['_', '_'] ++ "secret".toList := by
  unfold Text.toSmall Text.smallLetters Text.CodeMap.ofLines
  simp only [List.flatMap_cons, List.flatMap_nil]
  -- the lines of the table are made lists of characters here, not by the kernel
  repeat rw [String.toList_ofList]
  decide +kernel

/-- The variable of the secret, for any mark. -/
theorem ofVariable_secret (mark text : String) :
    ofVariable mark (mark ++ "__SECRET", text) =
      some ("secret", .leaf (readText text) (some environmentOrigin)) :=
  ofVariable_append toSmall_secret mark text

/-- Settings of a file, and of the same file under a secret in the environment. -/
theorem load_secret {path : Bytes} {entry : Entry} {environment : List (String × String)}
    {mark text : String} {root : Value} {s : Settings}
    (hload : load path entry [] mark = .ok root) (hs : Settings.ofConfig root = .ok s)
    (henv : environment.filter (fun e => (ofVariable mark e).isSome) =
      [(mark ++ "__SECRET", text)]) :
    ∃ root', load path entry environment mark = .ok root' ∧
      Settings.ofConfig root' = .ok { s with secret := settled text } := by
  refine ⟨_, ?_, Settings.ofConfig_set_secret hs text (some environmentOrigin)⟩
  rw [load_eq, hload, ← filterMap_ofVariable_filter, henv, List.filterMap_cons,
    ofVariable_secret]
  rfl

/-- **A secret from the environment.** Over every file that holds settings, a secret that is
not empty and is set by the one variable with the mark gives settings again, with the
payloads of the file. They are those of the given secret exactly if its text is verbatim,
and they serve under it exactly if it is, or if no code tells the two secrets apart. -/
theorem environment_secret_serves_iff (M : MacScheme) {path : Bytes} {entry : Entry}
    {environment : List (String × String)} {mark text : String} {root : Value}
    {s : Settings} (hload : load path entry [] mark = .ok root)
    (hs : Settings.ofConfig root = .ok s)
    (henv : environment.filter (fun e => (ofVariable mark e).isSome) =
      [(mark ++ "__SECRET", text)])
    (hne : text ≠ "") :
    ∃ root' s' given opening, load path entry environment mark = .ok root' ∧
      Settings.ofConfig root' = .ok s' ∧ s'.payload = s.payload ∧
      Secret.ofBytes (Bytes.ofString text) = .ok given ∧ s'.opening = .ok opening ∧
      (opening = given ↔ Verbatim text) ∧
      (s'.Serves M given ↔ Verbatim text ∨ ∀ nonce label payload, LabelOk label →
        M.code opening nonce label payload = M.code given nonce label payload) := by
  obtain ⟨root', hload', hs'⟩ := load_secret hload hs henv
  obtain ⟨given, hgiven⟩ := Secret.exists_ofBytes hne
  obtain ⟨opening, hopening⟩ := Secret.exists_ofBytes (settled_ne_empty hne)
  have hsame : opening = given ↔ Verbatim text :=
    (Secret.eq_iff_of_ofBytes hopening hgiven).trans settled_eq_iff
  refine ⟨root', _, given, opening, hload', hs', rfl, hgiven, hopening, hsame, ?_⟩
  rw [Settings.serves_iff (s := { s with secret := settled text }) hopening]
  constructor
  · exact Or.inr
  · rintro (hverbatim | hcodes)
    · intro nonce label payload _
      rw [hsame.mpr hverbatim]
    · exact hcodes

/-! ## A sample -/

/-- A file with a secret of its own. -/
def samplePath : Bytes := Bytes.ofString "t.toml"

def sampleFile : Entry := .file (Bytes.ofString "secret = \"file-secret\"")

theorem load_sampleFile (mark : String) :
    ∃ root, load samplePath sampleFile [] mark = .ok root ∧
      Settings.ofConfig root = .ok ⟨"file-secret", .random⟩ := by
  have hread : Format.toml.read? (textOfFile (Bytes.ofString "secret = \"file-secret\"")) =
      some [("secret", .str "file-secret")] := by
    cbv
  have hending :
    ((ending? samplePath).bind Bytes.toString?).bind Format.ofEnding? = some .toml := by
    cbv
  have hpath : Bytes.toString? samplePath = some "t.toml" := by cbv
  refine ⟨Value.setAll (Value.ofMembers (some (originOfPath samplePath))
    [("secret", .str "file-secret")]) .empty, ?_, ?_⟩
  · unfold load sampleFile
    dsimp only
    rw [hending, hpath]
    dsimp only
    rw [hread]
    rfl
  · rfl

/-- An environment with nothing but the secret. -/
theorem filter_secret (text : String) :
    [("TESSERA__SECRET", text)].filter (fun e => (ofVariable "TESSERA" e).isSome) =
      [("TESSERA" ++ "__SECRET", text)] := by
  have hname : "TESSERA__SECRET" = "TESSERA" ++ "__SECRET" := by decide
  rw [hname, List.filter_cons_of_pos (by rw [ofVariable_secret]; rfl), List.filter_nil]

/-- A passphrase comes through, and serves. -/
theorem passphrase_serves :
    ∃ root s,
      load samplePath sampleFile [("TESSERA__SECRET", "my-very-secret-key-for-mac")]
        "TESSERA" = .ok root ∧
      Settings.ofConfig root = .ok s ∧ s.Serves .standard sampleSecret := by
  obtain ⟨root, hload, hs⟩ := load_sampleFile "TESSERA"
  obtain ⟨root', s', given, opening, hload', hs', -, hgiven, -, -, hserves⟩ :=
    environment_secret_serves_iff .standard hload hs
      (filter_secret "my-very-secret-key-for-mac") (by decide)
  have hverbatim : Verbatim "my-very-secret-key-for-mac" :=
    verbatim_of_mem (c := 'm') (by decide) (by decide)
  obtain rfl : given = sampleSecret :=
    (Secret.eq_iff_of_ofBytes hgiven (Secret.ofBytes_eq_ok_iff.mpr rfl)).mpr rfl
  exact ⟨root', s', hload', hs', hserves.mpr (Or.inl hverbatim)⟩

/-- A secret of digits loses the zeros in front, and does not serve any more. -/
theorem secret_loses_zeros :
    (∃ root s, load samplePath sampleFile [] "TESSERA" = .ok root ∧
      Settings.ofConfig root = .ok s) ∧
      ∃ root s given, load samplePath sampleFile [("TESSERA__SECRET", "007")] "TESSERA" =
        .ok root ∧ Settings.ofConfig root = .ok s ∧ s.secret = "7" ∧
        Secret.ofBytes (Bytes.ofString "007") = .ok given ∧ ¬ s.Serves .standard given := by
  obtain ⟨root, hload, hs⟩ := load_sampleFile "TESSERA"
  obtain ⟨root', hload', hs'⟩ := load_secret hload hs (filter_secret "007")
  have hsettled : settled "007" = "7" := by cbv
  rw [hsettled] at hs'
  let given : Secret := ⟨Bytes.ofString "007", by decide⟩
  let opening : Secret := ⟨Bytes.ofString "7", by decide⟩
  refine ⟨⟨root, _, hload, hs⟩, root', _, given, hload', hs', rfl,
    Secret.ofBytes_eq_ok_iff.mpr rfl, ?_⟩
  have hopening : Settings.opening ⟨"7", .random⟩ = .ok opening :=
    Secret.ofBytes_eq_ok_iff.mpr rfl
  rw [Settings.serves_iff hopening]
  intro hcodes
  have hdiffer : MacScheme.standard.code opening sampleNonce none samplePayload ≠
      MacScheme.standard.code given sampleNonce none samplePayload := by
    decide +kernel
  exact hdiffer (hcodes sampleNonce none samplePayload (by decide))

end Possession.Token
