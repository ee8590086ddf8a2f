import Possession.Proofs.Token.Acceptance

/-!
# Labels and payloads that are put in later

The code of a token covers its label and its payload without saying where one ends and the
other begins. It needs not: a payload has sixteen octets, so it is the end of the message,
and what is left between the domain and the payload is nothing, or a label with its
separator. Hence two messages are the same only if they are about the same label and the
same payload, whatever the labels are (`macMessage_injective`).

A token whose label or payload block is exchanged, while its sealed block stays, carries the
nonce and the code of the token that it was (`open_spliced`). It opens only if two different
messages have one code under the key for that nonce. There are more messages than codes, so
some two do; that these two do not is what has to be assumed of the code, and it is assumed
of them alone:

> `spliced_token_is_not_authentic`: a token that was made for one label and one payload,
> with another label or another payload block put in, is refused as not authentic.
-/

namespace Possession.Token

/-! ### Messages -/

/-- A label with its separator tells which label it is, and whether there is one. -/
theorem labelled_injective :
    Function.Injective fun label : Option String => label.elim "" (· ++ "_") := by
  have hsome : ∀ l : String, l ++ "_" ≠ "" := by
    intro l h
    have hlast : '_' ∈ (l ++ "_").toList := by simp
    rw [h] at hlast
    cases hlast
  intro a b h
  cases a with
  | none =>
    cases b with
    | none => rfl
    | some l => exact absurd h.symm (hsome l)
  | some l =>
    cases b with
    | none => exact absurd h (hsome l)
    | some l' =>
      have hlist : l.toList ++ ['_'] = l'.toList ++ ['_'] := by
        simpa using congrArg String.toList h
      exact congrArg some (String.toList_inj.mp (List.append_cancel_right hlist))

/-- A message is about one label and one payload. -/
theorem macMessage_injective {a b : Option String} {p q : Payload}
    (h : macMessage a p = macMessage b q) : a = b ∧ p = q := by
  rw [macMessage_eq, macMessage_eq] at h
  obtain ⟨hfront, hpayload⟩ := List.append_inj' h (p.length_eq.trans q.length_eq.symm)
  have hlabel := Bytes.ofString_injective (List.append_cancel_left hfront)
  exact ⟨labelled_injective hlabel, Octets.ext hpayload⟩

/-! ### Tokens -/

/-- A layout with another label and another payload block put in. -/
def Layout.splice (t : Layout) (label : Option String) (block : String) : Layout :=
  { t with label := label, payload := block }

variable {M : MacScheme} {secret : Secret}

/-- A sealed token with another label and another payload block holds the payload of that
block, and the nonce and the code with which it was sealed. -/
theorem holds_splice {label label' : Option String} {payload payload' : Payload}
    {nonce : Octets 12} {block : String} (hlabel : LabelOk label')
    (hblock : Layout.isPayloadBlock block.toList)
    (hdecode : Base62.decode 16 block = .ok payload') :
    ((M.sealToken secret nonce label payload).splice label' block).Holds payload' nonce
      (M.code secret nonce label payload) := by
  have hshaped : ((M.sealToken secret nonce label payload).splice label' block).Shaped :=
    Layout.wellFormed_iff_shaped.mp ⟨hlabel, hblock, Layout.isSealedBlock_encode _⟩
  have hsealed := (Layout.decode_sealed_eq_ok_iff (Layout.isSealedBlock_encode _)).mpr
    (Or.inl (rfl : (M.sealToken secret nonce label payload).sealedBlock = _))
  exact ⟨hshaped, hshaped.decode_payload.mp hdecode, hshaped.decode_sealedBlock.mp hsealed⟩

/-- A sealed token holds what was sealed. -/
theorem holds_sealToken {label : Option String} (hlabel : LabelOk label) (payload : Payload)
    (nonce : Octets 12) : (M.sealToken secret nonce label payload).Holds payload nonce
      (M.code secret nonce label payload) := by
  have hblock := Layout.isPayloadBlock_encode payload
  exact holds_splice hlabel hblock ((Layout.decode_payload_eq_ok_iff hblock).mpr rfl)

/-- A token with another label or block opens exactly if what it says has the code of what
was sealed. -/
theorem open_spliced {label label' : Option String} {payload payload' : Payload}
    {nonce : Octets 12} {block : String} (hlabel : LabelOk label')
    (hblock : Layout.isPayloadBlock block.toList)
    (hdecode : Base62.decode 16 block = .ok payload') :
    M.openToken secret
      ((M.sealToken secret nonce label payload).splice label' block).render =
      if M.code secret nonce label payload = M.code secret nonce label' payload' then
        .ok ⟨label', payload'⟩
      else .error (.authentication "Opaque token MAC mismatch") :=
  openToken_of_holds (holds_splice hlabel hblock hdecode)

/-- **Splicing is noticed.** Messages about different labels or payloads are different. A
token that a mint has made stays a token when another label, or none, or another payload
block is put into it, and it is then refused as not authentic, if the code tells the message
of what it says from that of what was sealed, should they be different. -/
theorem spliced_token_is_not_authentic (M : MacScheme) {m : Mint} {clock : Clock}
    {label : Option String} {text : String}
    (hmade : (m.generate M clock label).1 = .ok text) :
    (∀ (a b : Option String) (p q : Payload), macMessage a p = macMessage b q →
      a = b ∧ p = q) ∧
    ∃ t payload nonce, m.Draws clock payload nonce ∧ Layout.parse text = .ok t ∧
    t.label = label ∧
      t.Holds payload nonce (M.code m.secret nonce label payload) ∧
      ∀ label' block payload', LabelOk label' → Layout.isPayloadBlock block.toList →
        Base62.decode 16 block = .ok payload' → label' ≠ label ∨ block ≠ t.payload →
        (macMessage label' payload' ≠ macMessage label payload →
          M.mac (M.derive m.secret.bytes nonce.bytes) (macMessage label' payload') ≠
            M.mac (M.derive m.secret.bytes nonce.bytes) (macMessage label payload)) →
        ∃ reason, M.openToken m.secret (t.splice label' block).render =
          .error (.authentication reason) := by
  refine ⟨fun _ _ _ _ => macMessage_injective, ?_⟩
  obtain ⟨hlabel, payload, nonce, hdraws, rfl⟩ := Mint.generate_eq_ok_iff.mp hmade
  have hw : (M.sealToken m.secret nonce label payload).WellFormed :=
    sealToken_wellFormed hlabel nonce payload
  refine ⟨M.sealToken m.secret nonce label payload, payload, nonce, hdraws,
    Layout.parse_eq_ok_iff.mpr ⟨hw, rfl⟩, rfl, holds_sealToken hlabel payload nonce, ?_⟩
  intro label' block payload' hlabel' hblock hdecode hother htells
  have hmessage : macMessage label' payload' ≠ macMessage label payload := by
    intro hsame
    obtain ⟨rfl, rfl⟩ := macMessage_injective hsame
    rcases hother with h | h
    · exact h rfl
    -- a payload is written in one way only
    · exact h ((Layout.decode_payload_eq_ok_iff hblock).mp hdecode)
  refine ⟨"Opaque token MAC mismatch", ?_⟩
  rw [open_spliced hlabel' hblock hdecode]
  exact if_neg (htells hmessage).symm

/-- The sample made for the label `at` is not authentic once the label is taken off. -/
theorem sample_without_label_is_not_authentic :
    ∃ text t, (sampleMint.generate .standard (.seconds 0) (some "at")).1 = .ok text ∧
      Layout.parse text = .ok t ∧ t.label = some "at" ∧
      ∃ reason, MacScheme.standard.openToken sampleSecret (t.splice none t.payload).render =
        .error (.authentication reason) := by
  have hlabel : LabelOk (some "at") := by decide
  have hmade := (Mint.generate_eq_ok_iff (M := .standard)).mpr
    ⟨hlabel, samplePayload, sampleNonce, sampleMint_draws (.seconds 0), rfl⟩
  obtain ⟨-, t, payload, nonce, hdraws, hparse, htlabel, hholds, hspliced⟩ :=
    spliced_token_is_not_authentic .standard hmade
  refine ⟨_, t, hmade, hparse, htlabel, ?_⟩
  -- the mint draws one payload and one nonce
  obtain ⟨rfl⟩ : samplePayload = payload :=
    Except.ok.inj ((sampleMint_draws _).1.symm.trans hdraws.1)
  obtain ⟨rfl⟩ : sampleNonce = nonce :=
    Except.ok.inj ((sampleMint_draws _).2.symm.trans hdraws.2)
  have hblock := (Layout.wellFormed_iff_shaped.mpr hholds.shaped).payload
  exact hspliced none t.payload samplePayload (by decide) hblock
    (hholds.shaped.decode_payload.mpr hholds.payload) (Or.inl nofun) fun _ => by
      decide +kernel

end Possession.Token
