import Possession.Proofs.Verifier.Agreement

/-!
# Claims in an envelope

A signer puts claims into an envelope under a type, and whoever opens the envelope with the
key that it carries has the claims again, whatever their texts and their time are:

> `claims_come_back`: a token is written for every type and every claims, and read as a
> token of ES256 of this type, with the signer's public key; under the key that it carries
> it gives exactly these claims;
> `serialize_injective`: so one text is not the token of two types, or of two sets of
> claims.

The work is done layer by layer in the lemmas on reading back. Of cryptography it is assumed
that the signer makes a signature of what it signs, and that this verifies under its public
key (`Signer.Verified`).
-/

namespace Possession.Jose

variable {S : Scheme} {s : Signer}

/-- A token is written if there is a signature of its message. -/
theorem Signer.exists_serialize {typ : String} {v : Json} {signature : Bytes}
    (hsign : s.sign (Bytes.ofString
      (Compact.message ⟨writePart (s.header typ), writePart v, ""⟩)) = some signature) :
    ∃ text, s.serialize typ v = .ok text :=
  ⟨_, Signer.serialize_eq_ok_iff.mpr ⟨signature, hsign, rfl⟩⟩

/-- The token of a type and of claims is not that of any others. -/
theorem Signer.serialize_injective (hs : s.Verified S) {typ typ' text : String}
    {c c' : Proof.Claims} (h : s.serialize typ c.toJson = .ok text)
    (h' : s.serialize typ' c'.toJson = .ok text) : typ = typ' ∧ c = c' := by
  obtain ⟨rfl⟩ : typ = typ' := by
    have hread := (Jwt.parse_serialize h).symm.trans (Jwt.parse_serialize h')
    exact Option.some.inj (congrArg Jwt.typ (Except.ok.inj hread))
  exact ⟨rfl,
    Except.ok.inj ((Jwt.claims_serialize hs h).symm.trans (Jwt.claims_serialize hs h'))⟩

/-- **Claims come back.** A signer that can sign a token of claims writes it under any type.
It is read as a token of ES256 that has this type and carries the signer's public key, and
under the key that it carries it gives the claims. -/
theorem claims_come_back (hs : s.Verified S) {typ : String} {c : Proof.Claims}
    {signature : Bytes} (hsign : s.sign (Bytes.ofString
      (Compact.message ⟨writePart (s.header typ), writePart c.toJson, ""⟩)) =
        some signature) :
    ∃ text jwt, s.serializer.serialize typ c.toJson = .ok text ∧ Jwt.parse text = .ok jwt ∧
      jwt.algorithm = .es256 ∧ jwt.typ = some typ ∧ jwt.key = some s.serializer.key ∧
      ∀ key, jwt.key = some key → jwt.claims S key = .ok c := by
  obtain ⟨text, hwritten⟩ := Signer.exists_serialize hsign
  refine ⟨text, _, hwritten, Jwt.parse_serialize hwritten, rfl, rfl, rfl, ?_⟩
  intro key hkey
  cases hkey
  exact Jwt.claims_serialize hs hwritten

/-- The claims of a proof that is bound to an access token come back. -/
theorem bound_claims_come_back :
    ∃ text jwt, Proof.boundSigner.serializer.serialize Proof.proofType
      (Proof.boundClaims "a").toJson =
        .ok text ∧
      Jwt.parse text = .ok jwt ∧ jwt.typ = some Proof.proofType ∧
      jwt.claims .standard Proof.boundSigner.key = .ok (Proof.boundClaims "a") := by
  have hverified : Proof.boundSigner.Verified .standard :=
    Proof.verified_withSignature Proof.boundSignature_verifies
  have hsign : Proof.boundSigner.sign (Bytes.ofString (Compact.message
      ⟨writePart (Proof.boundSigner.header Proof.proofType),
        writePart (Proof.boundClaims "a").toJson, ""⟩)) = some Proof.boundSignature :=
    Proof.sign_withSignature ..
  obtain ⟨text, jwt, hwritten, hread, -, htyp, hkey, hclaims⟩ :=
    claims_come_back hverified hsign
  exact ⟨text, jwt, hwritten, hread, htyp, hclaims _ hkey⟩

end Possession.Jose
