import Possession.Proof.Prover
import Possession.Proofs.Jose.RoundTrip
import Possession.Proofs.Verifier.AtMostOnce

/-!
# Provers and verifiers agree

What a prover makes is confirmed by every verifier of the same format, for the same request,
within the window, as long as its identifier is unused:

> `proof_is_confirmed`: for any signer, request, access token, entropy and second, a proof
> that `prove` returns is confirmed with the signer's thumbprint, unless it is bound to
> another access token than the caller's; then this is the answer.

The proof of it follows the text from the one side to the other. `prove_eq_ok_iff` says what
the text was written from, and `Jose.Jwt.parser_serialize` that the same is read from it, so
that it passes the first gate (`examine_of_prove`). The second gate opens for an unused
identifier (`Verifier.verify_eq`), and `confirm_cases` says where the third one may end.

Two things are assumed of cryptography: what the signer signs verifies under its public key
(`Jose.Signer.Verified`), and SHA-256 does not give the two access tokens the same digest.
-/

namespace Possession.Proof

/-! ## The two ends of a proof -/

section Ends

variable {D : Web.Url.DomainReader} {method url proof : String} {token : Option String}

/-- A proof is written from the canonical request, a fresh identifier and the second on the
clock. -/
theorem Prover.prove_eq_ok_iff {p : Prover} {s : Jose.Signer}
    (h : p.serializer = s.serializer) : (p.prove D method url token).1 = .ok proof ↔
      ∃ target jti iat, Target.ofRequest D method url = .ok target ∧
        (drawId p.entropy).1 = .ok jti ∧ p.clock.now = .ok iat ∧
        s.serialize proofType
          (Claims.toJson ⟨jti, target.method, target.url, iat, token.map tokenHash⟩) =
            .ok proof := by
  have hserialize : p.serializer.serialize = s.serialize := by rw [h]; rfl
  unfold prove
  rw [← hserialize]
  cases Target.ofRequest D method url with
  | error e => simp
  | ok target => simp [Result.bind_eq_ok]

/-- Two access tokens of one fingerprint have one digest. -/
theorem tokenHash_eq_iff {a b : String} : tokenHash a = tokenHash b ↔
    Digest.sha256 (Bytes.ofString a) = Digest.sha256 (Bytes.ofString b) :=
  Text.Base64Url.encode_injective.eq_iff

end Ends

section Agreement

variable {D : Web.Url.DomainReader} {S : Jose.Scheme} {s : Jose.Signer} {p : Prover}
  {v : Verifier Replay.Memory} {t : Nat} {made now : Int64}
  {method url method' url' proof : String} {token : Option String} {jti : String}

/-- What a prover makes passes the first gate: it is an authentic proof of the claims that
it was written from, and these are about the request and fresh. -/
theorem Verifier.examine_of_prove (hs : s.Verified S)
    (hserializer : p.serializer = s.serializer) (hmade : p.clock.now = .ok made)
    (hjti : (drawId p.entropy).1 = .ok jti)
    (hprove : (p.prove D method url token).1 = .ok proof)
    (hparser : v.parser = Jose.Jwt.parser S) (hvalid : v.settings.validate = .ok ())
    (hnow : v.clock.now = .ok now)
    (hnear : (now.toInt - made.toInt).natAbs ≤ v.settings.windowSecs.toNat)
    (hsame : Target.ofRequest D method' url' = Target.ofRequest D method url) :
    ∃ claims, v.examine D method' url' proof = .ok (s.key, claims) ∧ claims.jti = jti ∧
      claims.ath = token.map tokenHash := by
  obtain ⟨target, jti', made', htarget, hjti', hmade', hwritten⟩ :=
    (Prover.prove_eq_ok_iff hserializer).mp hprove
  -- what was drawn and read when the proof was made is what the hypotheses name
  rw [hjti] at hjti'
  cases hjti'
  rw [hmade] at hmade'
  cases hmade'
  obtain ⟨envelope, hread, htyp, hkey, hclaims⟩ := Jose.Jwt.parser_serialize hs hwritten
  have hfresh : checkFresh v.settings.window now made = .ok () :=
    checkFresh_of_near (by rw [Settings.toInt_window hvalid]; omega)
  rw [← hparser] at hread
  exact ⟨_, Verifier.examine_eq_ok_iff.mpr ⟨target, envelope, now, hsame.trans htarget,
    Jose.Signer.isBlank_of_serialize hwritten, hread, htyp, hkey, hclaims, rfl, rfl, hnow,
    hfresh⟩,
    rfl, rfl⟩

/-- **Prover and verifier.** A proof made for a request is confirmed for every request of
the same target, in every second within the window of the one in which it was made. If the
caller knows the access token, it has to be the one that the proof was bound to, if it was
bound to one. -/
theorem proof_is_confirmed (hs : s.Verified S) (hserializer : p.serializer = s.serializer)
    (hmade : p.clock.now = .ok made) (hjti : (drawId p.entropy).1 = .ok jti)
    (hprove : (p.prove D method url token).1 = .ok proof)
    (hparser : v.parser = Jose.Jwt.parser S) (hstore : v.store = Replay.Memory.store t)
    (hvalid : v.settings.validate = .ok ()) (hnow : v.clock.now = .ok now)
    (hnear : (now.toInt - made.toInt).natAbs ≤ v.settings.windowSecs.toNat)
    {m : Replay.Memory} (hunused : m.isLive t (Replay.key jti) = false)
    (hend : t + v.settings.ttl.nanos < Replay.Memory.clockEnd)
    (hsame : Target.ofRequest D method' url' = Target.ofRequest D method url)
    {x : Expectation} (hjkt : ∀ jkt ∈ x.jkt, jkt = s.key.thumbprint) :
    (token = none ∨ x.token = none ∨ x.token = token →
      (v.verify D method' url' proof x m).1 = .ok ⟨s.key.thumbprint⟩) ∧
    ∀ a b, token = some a → x.token = some b → a ≠ b →
      (Digest.sha256 (Bytes.ofString a) = Digest.sha256 (Bytes.ofString b) → a = b) →
      (v.verify D method' url' proof x m).1 =
        .error (.refused (.binding "Access token hash mismatch")) := by
  obtain ⟨claims, hex, rfl, hath⟩ :=
    Verifier.examine_of_prove hs hserializer hmade hjti hprove hparser hvalid hnow hnear
      hsame
  have hanswer :
      (v.verify D method' url' proof x m).1 = Checked.ofResult (confirm x s.key claims) := by
    rw [Verifier.verify_eq hstore hex hunused hend]
  rw [hanswer]
  rcases confirm_cases x s.key claims with ⟨hdiffers, hc⟩ | ⟨hsametoken, hkey⟩
  · -- the proof is bound to an access token, and the caller has one with another
    -- fingerprint
    obtain ⟨b, hb, ath, hbound, hne⟩ := hdiffers
    obtain ⟨a, ha, rfl⟩ := Option.map_eq_some_iff.mp (hath.symm.trans hbound)
    rw [hc]
    refine ⟨fun htoken => absurd htoken ?_, fun _ _ _ _ _ _ => rfl⟩
    rintro (hnone | hnone | heq)
    · cases hnone.symm.trans ha
    · cases hnone.symm.trans hb
    · cases ha.symm.trans (heq.symm.trans hb)
      exact hne rfl
  · -- there are no two access tokens, or both have one fingerprint, and so they are the
    -- same
    rcases hkey with ⟨⟨jkt, hmem, hne⟩, -⟩ | ⟨-, hc⟩
    · exact absurd (hjkt jkt hmem) hne
    rw [hc]
    refine ⟨fun _ => rfl, fun a b ha hb hne hcollision => ?_⟩
    have hbound : claims.ath = some (tokenHash a) := by
      rw [hath, ha]
      rfl
    exact absurd (hcollision (tokenHash_eq_iff.mp (hsametoken b hb _ hbound))) hne

end Agreement

/-! ## A sample -/

/-- A signer that has a signature of one message and can make no other. -/
def withSignature (s : Jose.Signer) (message signature : Bytes) : Jose.Signer :=
  { s with sign := fun m => if m = message then some signature else none }

theorem verified_withSignature {S : Jose.Scheme} {s : Jose.Signer}
    {message signature : Bytes}
    (h : S.verify .es256 (.ec (4 :: s.x.bytes ++ s.y.bytes)) message signature = true) :
    (withSignature s message signature).Verified S := by
  intro m made hm
  unfold withSignature at hm ⊢
  dsimp only at hm ⊢
  split at hm
  next heq =>
    cases hm
    rw [heq]
    exact h
  next => cases hm

theorem sign_withSignature (s : Jose.Signer) (message signature : Bytes) :
    (withSignature s message signature).sign message = some signature := if_pos rfl

theorem header_withSignature (s : Jose.Signer) (message signature : Bytes) (typ : String) :
    (withSignature s message signature).header typ = s.header typ := rfl

/-- It signs a token whose message this is. -/
theorem serialize_withSignature {s : Jose.Signer} {typ : String} {v : Json}
    {signature : Bytes} : (withSignature s (Bytes.ofString (Jose.Compact.message
      ⟨Jose.writePart (s.header typ), Jose.writePart v, ""⟩)) signature).serialize typ v =
        .ok (Jose.Compact.render ⟨Jose.writePart (s.header typ), Jose.writePart v,
          Text.Base64Url.encode signature⟩) := by
  rw [Jose.Signer.serialize_eq_ok_iff, header_withSignature]
  exact ⟨signature, sign_withSignature .., rfl⟩

/-- The claims of a proof for `GET http://h/` that is bound to an access token. -/
def boundClaims (token : String) : Claims :=
  ⟨"AAAAAAAAAAAAAAAAAAAAAA", "GET", "http://h/", 0, some (tokenHash token)⟩

/-- The base point of P-256, which is the public key of the private number one. -/
def baseSigner : Jose.Signer :=
  ⟨.ofNat 32 Signature.Curve.p256.baseX, .ofNat 32 Signature.Curve.p256.baseY,
    fun _ => none⟩

/-- What is signed in a proof of the sample claims. -/
def boundMessage : Bytes :=
  Bytes.ofString (Jose.Compact.message ⟨Jose.writePart (baseSigner.header proofType),
    Jose.writePart (boundClaims "a").toJson, ""⟩)

/-- Its signature under the private number one. -/
def boundSignature : Bytes :=
  Bytes.ofNat 32
    66891846022835668086326427962789849457557038113369791806966890136099541258221 ++
    Bytes.ofNat 32
      23774189705752547226156165207534691669149737209996044652405715201274380741130

/-- The signature is checked by the curve itself: this hashes the message and adds two
multiples. -/
theorem boundSignature_verifies : Jose.Scheme.standard.verify .es256
    (.ec (4 :: baseSigner.x.bytes ++ baseSigner.y.bytes)) boundMessage boundSignature =
      true := by
  decide +kernel

/-- The proof of the sample. -/
def boundProof : String :=
  Jose.Compact.render ⟨Jose.writePart (baseSigner.header proofType),
    Jose.writePart (boundClaims "a").toJson, Text.Base64Url.encode boundSignature⟩

/-- The signer of the sample. -/
def boundSigner : Jose.Signer := withSignature baseSigner boundMessage boundSignature

/-- The prover of the sample draws an identifier of zeros, at second 0. -/
def boundProver : Prover :=
  ⟨boundSigner.serializer, .script (List.replicate 16 0), .seconds 0⟩

/-- The verifier of the sample, at the last second at which the proof is fresh. -/
def boundVerifier : Verifier Replay.Memory :=
  ⟨Jose.Jwt.parser .standard, Replay.Memory.store 0, .seconds 15, {}⟩

theorem drawId_boundProver :
    (drawId boundProver.entropy).1 = .ok "AAAAAAAAAAAAAAAAAAAAAA" := rfl

/-- The prover of the sample makes its proof. -/
theorem prove_boundProver :
    (boundProver.prove some "GET" "http://h/" (some "a")).1 = .ok boundProof := by
  have hwritten :
    boundSigner.serialize proofType (boundClaims "a").toJson = .ok boundProof :=
    serialize_withSignature
  exact (Prover.prove_eq_ok_iff rfl).mpr
    ⟨_, _, _, target_sampleRequest, drawId_boundProver, rfl, hwritten⟩

/-- A proof that is bound to the access token `a` is confirmed for `a`, with the request in
another spelling and in the last second of the window, and refused for `b`. -/
theorem bound_proof_is_confirmed :
    (boundProver.prove some "GET" "http://h/" (some "a")).1 = .ok boundProof ∧
      (boundVerifier.verify some "get" "http://h:80/?q" boundProof
        { token := some "a", jkt := some boundSigner.key.thumbprint } .empty).1 =
          .ok ⟨boundSigner.key.thumbprint⟩ ∧
      (boundVerifier.verify some "get" "http://h:80/?q" boundProof
        { token := some "b" } .empty).1 =
        .error (.refused (.binding "Access token hash mismatch")) := by
  have hverified : boundSigner.Verified .standard :=
    verified_withSignature boundSignature_verifies
  have hvalid : boundVerifier.settings.validate = .ok () :=
    (Settings.validate_eq_ok_iff _).mpr (by decide)
  have hsame : Target.ofRequest some "get" "http://h:80/?q" =
      Target.ofRequest some "GET" "http://h/" :=
    (Result.toOption_eq_some.mp (by decide +kernel)).trans target_sampleRequest.symm
  have hdigests : Digest.sha256 (Bytes.ofString "a") ≠ Digest.sha256 (Bytes.ofString "b") :=
    fun h => absurd (congrArg List.head? h) (by decide +kernel)
  refine ⟨prove_boundProver, ?_, ?_⟩
  · exact (proof_is_confirmed hverified rfl rfl drawId_boundProver prove_boundProver rfl rfl
      hvalid rfl
      (by decide) rfl (by decide) hsame (by simp)).1 (Or.inr (Or.inr rfl))
  · exact (proof_is_confirmed hverified rfl rfl drawId_boundProver prove_boundProver rfl rfl
      hvalid rfl
      (by decide) rfl (by decide) hsame (by simp)).2 "a" "b" rfl rfl (by decide)
      (fun h => absurd h hdigests)

end Possession.Proof
