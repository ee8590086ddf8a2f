import Possession.Proofs.Jose.ClaimSet
import Possession.Proofs.Jose.Thumbprint

/-!
# The names of a key

A confirmation names the key of a proof by its thumbprint. That is a fingerprint of the key
as it is written in the header, while the signature is checked with the key that is read
from there. This file compares the two:

> `same_name_iff_spelled_alike`: two accepted proofs that are checked with one key are
> confirmed with one thumbprint exactly if their headers name the same curve and cut the
> point at the same place.

Base64url does not matter, since every octet string has one written form
(`decode?_eq_some_iff`), and the text under a fingerprint says which key it was made of
(`Key.octets_injective`). So an RSA key has one name. What is written and not used are the
name of the curve, which the algorithm chooses, and the place where the octets of a point
are divided in two coordinates, which are put together again. A holder of a key can have it
confirmed in each of these spellings (`verify_spelledToken`).
-/

namespace Possession

/-! ## What a key spells out -/

namespace Proof.Key

/-- The curve that is named with a key. -/
def curve? : Key → Option String
  | ec crv _ _ => some crv
  | okp crv _ => some crv
  | rsa .. => none

/-- How many octets of a point are written as its first coordinate. -/
def cut? : Key → Option Nat
  | ec _ x _ => (Text.Base64Url.decode? x).map List.length
  | rsa .. | okp .. => none

/-- Two keys name the same curve and cut a point at the same place. -/
def SpelledLike (a b : Key) : Prop := a.curve? = b.curve? ∧ a.cut? = b.cut?

instance (a b : Key) : Decidable (a.SpelledLike b) :=
  inferInstanceAs (Decidable (a.curve? = b.curve? ∧ a.cut? = b.cut?))

end Proof.Key

/-! ## What is read from a key -/

namespace Jose

open Text.Base64Url (encode decode? decode?_eq_some_iff decode?_encode)

namespace VerifyingKey

variable {vk : VerifyingKey}

theorem ofKey?_ec {crv x y : String} : ofKey? (.ec crv x y) = some vk ↔
    ∃ a b, x = encode a ∧ y = encode b ∧ vk = .ec (4 :: a ++ b) := by
  simp only [ofKey?, Option.bind_eq_bind, Option.bind_eq_some_iff, decode?_eq_some_iff,
    Option.pure_def, Option.some.injEq]
  constructor
  · rintro ⟨a, hx, b, hy, rfl⟩
    exact ⟨a, b, hx, hy, rfl⟩
  · rintro ⟨a, b, hx, hy, rfl⟩
    exact ⟨a, hx, b, hy, rfl⟩

theorem ofKey?_rsa {n e : String} : ofKey? (.rsa n e) = some vk ↔
    ∃ a b, n = encode a ∧ e = encode b ∧ vk = .rsa a b := by
  simp only [ofKey?, Option.bind_eq_bind, Option.bind_eq_some_iff, decode?_eq_some_iff,
    Option.pure_def, Option.some.injEq]
  constructor
  · rintro ⟨a, hn, b, he, rfl⟩
    exact ⟨a, b, hn, he, rfl⟩
  · rintro ⟨a, b, hn, he, rfl⟩
    exact ⟨a, hn, b, he, rfl⟩

theorem ofKey?_okp {crv x : String} : ofKey? (.okp crv x) = some vk ↔
    ∃ a, x = encode a ∧ vk = .ed a := by
  simp only [ofKey?, Option.bind_eq_bind, Option.bind_eq_some_iff, decode?_eq_some_iff,
    Option.pure_def, Option.some.injEq]
  constructor
  · rintro ⟨a, hx, rfl⟩
    exact ⟨a, hx, rfl⟩
  · rintro ⟨a, hx, rfl⟩
    exact ⟨a, hx, rfl⟩

/-- What is read from a key, with its curve and the place where it cuts a point, is all that
is written in it. -/
theorem eq_iff_spelledLike {k l : Proof.Key} (hk : ofKey? k = some vk)
    (hl : ofKey? l = some vk) : k = l ↔ k.SpelledLike l := by
  constructor
  · intro h
    rw [h]
    exact ⟨rfl, rfl⟩
  · rintro ⟨hcurve, hcut⟩
    cases k with
    | ec crv x y =>
      obtain ⟨a, b, rfl, rfl, rfl⟩ := ofKey?_ec.mp hk
      cases l with
      | ec crv' x' y' =>
        obtain ⟨a', b', rfl, rfl, hpoint⟩ := ofKey?_ec.mp hl
        cases hcurve
        simp only [Proof.Key.cut?, decode?_encode, Option.map_some,
          Option.some.injEq] at hcut
        simp only [ec.injEq, List.cons_append, List.cons.injEq, true_and] at hpoint
        obtain ⟨rfl, rfl⟩ := List.append_inj hpoint hcut
        rfl
      | rsa => obtain ⟨_, _, -, -, h⟩ := ofKey?_rsa.mp hl; cases h
      | okp => obtain ⟨_, -, h⟩ := ofKey?_okp.mp hl; cases h
    | rsa n e =>
      obtain ⟨a, b, rfl, rfl, rfl⟩ := ofKey?_rsa.mp hk
      cases l with
      | ec => obtain ⟨_, _, -, -, h⟩ := ofKey?_ec.mp hl; cases h
      | rsa n' e' =>
        obtain ⟨_, _, rfl, rfl, h⟩ := ofKey?_rsa.mp hl
        cases h
        rfl
      | okp => obtain ⟨_, -, h⟩ := ofKey?_okp.mp hl; cases h
    | okp crv x =>
      obtain ⟨a, rfl, rfl⟩ := ofKey?_okp.mp hk
      cases l with
      | ec => obtain ⟨_, _, -, -, h⟩ := ofKey?_ec.mp hl; cases h
      | rsa => obtain ⟨_, _, -, -, h⟩ := ofKey?_rsa.mp hl; cases h
      | okp crv' x' =>
        obtain ⟨_, rfl, h⟩ := ofKey?_okp.mp hl
        cases h
        cases hcurve
        rfl

end VerifyingKey

/-! ## Spellings -/

/-- The header of a proof of ES256 with a point that is cut in two, on a curve of any
name. -/
def spelledHeader (crv : String) (a b : Bytes) : Json :=
  .obj [("typ", .str Proof.proofType), ("alg", .str Algorithm.es256.name),
    ("jwk", .obj [("use", .str "sig"), ("alg", .str "ES256"), ("kty", .str "EC"),
      ("crv", .str crv), ("x", .str (encode a)), ("y", .str (encode b))])]

/-- What is signed in such a proof. -/
def spelledMessage (crv : String) (a b : Bytes) (claims : Proof.Claims) : Bytes :=
  Bytes.ofString
    (Compact.message ⟨writePart (spelledHeader crv a b), writePart claims.toJson, ""⟩)

/-- Such a proof. -/
def spelledToken (crv : String) (a b : Bytes) (claims : Proof.Claims) (signature : Bytes) :
    String :=
  Compact.render ⟨writePart (spelledHeader crv a b), writePart claims.toJson,
    encode signature⟩

section Spelled

variable {S : Scheme} {crv : String} {a b signature : Bytes} {claims : Proof.Claims}

theorem plain_spelledHeader (crv : String) (a b : Bytes) :
    (spelledHeader crv a b).Plain Json.maxDepth := by
  unfold spelledHeader Json.maxDepth
  simp [Json.Plain]

/-- Each of the known curve names will do. -/
theorem ofJson_spelledHeader (hcrv : crv ∈ EmbeddedKey.curves) (a b : Bytes) :
    Header.ofJson (spelledHeader crv a b) =
      .ok ⟨some Proof.proofType, .es256, some (.ec crv (encode a) (encode b))⟩ := by
  simp only [EmbeddedKey.curves, List.mem_cons, List.not_mem_nil, or_false] at hcrv
  rcases hcrv with rfl | rfl | rfl | rfl <;> rfl

theorem parse_spelledToken (hcrv : crv ∈ EmbeddedKey.curves) :
    Jwt.parse (spelledToken crv a b claims signature) =
      .ok ⟨spelledToken crv a b claims signature, .es256, some Proof.proofType,
        some (.ec crv (encode a) (encode b))⟩ :=
  Jwt.parse_of_parts
    (Compact.parse?_render (point_not_mem_writePart _)
      (Text.Base64Url.point_not_mem_encode _))
    (plain_spelledHeader crv a b) (ofJson_spelledHeader hcrv a b)
      (List.mem_cons_self ..) rfl

/-- A proof that is signed for the whole point is authentic under the key as its header
spells it. -/
theorem parser_spelledToken (hcrv : crv ∈ EmbeddedKey.curves)
    (hverify : S.verify .es256 (.ec (4 :: a ++ b))
      (spelledMessage crv a b claims) signature = true) :
    ∃ envelope, Jwt.parser S (spelledToken crv a b claims signature) = .ok envelope ∧
      envelope.typ = some Proof.proofType ∧
      envelope.key = some (.ec crv (encode a) (encode b)) ∧
      envelope.claims (.ec crv (encode a) (encode b)) = .ok claims := by
  refine ⟨_, Result.map_eq_ok.mpr ⟨_, parse_spelledToken hcrv, rfl⟩, rfl, rfl, ?_⟩
  exact Jwt.claims_of_parts
    (Compact.parse?_render (point_not_mem_writePart _)
      (Text.Base64Url.point_not_mem_encode _))
    (VerifyingKey.ofKey?_ec.mpr ⟨a, b, rfl, rfl, rfl⟩) rfl hverify

/-- A fresh proof for a request is confirmed with the name of the key as its header spells
it. -/
theorem verify_spelledToken {v : Proof.Verifier Replay.Memory} {D : Web.Url.DomainReader}
    {method url : String} {now : Int64} {t : Nat} {m : Replay.Memory}
    (hcrv : crv ∈ EmbeddedKey.curves)
    (hverify : S.verify .es256 (.ec (4 :: a ++ b))
      (spelledMessage crv a b claims) signature = true)
    (hparser : v.parser = Jwt.parser S) (hstore : v.store = Replay.Memory.store t)
    (htarget : Proof.Target.ofRequest D method url = .ok ⟨claims.htm, claims.htu⟩)
    (hnow : v.clock.now = .ok now)
    (hfresh : Proof.checkFresh v.settings.window now claims.iat = .ok ())
    (hunused : m.isLive t (Replay.key claims.jti) = false)
    (hend : t + v.settings.ttl.nanos < Replay.Memory.clockEnd) :
    (v.verify D method url (spelledToken crv a b claims signature) {} m).1 =
      .ok ⟨(Proof.Key.ec crv (encode a) (encode b)).thumbprint⟩ := by
  obtain ⟨envelope, hread, htyp, hkey, hclaims⟩ := parser_spelledToken (S := S) hcrv hverify
  rw [← hparser] at hread
  have hex : v.examine D method url (spelledToken crv a b claims signature) =
      .ok (.ec crv (encode a) (encode b), claims) :=
    Proof.Verifier.examine_eq_ok_iff.mpr ⟨_, envelope, now, htarget,
      Compact.isBlank_render _, hread, htyp, hkey, hclaims, rfl, rfl, hnow, hfresh⟩
  rw [Proof.Verifier.verify_eq hstore hex hunused hend]
  rfl

end Spelled

/-! ## The key of an accepted proof -/

section Accepted

variable {σ : Type} {v : Proof.Verifier σ} {S : Scheme} {D : Web.Url.DomainReader}
  {method url proof : String} {x : Proof.Expectation} {s : σ} {c : Proof.Confirmation}

/-- A confirmation is what is left of a proof that passes the three gates, each for the
claims of the first. -/
theorem verify_eq_ok (h : (v.verify D method url proof x s).1 = .ok c) :
    ∃ key claims, v.examine D method url proof = .ok (key, claims) ∧
      v.consume claims.jti s = (.ok (), (v.verify D method url proof x s).2) ∧
      Proof.confirm x key claims = .ok c := by
  unfold Proof.Verifier.verify at h ⊢
  cases hex : v.examine D method url proof with
  | error f =>
    rw [hex] at h
    cases h
  | ok passed =>
    obtain ⟨key, claims⟩ := passed
    refine ⟨key, claims, rfl, ?_⟩
    rw [hex] at h
    dsimp only at h ⊢
    split at h
    next => cases h
    next s' hconsume =>
      rw [hconsume]
      exact ⟨rfl, Proof.ofResult_eq_ok.mp h⟩

/-- The key in the header of an accepted proof can be read, and it is the key that is
confirmed. -/
theorem key_of_verify (hparser : v.parser = Jwt.parser S)
    (h : (v.verify D method url proof x s).1 = .ok c) {jwt : Jwt}
    (hparse : Jwt.parse proof = .ok jwt) {k : Proof.Key} (hk : jwt.key = some k) :
    c.jkt = k.thumbprint ∧ ∃ vk, VerifyingKey.ofKey? k = some vk := by
  obtain ⟨key, claims, hex, -, hconfirm⟩ := verify_eq_ok h
  obtain ⟨-, -, rfl⟩ := Proof.confirm_eq_ok_iff.mp hconfirm
  obtain ⟨-, envelope, -, -, -, hread, -, hkey, hclaims, -⟩ :=
    Proof.Verifier.examine_eq_ok_iff.mp hex
  rw [hparser] at hread
  obtain ⟨jwt', hparse', rfl⟩ := Result.map_eq_ok.mp hread
  cases hparse.symm.trans hparse'
  cases hk.symm.trans hkey
  obtain ⟨payload, vk, t, hvk, -⟩ := Jwt.authentic_of_claims hclaims
  exact ⟨rfl, vk, hvk⟩

end Accepted

/-- **One key, one name.** Two accepted proofs, at any verifiers, carry keys that are read
as the same verifying key. They are confirmed with the same thumbprint exactly if both
headers name the same curve and cut the point at the same place. It is assumed that SHA-256
does not take the one key as it is written for the other. -/
theorem same_name_iff_spelled_alike {σ τ : Type} {v : Proof.Verifier σ}
    {w : Proof.Verifier τ} {S : Scheme} (hv : v.parser = Jwt.parser S)
    (hw : w.parser = Jwt.parser S) {D : Web.Url.DomainReader} (r r' : Proof.Request) {s : σ}
    {t : τ} {c c' : Proof.Confirmation}
    (hc : (v.verify D r.method r.url r.proof r.expectation s).1 = .ok c)
    (hc' : (w.verify D r'.method r'.url r'.proof r'.expectation t).1 = .ok c')
    {jwt jwt' : Jwt} (hparse : Jwt.parse r.proof = .ok jwt)
    (hparse' : Jwt.parse r'.proof = .ok jwt') {k k' : Proof.Key} (hk : jwt.key = some k)
    (hk' : jwt'.key = some k') (hsame : VerifyingKey.ofKey? k = VerifyingKey.ofKey? k')
    (hcollision : Digest.sha256 k.octets = Digest.sha256 k'.octets → k.octets = k'.octets) :
    c.jkt = c'.jkt ↔ k.SpelledLike k' := by
  obtain ⟨hjkt, vk, hread⟩ := key_of_verify hv hc hparse hk
  obtain ⟨hjkt', -⟩ := key_of_verify hw hc' hparse' hk'
  rw [hjkt, hjkt', Proof.Key.thumbprint_eq_iff hcollision]
  exact VerifyingKey.eq_iff_spelledLike hread (hsame.symm.trans hread)

/-! ## A sample -/

/-- The base point under the name of another curve. -/
def renamedKey : Proof.Key :=
  .ec "P-384" (encode Proof.baseSigner.x.bytes) (encode Proof.baseSigner.y.bytes)

/-- The signature, under the private number one, of a proof with this key. -/
def renamedSignature : Bytes :=
  Bytes.ofNat 32
    39149971527311902558603173419624450219028765271999846552955510948333195553761 ++
    Bytes.ofNat 32
      12199643479750320775578218298112859788666816916620600862181343169775942735312

theorem renamedSignature_verifies : Scheme.standard.verify .es256
    (.ec (4 :: Proof.baseSigner.x.bytes ++ Proof.baseSigner.y.bytes))
    (spelledMessage "P-384" Proof.baseSigner.x.bytes Proof.baseSigner.y.bytes
      (Proof.boundClaims "a"))
    renamedSignature = true := by
  decide +kernel

/-- A proof with this key, for the same claims as the sample that is bound to an access
token. -/
def renamedProof : String :=
  spelledToken "P-384" Proof.baseSigner.x.bytes Proof.baseSigner.y.bytes
    (Proof.boundClaims "a") renamedSignature

theorem p256_mem_curves : "P-256" ∈ EmbeddedKey.curves := List.mem_cons_self ..

theorem p384_mem_curves : "P-384" ∈ EmbeddedKey.curves :=
  List.mem_cons_of_mem _ (List.mem_cons_self ..)

theorem parse_boundProof : Jwt.parse Proof.boundProof =
    .ok ⟨Proof.boundProof, .es256, some Proof.proofType, some Proof.baseSigner.key⟩ :=
  parse_spelledToken p256_mem_curves

theorem parse_renamedProof :
    Jwt.parse renamedProof = .ok ⟨renamedProof, .es256, some Proof.proofType,
      some renamedKey⟩ :=
  parse_spelledToken p384_mem_curves

theorem verify_boundProof :
    (Proof.boundVerifier.verify some "GET" "http://h/" Proof.boundProof {} .empty).1 =
      .ok ⟨Proof.baseSigner.key.thumbprint⟩ :=
  verify_spelledToken p256_mem_curves Proof.boundSignature_verifies rfl rfl
    Proof.target_sampleRequest
    rfl rfl rfl (by decide)

theorem verify_renamedProof :
    (Proof.boundVerifier.verify some "GET" "http://h/" renamedProof {} .empty).1 =
      .ok ⟨renamedKey.thumbprint⟩ :=
  verify_spelledToken p384_mem_curves renamedSignature_verifies rfl rfl
    Proof.target_sampleRequest
    rfl rfl rfl (by decide)

theorem ofKey?_renamedKey :
    VerifyingKey.ofKey? Proof.baseSigner.key = VerifyingKey.ofKey? renamedKey := rfl

theorem sha256_renamedKey :
    Digest.sha256 Proof.baseSigner.key.octets ≠ Digest.sha256 renamedKey.octets :=
  fun h => absurd (congrArg List.head? h) (by decide +kernel)

/-- Two proofs of one algorithm carry keys that are read as one verifying key. A verifier
accepts both, and confirms them with two thumbprints. -/
theorem one_key_two_names :
    Jwt.parse Proof.boundProof =
        .ok ⟨Proof.boundProof, .es256, some Proof.proofType, some Proof.baseSigner.key⟩ ∧
      Jwt.parse renamedProof = .ok ⟨renamedProof, .es256, some Proof.proofType,
        some renamedKey⟩ ∧
      VerifyingKey.ofKey? Proof.baseSigner.key =
        some (.ec (4 :: Proof.baseSigner.x.bytes ++ Proof.baseSigner.y.bytes)) ∧
      VerifyingKey.ofKey? renamedKey =
        some (.ec (4 :: Proof.baseSigner.x.bytes ++ Proof.baseSigner.y.bytes)) ∧
      (Proof.boundVerifier.verify some "GET" "http://h/" Proof.boundProof {} .empty).1 =
        .ok ⟨Proof.baseSigner.key.thumbprint⟩ ∧
      (Proof.boundVerifier.verify some "GET" "http://h/" renamedProof {} .empty).1 =
        .ok ⟨renamedKey.thumbprint⟩ ∧
      Proof.baseSigner.key.thumbprint ≠ renamedKey.thumbprint := by
  have hread : VerifyingKey.ofKey? Proof.baseSigner.key =
      some (.ec (4 :: Proof.baseSigner.x.bytes ++ Proof.baseSigner.y.bytes)) :=
    VerifyingKey.ofKey?_ec.mpr ⟨_, _, rfl, rfl, rfl⟩
  refine ⟨parse_boundProof, parse_renamedProof, hread, ofKey?_renamedKey.symm.trans hread,
    verify_boundProof, verify_renamedProof, ?_⟩
  intro hname
  exact sha256_renamedKey (Text.Base64Url.encode_injective hname)

/-- The two names differ because the names of the curves do. -/
theorem renamed_key_is_spelled_differently :
    (Proof.baseSigner.key.thumbprint = renamedKey.thumbprint ↔
        Proof.baseSigner.key.SpelledLike renamedKey) ∧
      ¬ Proof.baseSigner.key.SpelledLike renamedKey := by
  have hiff := same_name_iff_spelled_alike (v := Proof.boundVerifier)
    (w := Proof.boundVerifier) rfl rfl
    ⟨"GET", "http://h/", Proof.boundProof, {}⟩ ⟨"GET", "http://h/", renamedProof, {}⟩
    verify_boundProof verify_renamedProof parse_boundProof parse_renamedProof rfl rfl
    ofKey?_renamedKey
    (fun h => absurd h sha256_renamedKey)
  exact ⟨hiff, fun h => absurd h.1 (by decide)⟩

end Jose

end Possession
