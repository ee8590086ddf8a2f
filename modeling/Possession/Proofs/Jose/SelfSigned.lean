import Possession.Proofs.Categories

/-!
# Proofs that are signed with the key they carry

A proof is read in separate steps. Its header alone gives the algorithm and the key; the
text is then cut again for the signature; and only when that has been checked is the middle
part looked at. This file says that the steps are about one text:

> `exists_selfSigned`: what passes them is a proof whose last part is a signature of all
> that stands before the last point, under the algorithm and the key of its first part, and
> whose middle part gives the claims;
> `confirms_of_verify`: a verifier that accepts it has checked these claims, each against
> the request, the clock, the store, or what its caller knows;
> `refused_of_altered`: if a signature is not that of two messages under one key, another
> text with the same key in front of the same signature is refused, before its claims are
> looked at.

The parts of a text are determined by it (`Compact.parse?_eq_some_iff`), and so is what one
member of a header says, since it may not be repeated (`Json.fieldOnce_eq_ok_some_iff`).
That is why the steps cannot disagree.
-/

namespace Possession

namespace Jose

/-! ## The parts of a text -/

/-- A text is three parts without points, joined by points. -/
structure Compact.Spells (t : Compact) (text : String) : Prop where
  eq : text = t.header ++ "." ++ t.payload ++ "." ++ t.signature
  header : '.' ∉ t.header.toList
  payload : '.' ∉ t.payload.toList
  signature : '.' ∉ t.signature.toList

theorem Compact.Spells.parse?_eq {t : Compact} {text : String} (h : t.Spells text) :
    parse? text = some t :=
  parse?_eq_some_iff.mpr ⟨h.eq, h.payload, h.signature⟩

theorem Compact.Spells.unique {t t' : Compact} {text : String} (h : t.Spells text)
    (h' : t'.Spells text) : t = t' :=
  Option.some.inj (h.parse?_eq.symm.trans h'.parse?_eq)

/-- What stands after the last point, and so what stands before it, is determined by the
text. -/
theorem Compact.append_point_inj {m m' signature signature' : String}
    (h : '.' ∉ signature.toList) (h' : '.' ∉ signature'.toList)
    (heq : m ++ "." ++ signature = m' ++ "." ++ signature') :
    m = m' ∧ signature = signature' := by
  have hlist :
    m.toList ++ '.' :: signature.toList = m'.toList ++ '.' :: signature'.toList := by
    simpa using congrArg String.toList heq
  have hcut : Text.CodePoints.cutLast '.' (m.toList ++ '.' :: signature.toList) =
      some (m.toList, signature.toList) := Text.cutLast_append h
  rw [hlist, Text.cutLast_append h'] at hcut
  obtain ⟨hm, hsignature⟩ := Prod.mk.inj (Option.some.inj hcut)
  exact ⟨(String.toList_inj.mp hm).symm, (String.toList_inj.mp hsignature).symm⟩

/-- A part that can be read has no point. -/
theorem point_not_mem_of_readPart {part : String} {v : Json} (h : readPart part = .ok v) :
    '.' ∉ part.toList := by
  unfold readPart at h
  split at h
  next => cases h
  next bytes hdecode =>
    rw [Text.Base64Url.decode?_eq_some_iff] at hdecode
    rw [hdecode]
    exact Text.Base64Url.point_not_mem_encode bytes

/-! ## What a header says -/

namespace Header

/-- The header in a part names one algorithm. -/
def NamesAlgorithm (part : String) (a : Algorithm) : Prop :=
  ∃ members v, readPart part = .ok (.obj members) ∧
    members.filter (·.1 == "alg") = [("alg", v)] ∧
    (v = .str a.name ∨ v = .obj [(a.name, .null)])

/-- The header in a part carries one public key. -/
def CarriesKey (part : String) (key : Proof.Key) : Prop :=
  ∃ members v embedded, readPart part = .ok (.obj members) ∧
    members.filter (·.1 == "jwk") = [("jwk", v)] ∧ EmbeddedKey.ofJson v = .ok embedded ∧
    embedded.publicKey = .ok key

theorem CarriesKey.unique {part : String} {key key' : Proof.Key} (h : CarriesKey part key)
    (h' : CarriesKey part key') : key = key' := by
  obtain ⟨members, v, embedded, hread, hone, hkey, hpublic⟩ := h
  obtain ⟨members', v', embedded', hread', hone', hkey', hpublic'⟩ := h'
  cases hread.symm.trans hread'
  cases hone.symm.trans hone'
  cases hkey.symm.trans hkey'
  exact Except.ok.inj (hpublic.symm.trans hpublic')

theorem eq_name_of_ofJson {v : Json} {a : Algorithm} (h : Algorithm.ofJson v = .ok a) :
    v = .str a.name ∨ v = .obj [(a.name, .null)] := by
  obtain ⟨s, hmem, hv⟩ := Json.eq_of_decodeName h
  obtain ⟨b, -, hb⟩ := List.mem_map.mp hmem
  cases hb
  exact hv

/-- What is kept of a header is what it says. -/
theorem names_of_ofJson {part : String} {v : Json} {h : Header}
    (hread : readPart part = .ok v) (hheader : ofJson v = .ok h) :
    NamesAlgorithm part h.alg ∧
      ∀ embedded key, h.jwk = some embedded → embedded.publicKey = .ok key →
      CarriesKey part key := by
  unfold ofJson at hheader
  split at hheader
  next members =>
    simp only [Result.bind_eq_ok, Json.require_eq_ok_iff] at hheader
    obtain ⟨typ, -, alg, halg, jwk, hjwk, -, -, -, -, -, -, a, rfl, hheader⟩ := hheader
    cases hheader
    obtain ⟨w, hone, hw⟩ := Json.fieldOnce_eq_ok_some_iff.mp halg
    refine ⟨⟨members, w, hread, hone, eq_name_of_ofJson hw⟩,
      fun embedded key hembedded hpublic => ?_⟩
    obtain ⟨o, rfl, rfl⟩ : ∃ o, jwk = some o ∧ o = some embedded := by
      cases jwk with
      | none => cases hembedded
      | some o => exact ⟨o, rfl, hembedded⟩
    obtain ⟨w, hone, hw⟩ := Json.fieldOnce_eq_ok_some_iff.mp hjwk
    have hnull : EmbeddedKey.ofJson .null ≠ .ok embedded := nofun
    exact ⟨members, w, embedded, hread, hone,
      (Json.decodeOption_eq_ok_some_iff hnull).mp hw, hpublic⟩
  next => cases hheader

end Header

/-- A text that is read as a token has a header that names one of five algorithms, and the
key that is given out is the one that it carries. -/
theorem Jwt.names_of_parse {text : String} {jwt : Jwt} (h : parse text = .ok jwt) :
    jwt.raw = text ∧ ∃ t, Compact.Spells t text ∧
    Header.NamesAlgorithm t.header jwt.algorithm ∧
      jwt.algorithm ∈ Algorithm.allowed ∧
      ∀ key, jwt.key = some key → Header.CarriesKey t.header key := by
  obtain ⟨header, key, hheader, hallowed, hkey, rfl⟩ := parse_eq_ok_iff.mp h
  obtain ⟨t, v, hparts, hread, hkept⟩ := readHeader_eq_ok_iff.mp hheader
  obtain ⟨hnames, hcarries⟩ := Header.names_of_ofJson hread hkept
  obtain ⟨htext, hpayload, hsignature⟩ := Compact.parse?_eq_some_iff.mp hparts
  refine ⟨rfl, t, ⟨htext, point_not_mem_of_readPart hread, hpayload, hsignature⟩,
    hnames, hallowed, fun k hk => ?_⟩
  obtain rfl : key = some k := hk
  obtain ⟨embedded, hembedded, hpublic⟩ := readKey_eq_ok_some_iff.mp hkey
  exact hcarries embedded k hembedded hpublic

/-! ## What the signature is of -/

/-- A text is a proof of claims that is signed with the key it carries. -/
structure SelfSigned (S : Scheme) (text : String) (t : Compact) (a : Algorithm)
    (key : Proof.Key) (vk : VerifyingKey) (claims : Proof.Claims) : Prop where
  spells : t.Spells text
  algorithm : Header.NamesAlgorithm t.header a
  allowed : a ∈ [.es256, .es384, .rs256, .ps256, .edDsa]
  carries : Header.CarriesKey t.header key
  read : VerifyingKey.ofKey? key = some vk
  /-- The last part is a signature of all that stands before the last point. -/
  verifies : ∃ signature, Text.Base64Url.decode? t.signature = some signature ∧
    S.verify a vk (Bytes.ofString (t.header ++ "." ++ t.payload)) signature = true
  /-- The middle part gives the claims. -/
  claims : ∃ v, readPart t.payload = .ok v ∧ Proof.Claims.ofJson v.normalize = .ok claims

section SelfSigned

variable {S : Scheme} {text : String} {key : Proof.Key} {claims : Proof.Claims}

/-- What a reader of tokens vouches for is signed with the key it carries. -/
theorem exists_selfSigned (h : (Jwt.parser S).Vouches text key claims) :
    ∃ t a vk, SelfSigned S text t a key vk claims := by
  obtain ⟨envelope, hread, hkey, hclaims⟩ := h
  obtain ⟨jwt, hparse, rfl⟩ := Result.map_eq_ok.mp hread
  obtain ⟨hraw, t, hspells, hnames, hallowed, hcarries⟩ := Jwt.names_of_parse hparse
  obtain ⟨payload, hauthentic⟩ := Jwt.authentic_of_claims hclaims
  obtain ⟨vk, t', hvk, hparts, hauth, hpayload⟩ := id hauthentic
  -- the text is cut twice, for the header and for the signature, and in the same places
  rw [hraw] at hparts
  obtain rfl := Option.some.inj (hspells.parse?_eq.symm.trans hparts)
  obtain ⟨-, hverifies⟩ := Jwt.authenticate_eq_ok_iff.mp hauth
  have hset := Jwt.claims_of_authentic hauthentic
  rw [show jwt.claims S key = .ok claims from hclaims] at hset
  obtain ⟨w, hw, hdecode⟩ := Result.bind_eq_ok.mp hset.symm
  obtain ⟨v, hv, -, rfl⟩ := Jwt.readClaimSet_eq_ok_iff.mp hw
  exact ⟨t, jwt.algorithm, vk, hspells, hnames, hallowed, hcarries key hkey, hvk,
    hverifies, v, hpayload ▸ hv, Result.mapError_eq_ok.mp hdecode⟩

end SelfSigned

end Jose

/-! ## What has been checked of an accepted proof -/

namespace Proof

section Accepted

variable {σ : Type} {v : Verifier σ} {D : Web.Url.DomainReader} {r : Request} {s : σ}

/-- A verifier confirms a proof for what it found in these claims and this key. -/
structure Verifier.Confirms (v : Verifier σ) (D : Web.Url.DomainReader) (r : Request)
    (s : σ) (key : Key) (claims : Claims) (c : Confirmation) : Prop where
  request : Target.ofRequest D r.method r.url = .ok ⟨claims.htm, claims.htu⟩
  age : ∃ now, v.clock.now = .ok now ∧ checkFresh v.settings.window now claims.iat = .ok ()
  slot :
    v.consume claims.jti s = (.ok (), (v.verify D r.method r.url r.proof r.expectation s).2)
  token : ∀ token ∈ r.expectation.token, ∀ ath ∈ claims.ath, ath = tokenHash token
  name : (∀ jkt ∈ r.expectation.jkt, jkt = key.thumbprint) ∧ c = ⟨key.thumbprint⟩

theorem confirms_of_verify {c : Confirmation}
    (h : (v.verify D r.method r.url r.proof r.expectation s).1 = .ok c) :
    ∃ key claims, v.parser.Vouches r.proof key claims ∧ v.Confirms D r s key claims c := by
  obtain ⟨key, claims, hex, hconsume, hconfirm⟩ := Jose.verify_eq_ok h
  obtain ⟨target, envelope, now, htarget, -, hread, -, hkey, hclaims, hm, hu, hnow,
    hfresh⟩ :=
    Verifier.examine_eq_ok_iff.mp hex
  obtain ⟨htoken, hname⟩ := confirm_eq_ok_iff.mp hconfirm
  refine ⟨key, claims, ⟨envelope, hread, hkey, hclaims⟩, ?_, ⟨now, hnow, hfresh⟩, hconsume,
    htoken, hname⟩
  rw [hm, hu]
  exact htarget

/-- Checks that come after the claims find them there. -/
theorem Check.PassesBefore.exists_vouches {c : Check} (h : c.PassesBefore v D r s)
    (hc : Check.claims.rank < c.rank) :
    ∃ key claims, v.parser.Vouches r.proof key claims := by
  obtain ⟨envelope, hread⟩ := h .reading (Nat.lt_trans (by decide) hc)
  obtain ⟨key, hkey⟩ := h .key (Nat.lt_trans (by decide) hc) envelope hread
  obtain ⟨claims, hclaims⟩ := h .claims hc envelope key hread hkey
  exact ⟨key, claims, envelope, hread, hkey, hclaims⟩

/-- A proof that gives no claims is refused for the argument, the form or the signature, and
the store is not asked. -/
theorem refused_of_not_vouches {S : Jose.Scheme} (hparser : v.parser = Jose.Jwt.parser S)
    (hno : ∀ key claims, ¬ v.parser.Vouches r.proof key claims) :
    ∃ e, v.verify D r.method r.url r.proof r.expectation s = (.error (.refused e), s) ∧
      e.category ∈ ["argument", "format", "authentication"] := by
  unfold Verifier.verify
  cases hex : v.examine D r.method r.url r.proof with
  | ok passed =>
    obtain ⟨-, envelope, -, -, -, hread, -, hkey, hclaims, -⟩ :=
      Verifier.examine_eq_ok_iff.mp hex
    exact absurd ⟨envelope, hread, hkey, hclaims⟩ (hno passed.1 passed.2)
  | error f =>
    rcases Check.examine_error_cases (s := s) hex with
      ⟨e, rfl, c, hfirst, hrefuses⟩ | ⟨_, key, claims, -, -, hv, -⟩
    · refine ⟨e, rfl, ?_⟩
      cases c with
      | target | text =>
        obtain ⟨reason, rfl⟩ := hrefuses
        exact List.mem_cons_self
      | reading | typ | key =>
        obtain ⟨reason, rfl⟩ := hrefuses
        exact List.mem_cons_of_mem _ List.mem_cons_self
      | claims =>
        obtain ⟨envelope, key, hread, -, hclaims⟩ := hrefuses
        rw [hparser] at hread
        obtain ⟨jwt, -, rfl⟩ := Result.map_eq_ok.mp hread
        exact List.mem_cons_of_mem _ (Jose.Jwt.category_of_claims_eq_error hclaims)
      | method | url | clock | stale | early | store | slot | token | thumbprint =>
        obtain ⟨key, claims, hv⟩ := hfirst.2.exists_vouches (by decide)
        exact absurd hv (hno key claims)
    · exact absurd hv (hno key claims)

end Accepted

end Proof

/-! ## Altered proofs -/

namespace Jose

/-- A signature does not verify for both of two messages under a key, with any
algorithms. -/
def Scheme.Tells (S : Scheme) (vk : VerifyingKey) (signature m m' : Bytes) : Prop :=
  ∀ a a', S.verify a vk m signature = true → S.verify a' vk m' signature = true → m = m'

/-- Whatever public key a text carries is read as this one. -/
def KeepsKey (vk : VerifyingKey) (text : String) : Prop :=
  ∀ t key, Compact.Spells t text → Header.CarriesKey t.header key →
    VerifyingKey.ofKey? key = some vk

/-- No verifier of signed tokens accepts a text, for any request and in any state of its
store: it is refused without its claims and without the store. -/
def Refused (S : Scheme) (text : String) : Prop :=
  ∀ (τ : Type) (w : Proof.Verifier τ) (D : Web.Url.DomainReader) (r : Proof.Request)
    (s : τ), w.parser = Jwt.parser S → r.proof = text →
      ∃ e, w.verify D r.method r.url r.proof r.expectation s = (.error (.refused e), s) ∧
        e.category ∈ ["argument", "format", "authentication"]

/-- With another header or other claims in front of its signature, a proof is refused. -/
theorem refused_of_altered {S : Scheme} {text : String} {t : Compact} {a : Algorithm}
    {key : Proof.Key} {vk : VerifyingKey} {claims : Proof.Claims}
    (hsigned : SelfSigned S text t a key vk claims) {message : String}
    (hne : message ≠ t.header ++ "." ++ t.payload)
    (hkeeps : KeepsKey vk (message ++ "." ++ t.signature))
    (htells : ∀ signature, Text.Base64Url.decode? t.signature = some signature →
      S.Tells vk signature (Bytes.ofString (t.header ++ "." ++ t.payload))
        (Bytes.ofString message)) :
    Refused S (message ++ "." ++ t.signature) := by
  intro τ w D r s hparser hproof
  refine Proof.refused_of_not_vouches hparser fun key' claims' hv => ?_
  rw [hparser, hproof] at hv
  obtain ⟨t', a', vk', hsigned'⟩ := exists_selfSigned hv
  -- the other text ends in the same signature, which is one of its own message, under the
  -- same key
  obtain ⟨rfl, hsignature⟩ :=
    Compact.append_point_inj hsigned.spells.signature hsigned'.spells.signature
      hsigned'.spells.eq
  obtain rfl : vk = vk' := by
    have hread := hkeeps t' key' hsigned'.spells hsigned'.carries
    exact Option.some.inj (hread.symm.trans hsigned'.read)
  obtain ⟨signature, hdecode, hverifies⟩ := hsigned.verifies
  obtain ⟨signature', hdecode', hverifies'⟩ := hsigned'.verifies
  rw [← hsignature] at hdecode'
  obtain rfl := Option.some.inj (hdecode.symm.trans hdecode')
  exact hne
    (Bytes.ofString_injective (htells signature hdecode a a' hverifies hverifies')).symm

/-- **Accepted proofs are signed with the key they carry.** A text is read as a token only
if its header names one of five algorithms. A proof that a verifier accepts consists of
three parts; the last is a signature of all that stands before the last point, under the
algorithm that the first part names and the key that it carries; and the claims that were
checked are those in the middle part. With another header or other claims, and the same key
and signature, it is refused everywhere, if the signature is not one of both messages. -/
theorem accepted_proofs_are_self_signed (S : Scheme) :
    (∀ text jwt, Jwt.parse text = .ok jwt → ∃ t, Compact.Spells t text ∧
      Header.NamesAlgorithm t.header jwt.algorithm ∧
      jwt.algorithm ∈ [.es256, .es384, .rs256, .ps256, .edDsa]) ∧
    ∀ {σ : Type} (v : Proof.Verifier σ) (D : Web.Url.DomainReader)
      (r : Proof.Request) (s : σ) (c : Proof.Confirmation), v.parser = Jwt.parser S →
      (v.verify D r.method r.url r.proof r.expectation s).1 = .ok c →
      ∃ t a key vk claims, SelfSigned S r.proof t a key vk claims ∧
        v.Confirms D r s key claims c ∧
        ∀ message, message ≠ t.header ++ "." ++ t.payload →
          KeepsKey vk (message ++ "." ++ t.signature) →
          (∀ signature, Text.Base64Url.decode? t.signature = some signature →
            S.Tells vk signature (Bytes.ofString (t.header ++ "." ++ t.payload))
              (Bytes.ofString message)) →
          Refused S (message ++ "." ++ t.signature) := by
  refine ⟨fun text jwt hparse => ?_, fun v D r s c hparser hok => ?_⟩
  · obtain ⟨-, t, hspells, hnames, hallowed, -⟩ := Jwt.names_of_parse hparse
    exact ⟨t, hspells, hnames, hallowed⟩
  · obtain ⟨key, claims, hv, hconfirms⟩ := Proof.confirms_of_verify hok
    rw [hparser] at hv
    obtain ⟨t, a, vk, hsigned⟩ := exists_selfSigned hv
    exact ⟨t, a, key, vk, claims, hsigned, hconfirms,
      fun message => refused_of_altered hsigned⟩

/-! ## A sample -/

/-- The parts of the sample, for any access token that it is bound to. -/
def boundParts (token : String) : Compact :=
  ⟨writePart (Proof.baseSigner.header Proof.proofType),
    writePart (Proof.boundClaims token).toJson, Text.Base64Url.encode Proof.boundSignature⟩

theorem spells_boundParts (token : String) :
    (boundParts token).Spells (boundParts token).render :=
  ⟨rfl, point_not_mem_writePart _, point_not_mem_writePart _,
    Text.Base64Url.point_not_mem_encode _⟩

theorem carriesKey_boundParts (token : String) :
    Header.CarriesKey (boundParts token).header Proof.baseSigner.key :=
  ⟨_, _, _, readPart_writePart (Proof.baseSigner.plain_header _), rfl, rfl, rfl⟩

/-- The key of the sample, ready for use. -/
def boundKey : VerifyingKey :=
  .ec (4 :: Proof.baseSigner.x.bytes ++ Proof.baseSigner.y.bytes)

/-- The signature of the sample does not verify for another access token. -/
theorem not_verifies_altered (a : Algorithm) : Scheme.standard.verify a boundKey
    (Bytes.ofString (boundParts "b").message) Proof.boundSignature = false := by
  cases a with
  | es256 => decide +kernel
  | es384 => decide +kernel
  | _ => rfl

/-- The sample is accepted. With the fingerprint of another access token in its claims, and
the same key and signature, it is refused everywhere. -/
theorem altered_proof_is_refused :
    (Proof.boundVerifier.verify some "GET" "http://h/" Proof.boundProof {} .empty).1 =
        .ok ⟨Proof.baseSigner.key.thumbprint⟩ ∧
      (boundParts "b").message ≠ (boundParts "a").message ∧
        KeepsKey boundKey (boundParts "b").render ∧
      Scheme.standard.Tells boundKey Proof.boundSignature
        (Bytes.ofString (boundParts "a").message)
        (Bytes.ofString (boundParts "b").message) ∧
      Refused .standard (boundParts "b").render := by
  have hne : (boundParts "b").message ≠ (boundParts "a").message := by
    intro h
    have hfalse := not_verifies_altered .es256
    rw [h] at hfalse
    exact absurd (Proof.boundSignature_verifies.symm.trans hfalse) (by decide)
  have hkeeps : KeepsKey boundKey (boundParts "b").render := by
    intro t key hspells hcarries
    obtain rfl := hspells.unique (spells_boundParts "b")
    obtain rfl := hcarries.unique (carriesKey_boundParts "b")
    exact Proof.baseSigner.ofKey?_key
  have htells : Scheme.standard.Tells boundKey Proof.boundSignature
      (Bytes.ofString (boundParts "a").message)
        (Bytes.ofString (boundParts "b").message) := by
    intro a a' _ hverifies
    exact absurd (hverifies.symm.trans (not_verifies_altered a')) (by decide)
  refine ⟨verify_boundProof, hne, hkeeps, htells, ?_⟩
  obtain ⟨-, haccepted⟩ := accepted_proofs_are_self_signed .standard
  obtain ⟨t, a, key, vk, claims, hsigned, -, haltered⟩ :=
    haccepted _ _ ⟨"GET", "http://h/", Proof.boundProof, {}⟩ _ _ rfl verify_boundProof
  obtain rfl := hsigned.spells.unique (spells_boundParts "a")
  obtain rfl := hsigned.carries.unique (carriesKey_boundParts "a")
  obtain rfl : vk = boundKey :=
    Option.some.inj (hsigned.read.symm.trans Proof.baseSigner.ofKey?_key)
  refine haltered (boundParts "b").message hne hkeeps fun signature hdecode => ?_
  rw [show Text.Base64Url.decode? (boundParts "a").signature = some Proof.boundSignature
    from Text.Base64Url.decode?_encode _] at hdecode
  cases hdecode
  exact htells

end Jose

end Possession
