import Possession.Proofs.Jose.ClaimSet
import Possession.Proofs.Jose.Identity
import Possession.Proofs.Token.Draws
import Possession.Proofs.Verifier.Checks

/-!
# Categories of failures

To mint, to prove and to verify are operations on parts that fail in their own ways: streams
of octets, a source of payloads, a clock, a writer of proofs, a store. The caller is told
which categories of failures to expect, and what the parts fail with has to be put in these:

> `generate_failsOnlyAs`: a mint fails for its argument, its source or its entropy;
> `prove_failsOnlyAs_iff`: a prover fails for its argument, its entropy or the signature,
> and `refusesOnlyAs_iff`: a verifier of signed tokens refuses in one of seven categories;
> each of the two exactly unless its clock fails when it is asked.

A clock fails for the configuration of the system, which is in none of the lists. Prover and
verifier pass on what it fails with, while a source of payloads makes it a failure of its
own (`PayloadSource.timestamp`). The streams stand for all sources of octets: whatever one
draw can give or fail with, some stream gives or fails with (`Entropy.exists_draw_eq`).
-/

namespace Possession

/-- If a result is missing, the failure is in one of these categories. -/
def FailsOnlyAs {α : Type} (categories : List String) (r : Result α) : Prop :=
  ∀ e, r = .error e → e.category ∈ categories

theorem FailsOnlyAs.mono {α : Type} {categories categories' : List String} {r : Result α}
    (h : FailsOnlyAs categories r) (hsub : categories ⊆ categories') :
    FailsOnlyAs categories' r :=
  fun e he => hsub (h e he)

/-- If a proof is refused, the cause is in one of these categories. -/
def Proof.RefusesOnlyAs {α : Type} (categories : List String) (r : Proof.Checked α) :
    Prop :=
  ∀ e, r = .error (.refused e) → e.category ∈ categories

/-! ## The parts -/

/-- A stream of octets fails as one. -/
def Entropy.Conforms (E : Entropy) : Prop := ∀ n, FailsOnlyAs ["entropy"] (E.draw n).1

/-- A clock fails for the configuration of the system. -/
def Clock.Conforms (c : Clock) : Prop := FailsOnlyAs ["configuration"] c.now

/-- A writer of proofs fails at the signature. -/
def Proof.Serializer.Conforms (w : Proof.Serializer) : Prop :=
  ∀ typ claims, FailsOnlyAs ["signing"] (w.serialize typ claims)

namespace Entropy

theorem conforms_script (left : Bytes) : (script left).Conforms := by
  intro n e h
  rcases Nat.lt_or_ge left.length n with hshort | hlong
  · rw [draw_script_of_lt hshort] at h
    cases h
    exact List.mem_singleton_self _
  · rw [draw_script_of_le hlong] at h
    cases h

/-- What is left of a stream fails as the stream does. -/
theorem Conforms.draw {E : Entropy} (h : E.Conforms) (n : Nat) : (E.draw n).2.Conforms := by
  cases E with
  | script left =>
    rcases Nat.lt_or_ge left.length n with hshort | hlong
    · rw [draw_script_of_lt hshort]
      exact conforms_script _
    · rw [draw_script_of_le hlong]
      exact conforms_script _
  | seeded key pos => exact fun _ _ he => nomatch he
  | failing cause => exact h

/-- A draw from a stream can give any octets, and fail in any way. -/
theorem exists_draw_eq {n : Nat} (r : Result (Octets n)) :
    ∃ E : Entropy, (E.draw n).1 = r := by
  cases r with
  | error e => exact ⟨failing e, rfl⟩
  | ok o =>
    refine ⟨script o.bytes, ?_⟩
    rw [draw_script_of_le (Nat.le_of_eq o.length_eq.symm), Octets.fit_bytes]

end Entropy

/-! ## Minting -/

namespace Token

theorem category_sourceFailure (e : Error) :
    (sourceFailure e).category ∈ ["source", "entropy"] := by
  unfold sourceFailure
  split
  · exact List.mem_cons_self
  · exact List.mem_cons_of_mem _ List.mem_cons_self
  · exact List.mem_cons_self

theorem PayloadSource.conforms_drawFrom {E : Entropy} (h : E.Conforms) (n : Nat)
    (rebuild : Stream → PayloadSource) (s : Stream) :
    (drawFrom n rebuild E s).entropy.Conforms := by
  cases s with
  | own e => exact h
  | shared => exact h.draw n

/-- What a source of payloads leaves of its caller's stream fails as the stream does. -/
theorem PayloadSource.conforms_next {E : Entropy} (h : E.Conforms) (clock : Clock)
    (source : PayloadSource) : (source.next clock E).entropy.Conforms := by
  cases source with
  | fixed p => exact h
  | failing e => exact h
  | random s => exact conforms_drawFrom h 16 random s
  | timeOrdered s =>
    unfold next
    dsimp only
    split
    · exact h
    · exact conforms_drawFrom h 10 timeOrdered s

section

variable {M : MacScheme} {m : Mint} {clock : Clock} {label : Option String} {e : Error}

/-- A mint fails for its label, for a payload, or for a nonce. -/
theorem generate_eq_error (h : (m.generate M clock label).1 = .error e) :
    (¬ LabelOk label ∧ ∃ reason, e = .argument reason) ∨
      LabelOk label ∧
      ((∃ cause, (m.nextPayload clock).1 = .error cause ∧ e = sourceFailure cause) ∨
        ((m.nextPayload clock).2.entropy.draw 12).1 = .error e) := by
  by_cases hlabel : LabelOk label
  · refine Or.inr ⟨hlabel, ?_⟩
    unfold Mint.generate at h
    rw [filter_isLabel_eq_none_iff.mpr hlabel] at h
    dsimp only at h
    split at h
    next cause m' hpayload =>
      cases h
      exact Or.inl ⟨cause, by rw [hpayload], rfl⟩
    next payload m' hpayload =>
      refine Or.inr ?_
      rw [hpayload]
      split at h
      next cause rest hnonce =>
        cases h
        rw [hnonce]
      next => cases h
  · obtain ⟨reason, hrefused⟩ := generate_of_not_labelOk M hlabel m clock
    rw [hrefused] at h
    cases h
    exact Or.inl ⟨hlabel, reason, rfl⟩

/-- A mint fails for its argument, its source or its entropy, and never for its argument
exactly if that is a label that may be used. -/
theorem generate_failsOnlyAs (h : m.entropy.Conforms) :
    FailsOnlyAs ["argument", "source", "entropy"] (m.generate M clock label).1 ∧
      (FailsOnlyAs ["source", "entropy"] (m.generate M clock label).1 ↔ LabelOk label) := by
  have hcause : ∀ e, (m.generate M clock label).1 = .error e →
      (¬ LabelOk label ∧ e.category = "argument") ∨
        LabelOk label ∧ e.category ∈ ["source", "entropy"] := by
    intro e he
    rcases generate_eq_error he with ⟨hlabel, reason, rfl⟩ |
      ⟨hlabel, ⟨cause, -, rfl⟩ | hnonce⟩
    · exact Or.inl ⟨hlabel, rfl⟩
    · exact Or.inr ⟨hlabel, category_sourceFailure cause⟩
    · have hentropy := PayloadSource.conforms_next h clock m.source 12
      exact Or.inr ⟨hlabel, hentropy.mono (by decide) e hnonce⟩
  refine ⟨fun e he => ?_, fun hall => ?_, fun hlabel e he => ?_⟩
  · rcases hcause e he with ⟨-, hcategory⟩ | ⟨-, hcategory⟩
    · rw [hcategory]
      exact List.mem_cons_self
    · exact List.mem_cons_of_mem _ hcategory
  · by_contra hlabel
    obtain ⟨reason, hrefused⟩ := generate_of_not_labelOk M hlabel m clock
    have hmem : "argument" ∈ ["source", "entropy"] :=
      hall (.argument reason) (by rw [hrefused])
    exact absurd hmem (by decide)
  · rcases hcause e he with ⟨hbad, -⟩ | ⟨-, hcategory⟩
    · exact absurd hlabel hbad
    · exact hcategory

end

end Token

/-! ## Proving -/

namespace Proof

section

variable {p : Prover} {D : Web.Url.DomainReader} {method url : String}
    {token : Option String} {e : Error}

/-- A prover asks its clock, and the clock fails. -/
def Prover.MissesTime (p : Prover) (D : Web.Url.DomainReader) (method url : String) :
    Prop :=
  (∃ target, Target.ofRequest D method url = .ok target) ∧
    (∃ jti, (drawId p.entropy).1 = .ok jti) ∧
    ∃ cause, p.clock.now = .error cause

/-- A prover fails for its request, for an identifier, for the time, or for the
signature. -/
theorem prove_eq_error (h : (p.prove D method url token).1 = .error e) :
    Target.ofRequest D method url = .error e ∨ (p.entropy.draw 16).1 = .error e ∨
      (p.MissesTime D method url ∧ p.clock.now = .error e) ∨
      ∃ claims, p.serializer.serialize proofType claims = .error e := by
  unfold Prover.prove at h
  split at h
  next cause htarget =>
    cases h
    exact Or.inl htarget
  next target htarget =>
    rcases Result.bind_eq_error.mp h with hid | ⟨jti, hid, h⟩
    · exact Or.inr (Or.inl (Result.map_eq_error.mp hid))
    rcases Result.bind_eq_error.mp h with hnow | ⟨iat, -, hsign⟩
    · exact Or.inr (Or.inr (Or.inl ⟨⟨⟨target, htarget⟩, ⟨jti, hid⟩, e, hnow⟩, hnow⟩))
    · exact Or.inr (Or.inr (Or.inr ⟨_, hsign⟩))

/-- What the clock fails with is the answer. -/
theorem Prover.MissesTime.prove_eq (h : p.MissesTime D method url)
    (hnow : p.clock.now = .error e) : (p.prove D method url token).1 = .error e := by
  obtain ⟨⟨target, htarget⟩, ⟨jti, hid⟩, -⟩ := h
  unfold prove
  rw [htarget]
  dsimp only
  rw [hid, hnow]
  rfl

/-- A prover fails for its argument, its entropy or the signature exactly unless its clock
fails when it is asked. -/
theorem prove_failsOnlyAs_iff (hentropy : p.entropy.Conforms) (hclock : p.clock.Conforms)
    (hserializer : p.serializer.Conforms) :
    FailsOnlyAs ["argument", "entropy", "signing"] (p.prove D method url token).1 ↔
      ¬ p.MissesTime D method url := by
  constructor
  · intro hall hmiss
    obtain ⟨-, -, cause, hnow⟩ := id hmiss
    have hcategory := List.mem_singleton.mp (hclock cause hnow)
    have hmem := hall cause (hmiss.prove_eq hnow)
    rw [hcategory] at hmem
    exact absurd hmem (by decide)
  · intro hmiss e he
    rcases prove_eq_error he with htarget | hid | ⟨hmisses, -⟩ | ⟨claims, hsign⟩
    · obtain ⟨reason, rfl⟩ := Target.ofRequest_eq_error htarget
      exact List.mem_cons_self
    · exact (hentropy 16).mono (by decide) e hid
    · exact absurd hmisses hmiss
    · exact (hserializer _ claims).mono (by decide) e hsign

end

end Proof

/-! ## Verifying -/

namespace Jose.Jwt

variable {S : Scheme} {jwt : Jwt} {key : Proof.Key} {e : Error}

theorem authenticate_eq_error {algorithm : Algorithm} {vk : VerifyingKey} {t : Compact}
    (h : authenticate S algorithm vk t = .error e) :
    e.category ∈ ["format", "authentication"] := by
  unfold authenticate at h
  split at h
  · cases h
    exact List.mem_cons_of_mem _ List.mem_cons_self
  · split at h
    · cases h
      exact List.mem_cons_self
    · split at h
      · cases h
      · cases h
        exact List.mem_cons_of_mem _ List.mem_cons_self

theorem claimSet_eq_error (h : jwt.claimSet S key = .error e) :
    e.category ∈ ["format", "authentication"] := by
  unfold claimSet at h
  split at h
  next =>
    cases h
    exact List.mem_cons_self
  next vk hkey =>
    split at h
    next =>
      cases h
      exact List.mem_cons_self
    next t hparse =>
      split at h
      next cause hauth =>
        cases h
        exact authenticate_eq_error hauth
      next hauth =>
        obtain ⟨reason, rfl⟩ := readClaimSet_eq_error h
        exact List.mem_cons_self

/-- The claims of a token are missing because of its form or because it is not authentic. -/
theorem category_of_claims_eq_error (h : jwt.claims S key = .error e) :
    e.category ∈ ["format", "authentication"] := by
  unfold claims at h
  split at h
  next cause hset =>
    cases h
    exact claimSet_eq_error hset
  next =>
    obtain ⟨m, -, rfl⟩ := Result.mapError_eq_error.mp h
    exact List.mem_cons_self

end Jose.Jwt

namespace Proof

section

variable {σ : Type} {v : Verifier σ} {S : Jose.Scheme} {D : Web.Url.DomainReader}
    {r : Request} {s : σ}
  {e : Error}

/-- What a verifier of signed tokens refuses a proof with. -/
def refusals : List String :=
  ["argument", "format", "authentication", "validation", "replay", "storage", "binding"]

/-- Each check but that of the clock refuses in its own category. -/
theorem Check.category_of_refuses (hparser : v.parser = Jose.Jwt.parser S) {c : Check}
    (h : c.Refuses v r e) (hclock : c ≠ .clock) : e.category ∈ refusals := by
  cases c with
  | clock => exact absurd rfl hclock
  | claims =>
    obtain ⟨envelope, key, hread, -, hclaims⟩ := h
    rw [hparser] at hread
    obtain ⟨jwt, -, rfl⟩ := Result.map_eq_ok.mp hread
    have hsub : ["format", "authentication"] ⊆ refusals := by decide
    exact hsub (Jose.Jwt.category_of_claims_eq_error hclaims)
  | slot =>
    obtain ⟨key, claims, -, rfl⟩ := h
    exact (by decide : "replay" ∈ refusals)
  | target | text =>
    obtain ⟨reason, rfl⟩ := h
    exact (by decide : "argument" ∈ refusals)
  | reading | typ | key =>
    obtain ⟨reason, rfl⟩ := h
    exact (by decide : "format" ∈ refusals)
  | method | url | stale | early =>
    obtain ⟨reason, rfl⟩ := h
    exact (by decide : "validation" ∈ refusals)
  | store =>
    obtain ⟨reason, rfl⟩ := h
    exact (by decide : "storage" ∈ refusals)
  | token | thumbprint =>
    obtain ⟨reason, rfl⟩ := h
    exact (by decide : "binding" ∈ refusals)

/-- The first gate refuses in one of these categories, or the clock is the first check that
fails. -/
theorem category_of_examine (hparser : v.parser = Jose.Jwt.parser S)
    (h : v.examine D r.method r.url r.proof = .error (.refused e)) :
    e.category ∈ refusals ∨ Check.clock.FailsFirst v D r s ∧ v.clock.now = .error e := by
  rcases Check.examine_error_cases (s := s) h with ⟨_, heq, c, hfirst, hrefuses⟩ |
    ⟨_, _, _, -, -, -, hage⟩
  · cases heq
    by_cases hclock : c = .clock
    · subst hclock
      exact Or.inr ⟨hfirst, hrefuses⟩
    · exact Or.inl (Check.category_of_refuses hparser hrefuses hclock)
  · obtain ⟨check, reason, rfl⟩ := checkFresh_eq_error hage
    left
    exact (by decide : "validation" ∈ refusals)

/-- If the clock is the first check that fails, what it fails with is the answer, and the
store is not asked. -/
theorem Check.FailsFirst.verify_eq (h : Check.clock.FailsFirst v D r s) :
    ∃ e, v.clock.now = .error e ∧
      v.verify D r.method r.url r.proof r.expectation s = (.error (.refused e), s) := by
  have hnow : ∀ now, v.clock.now ≠ .ok now := fun now hnow => h.1 ⟨now, hnow⟩
  unfold Verifier.verify
  cases hex : v.examine D r.method r.url r.proof with
  | ok passed =>
    obtain ⟨-, -, now, -, -, -, -, -, -, -, -, hok, -⟩ := Verifier.examine_eq_ok_iff.mp hex
    exact absurd hok (hnow now)
  | error f =>
    rcases Check.examine_error_cases (s := s) hex with ⟨e, rfl, c, hfirst, hrefuses⟩ |
      ⟨now, _, _, -, hok, -⟩
    · obtain rfl := hfirst.unique h
      exact ⟨e, hrefuses, rfl⟩
    · exact absurd hok (hnow now)

/-- A verifier of signed tokens refuses in one of these categories exactly unless its clock
is the first check that fails. -/
theorem refusesOnlyAs_iff (hparser : v.parser = Jose.Jwt.parser S)
    (hclock : v.clock.Conforms) :
    RefusesOnlyAs refusals (v.verify D r.method r.url r.proof r.expectation s).1 ↔
      ¬ Check.clock.FailsFirst v D r s := by
  constructor
  · intro hall hfirst
    obtain ⟨e, hnow, hanswer⟩ := hfirst.verify_eq
    have hcategory := List.mem_singleton.mp (hclock e hnow)
    have hmem := hall e (by rw [hanswer])
    rw [hcategory] at hmem
    exact absurd hmem (by decide)
  · intro hfirst e he
    unfold Verifier.verify at he
    split at he
    next f hex =>
      cases he
      exact (category_of_examine hparser hex).resolve_right fun hleak => hfirst hleak.1
    next key claims hex =>
      split at he
      next cause s' hconsume =>
        cases he
        rcases Verifier.consume_error hconsume with rfl | ⟨reason, rfl⟩
        · exact (by decide : "replay" ∈ refusals)
        · exact (by decide : "storage" ∈ refusals)
      next s' hconsume =>
        obtain ⟨cause, hconfirm, heq⟩ := ofResult_eq_error.mp he
        cases heq
        obtain ⟨reason, rfl⟩ := confirm_error hconfirm
        exact (by decide : "binding" ∈ refusals)

end

end Proof

/-- **Categories of failures.** The nonces of a mint, and all parts of a prover, fail as
they should, and so does the clock of a verifier of signed tokens; a source of payloads and
a store may fail with anything. Then for every label, request, proof and caller: the mint
fails for its argument, its source or its entropy; the prover for its argument, its entropy
or the signature, exactly unless it comes to its clock and the clock fails; and the verifier
refuses for the argument, the form, the signature, the claims, a replay, the store or a
mismatch, with the same exception. -/
theorem categories_closed_iff {σ : Type} (M : Token.MacScheme) (m : Token.Mint)
    (mintClock : Clock) (label : Option String) (p : Proof.Prover) (S : Jose.Scheme)
    (v : Proof.Verifier σ) (D : Web.Url.DomainReader) (r : Proof.Request)
    (token : Option String) (s : σ) (hnonce : m.entropy.Conforms)
    (hentropy : p.entropy.Conforms) (hclock : p.clock.Conforms)
    (hserializer : p.serializer.Conforms) (hparser : v.parser = Jose.Jwt.parser S)
    (htime : v.clock.Conforms) :
    (FailsOnlyAs ["argument", "source", "entropy"] (m.generate M mintClock label).1 ∧
      (FailsOnlyAs ["source", "entropy"] (m.generate M mintClock label).1 ↔
        Token.LabelOk label)) ∧
    (FailsOnlyAs ["argument", "entropy", "signing"] (p.prove D r.method r.url token).1 ↔
      ¬ p.MissesTime D r.method r.url) ∧
    (Proof.RefusesOnlyAs ["argument", "format", "authentication", "validation", "replay",
      "storage", "binding"]
        (v.verify D r.method r.url r.proof r.expectation s).1 ↔
      ¬ Proof.Check.clock.FailsFirst v D r s) :=
  ⟨Token.generate_failsOnlyAs hnonce,
    Proof.prove_failsOnlyAs_iff hentropy hclock hserializer,
    Proof.refusesOnlyAs_iff hparser htime⟩

/-! ## A clock before the epoch -/

namespace Proof

/-- A clock that is set to a time before the epoch. -/
def unsetClock : Clock := .failing (.configuration "System clock before Unix epoch")

theorem conforms_unsetClock : unsetClock.Conforms := by
  intro e h
  cases h
  exact List.mem_singleton_self _

/-- The prover of the sample with this clock. -/
def unsetProver (entropy : Entropy) : Prover :=
  ⟨boundSigner.serializer, entropy, unsetClock⟩

/-- A signer fails at the signature. -/
theorem conforms_serializer (s : Jose.Signer) : s.serializer.Conforms := by
  intro typ claims e h
  replace h : s.serialize typ claims = .error e := h
  unfold Jose.Signer.serialize at h
  dsimp only at h
  split at h
  · cases h
  · cases h
    exact List.mem_singleton_self _

/-- The verifier of the sample with this clock. -/
def unsetVerifier : Verifier Replay.Memory := { boundVerifier with clock := unsetClock }

/-- A proof of the sample request. -/
def boundRequest : Request := ⟨"GET", "http://h/", boundProof, {}⟩

theorem missesTime_unsetProver :
    (unsetProver boundProver.entropy).MissesTime some "GET" "http://h/" :=
  ⟨⟨_, target_sampleRequest⟩, ⟨_, drawId_boundProver⟩, ⟨_, rfl⟩⟩

theorem failsFirst_unsetVerifier :
    Check.clock.FailsFirst unsetVerifier some boundRequest Replay.Memory.empty := by
  obtain ⟨envelope, hread, htyp, hkey, hclaims⟩ :
      ∃ envelope, Jose.Jwt.parser .standard boundProof = .ok envelope ∧
        envelope.typ = some proofType ∧ envelope.key = some baseSigner.key ∧
        envelope.claims baseSigner.key = .ok (boundClaims "a") :=
    Jose.parser_spelledToken Jose.p256_mem_curves boundSignature_verifies
  have hreq : checkTarget (boundClaims "a") ⟨"GET", "http://h/"⟩ = .ok () :=
    checkTarget_eq_ok_iff.mpr ⟨rfl, rfl⟩
  have hparser : unsetVerifier.parser = Jose.Jwt.parser .standard := rfl
  rw [← hparser] at hread
  have hblank : Text.isBlank boundProof = false := Jose.Compact.isBlank_render _
  refine ⟨?_, Check.passesBefore_clock target_sampleRequest hblank hread
    (Envelope.authenticate_eq_ok_iff.mpr ⟨htyp, hkey, hclaims⟩) hreq⟩
  rintro ⟨now, hnow⟩
  cases hnow

end Proof

open Proof in
/-- Where the clock is not asked, its failure does not show: a mint whose source fails with
a replay fails for its source, a prover without octets for its entropy, and a blank proof is
refused as an argument. -/
theorem unset_clock_is_not_asked :
    let m : Token.Mint := ⟨Token.sampleSecret, .exhausted, .failing (.replay "k")⟩
    let p := unsetProver .exhausted
    let r : Request := ⟨"GET", "http://h/", "", {}⟩
    m.entropy.Conforms ∧ p.entropy.Conforms ∧ p.clock.Conforms ∧ p.serializer.Conforms ∧
      unsetVerifier.parser = Jose.Jwt.parser .standard ∧ unsetVerifier.clock.Conforms ∧
      FailsOnlyAs ["argument", "source", "entropy"]
        (m.generate .standard unsetClock none).1 ∧
      FailsOnlyAs ["argument", "entropy", "signing"] (p.prove some r.method r.url none).1 ∧
      RefusesOnlyAs ["argument", "format", "authentication", "validation", "replay",
        "storage", "binding"]
        (unsetVerifier.verify some r.method r.url r.proof r.expectation .empty).1 := by
  intro m p r
  have hempty : Entropy.exhausted.Conforms := Entropy.conforms_script []
  have hserializer := conforms_serializer boundSigner
  obtain ⟨⟨hmint, -⟩, hprove, hverify⟩ :=
    categories_closed_iff .standard m unsetClock none p .standard
      unsetVerifier some r none .empty hempty hempty conforms_unsetClock hserializer rfl
      conforms_unsetClock
  refine ⟨hempty, hempty, conforms_unsetClock, hserializer, rfl, conforms_unsetClock, hmint,
    hprove.mpr ?_, hverify.mpr ?_⟩
  · rintro ⟨-, ⟨jti, hjti⟩, -⟩
    cases hjti
  · intro hfirst
    have hblank : Text.isBlank "" = false := hfirst.2 .text (by decide)
    exact absurd hblank (by decide)

open Proof in
/-- Where it is asked, its failure is the answer of the prover and of the verifier, and in
none of their categories. -/
theorem unset_clock_shows :
    (unsetProver boundProver.entropy).entropy.Conforms ∧ unsetClock.Conforms ∧
      boundSigner.serializer.Conforms ∧ unsetVerifier.parser = Jose.Jwt.parser .standard ∧
      ((unsetProver boundProver.entropy).prove some "GET" "http://h/" none).1 =
        .error (.configuration "System clock before Unix epoch") ∧
      ¬ FailsOnlyAs ["argument", "entropy", "signing"]
        ((unsetProver boundProver.entropy).prove some "GET" "http://h/" none).1 ∧
      (unsetVerifier.verify some "GET" "http://h/" boundProof {} .empty).1 =
        .error (.refused (.configuration "System clock before Unix epoch")) ∧
      ¬ RefusesOnlyAs ["argument", "format", "authentication", "validation", "replay",
        "storage", "binding"]
        (unsetVerifier.verify some "GET" "http://h/" boundProof {} .empty).1 := by
  have hproved : ((unsetProver boundProver.entropy).prove some "GET" "http://h/" none).1 =
      .error (.configuration "System clock before Unix epoch") :=
        missesTime_unsetProver.prove_eq rfl
  have hverified : (unsetVerifier.verify some "GET" "http://h/" boundProof {} .empty).1 =
      .error (.refused (.configuration "System clock before Unix epoch")) := by
    obtain ⟨e, hnow, hanswer⟩ := failsFirst_unsetVerifier.verify_eq
    cases hnow
    exact congrArg Prod.fst hanswer
  refine ⟨Entropy.conforms_script _, conforms_unsetClock, conforms_serializer boundSigner,
    rfl, hproved, fun hall => ?_, hverified, fun hall => ?_⟩
  · exact absurd (hall _ hproved) (by decide)
  · exact absurd (hall _ hverified) (by decide)

end Possession
