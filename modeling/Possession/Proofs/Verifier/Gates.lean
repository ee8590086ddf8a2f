import Possession.Proofs.Bytes
import Possession.Proofs.Replay.Memory
import Possession.Proofs.Result
import Possession.Proof.Verifier

/-!
# What one verification does

`Verifier.verify` looks at a proof, uses up its replay key, and compares the proof with what
the caller knows. This file says what each of the three gates lets through, and puts them
together for a verifier over a store in memory:

> `examine_eq_ok_iff`: the first gate opens exactly if the proof is one for this request,
> fresh, and authentic under the key that came with it;
> `useKey_eq`: the second gate, in either mode, as one equation on the state of the store;
> `confirm_cases`: the third gate ends at the access token, at the key, or with a
> confirmation;
> `verify_cases`: a verification leaves the store alone, or it takes the slot of its proof,
> that is, it writes the proof's replay key, which was not live.

From outside one sees the answer only, not the store. `Carries` says which claims a proof
makes, and `takesSlot_cases` recovers the second case from the answer: a verification of a
proof that carries claims and answers with a confirmation or with a mismatch has taken the
slot.
-/

namespace Possession

/-- The comparison of texts that looks at every octet is equality. -/
theorem Digest.sameText_eq_true_iff {a b : String} : sameText a b = true ↔ a = b := by
  unfold sameText
  rw [Bytes.sameAs_eq_true_iff, Bytes.ofString_injective.eq_iff]

theorem Digest.sameText_eq_false_iff {a b : String} : sameText a b = false ↔ a ≠ b := by
  rw [Bool.eq_false_iff, ne_eq, sameText_eq_true_iff]

namespace Proof

/-- A proof carries claims if it can be read and is authentic for them under the key that
came with it. -/
def Parser.Carries (P : Parser) (proof : String) (claims : Claims) : Prop :=
  ∃ envelope key, P proof = .ok envelope ∧ envelope.key = some key ∧
    envelope.claims key = .ok claims

/-- A proof carries one set of claims at most. -/
theorem Parser.Carries.unique {P : Parser} {proof : String} {a b : Claims}
    (ha : P.Carries proof a) (hb : P.Carries proof b) : a = b := by
  obtain ⟨envelope, key, hread, hkey, hclaims⟩ := ha
  obtain ⟨envelope', key', hread', hkey', hclaims'⟩ := hb
  rw [hread] at hread'
  cases hread'
  rw [hkey] at hkey'
  cases hkey'
  rw [hclaims] at hclaims'
  cases hclaims'
  rfl

/-- An answer that is given only after a slot has been taken: a confirmation, or a mismatch
with what the caller knows. -/
def TakesSlot (answer : Checked Confirmation) : Prop :=
  (∃ confirmation, answer = .ok confirmation) ∨
    ∃ reason, answer = .error (.refused (.binding reason))

/-! ## The parts of the first gate -/

theorem ofResult_ok {α : Type} (a : α) : Checked.ofResult (.ok a) = .ok a := rfl

theorem ofResult_eq_ok {α : Type} {r : Result α} {a : α} :
    Checked.ofResult r = .ok a ↔ r = .ok a :=
  Result.mapError_eq_ok

theorem ofResult_eq_error {α : Type} {r : Result α} {f : Failure} :
    Checked.ofResult r = .error f ↔ ∃ cause, r = .error cause ∧ .refused cause = f :=
  Result.mapError_eq_error

/-- An envelope gives out claims exactly if it is declared a proof, comes with a key, and is
authentic under that key. -/
theorem Envelope.authenticate_eq_ok_iff {e : Envelope} {key : Key} {claims : Claims} :
    e.authenticate = .ok (key, claims) ↔
      e.typ = some proofType ∧ e.key = some key ∧ e.claims key = .ok claims := by
  unfold Envelope.authenticate
  split
  next htyp =>
    split
    next hkey => simp [hkey]
    next k hkey =>
      rw [Result.map_eq_ok]
      constructor
      · intro h
        obtain ⟨c, hc, hpair⟩ := h
        cases hpair
        exact ⟨htyp, hkey, hc⟩
      · intro h
        obtain ⟨-, hk, hc⟩ := h
        rw [hkey] at hk
        cases hk
        exact ⟨claims, hc, rfl⟩
  next htyp => simp [htyp]

theorem checkTarget_eq_ok_iff {claims : Claims} {target : Target} :
    checkTarget claims target = .ok () ↔
      claims.htm = target.method ∧ claims.htu = target.url := by
  unfold checkTarget
  split
  next h => simp [h]
  next h =>
    split
    next h' => simp [h']
    next h' => simpa using ⟨not_not.mp h, not_not.mp h'⟩

/-! Every failure of a part of the first gate names its own cause. -/

theorem canonicalUrl_eq_error {D : Web.Url.DomainReader} {text : String} {e : Error}
    (h : canonicalUrl D text = .error e) : ∃ reason, e = .argument reason := by
  unfold canonicalUrl at h
  split at h
  · cases h
    exact ⟨_, rfl⟩
  · split at h
    · split at h
      · cases h
      · cases h
        exact ⟨_, rfl⟩
    · cases h
      exact ⟨_, rfl⟩

/-- A request without a target is one with a malformed argument. -/
theorem Target.ofRequest_eq_error {D : Web.Url.DomainReader} {method url : String}
    {e : Error} (h : Target.ofRequest D method url = .error e) :
    ∃ reason, e = .argument reason := by
  unfold Target.ofRequest at h
  split at h
  · cases h
    exact ⟨_, rfl⟩
  split at h
  · cases h
    exact ⟨_, rfl⟩
  dsimp only at h
  split at h
  · exact canonicalUrl_eq_error (Result.map_eq_error.mp h)
  · cases h
    exact ⟨_, rfl⟩

/-- An envelope is refused for its form, or with the failure to read its claims under its
key. -/
theorem Envelope.authenticate_eq_error {e : Envelope} {cause : Error}
    (h : e.authenticate = .error cause) :
    (∃ reason, cause = .format reason) ∨
      ∃ key, e.key = some key ∧ e.claims key = .error cause := by
  unfold Envelope.authenticate at h
  split at h
  next =>
    cases hkey : e.key with
    | none =>
      rw [hkey] at h
      cases h
      exact Or.inl ⟨_, rfl⟩
    | some key =>
      rw [hkey] at h
      exact Or.inr ⟨key, rfl, Result.map_eq_error.mp h⟩
  next =>
    cases h
    exact Or.inl ⟨_, rfl⟩

theorem checkTarget_eq_error {claims : Claims} {target : Target} {e : Error}
    (h : checkTarget claims target = .error e) :
    ∃ check reason, e = .validation check reason := by
  unfold checkTarget at h
  split at h
  · cases h
    exact ⟨_, _, rfl⟩
  · split at h
    · cases h
      exact ⟨_, _, rfl⟩
    · cases h

/-- An age is refused as that of a proof whose time is not valid. -/
theorem checkFresh_eq_error {window now iat : Int64} {e : Error}
    (h : checkFresh window now iat = .error (.refused e)) :
    ∃ check reason, e = .validation check reason := by
  unfold checkFresh at h
  dsimp only at h
  split at h
  · cases h
    exact ⟨_, _, rfl⟩
  · split at h
    · split at h
      · cases h
      · cases h
        exact ⟨_, _, rfl⟩
    · cases h

/-! ## The third gate -/

/-- The comparison with what the caller knows ends at the access token, at the key, or with
a confirmation. -/
theorem confirm_cases (x : Expectation) (key : Key) (claims : Claims) :
    ((∃ token ∈ x.token, ∃ ath ∈ claims.ath, ath ≠ tokenHash token) ∧
        confirm x key claims = .error (.binding "Access token hash mismatch")) ∨
      (∀ token ∈ x.token, ∀ ath ∈ claims.ath, ath = tokenHash token) ∧
        ((∃ jkt ∈ x.jkt, jkt ≠ key.thumbprint) ∧
            confirm x key claims = .error (.binding "JWK thumbprint mismatch") ∨
          (∀ jkt ∈ x.jkt, jkt = key.thumbprint) ∧
            confirm x key claims = .ok ⟨key.thumbprint⟩) := by
  have htoken : (x.token.any fun token =>
      claims.ath.any fun ath => !Digest.sameText ath (tokenHash token)) = true ↔
        ∃ token ∈ x.token, ∃ ath ∈ claims.ath, ath ≠ tokenHash token := by
    simp only [Option.any_eq_true, Bool.not_eq_true', Digest.sameText_eq_false_iff,
      Option.mem_def]
  have hjkt : (x.jkt.any fun jkt => !Digest.sameText jkt key.thumbprint) = true ↔
      ∃ jkt ∈ x.jkt, jkt ≠ key.thumbprint := by
    simp only [Option.any_eq_true, Bool.not_eq_true', Digest.sameText_eq_false_iff,
      Option.mem_def]
  unfold confirm
  dsimp only
  split
  next hdiffers => exact Or.inl ⟨htoken.mp hdiffers, rfl⟩
  next hsametoken =>
    rw [htoken] at hsametoken
    push Not at hsametoken
    refine Or.inr ⟨hsametoken, ?_⟩
    split
    next hdiffers => exact Or.inl ⟨hjkt.mp hdiffers, rfl⟩
    next hsamejkt =>
      rw [hjkt] at hsamejkt
      push Not at hsamejkt
      exact Or.inr ⟨hsamejkt, rfl⟩

/-- A confirmation names the key, after it and the access token have been found to be those
that the caller knows. -/
theorem confirm_eq_ok_iff {x : Expectation} {key : Key} {claims : Claims}
    {c : Confirmation} :
    confirm x key claims = .ok c ↔
      (∀ token ∈ x.token, ∀ ath ∈ claims.ath, ath = tokenHash token) ∧
      (∀ jkt ∈ x.jkt, jkt = key.thumbprint) ∧ c = ⟨key.thumbprint⟩ := by
  rcases confirm_cases x key claims with
    ⟨⟨token, htoken, ath, hath, hne⟩, hc⟩ | ⟨hsametoken,
      ⟨⟨jkt, hjkt, hne⟩, hc⟩ | ⟨hsamejkt, hc⟩⟩
  · rw [hc]
    exact iff_of_false nofun fun h => hne (h.1 token htoken ath hath)
  · rw [hc]
    exact iff_of_false nofun fun h => hne (h.2.1 jkt hjkt)
  · rw [hc]
    constructor
    · intro h
      exact ⟨hsametoken, hsamejkt, (Except.ok.inj h).symm⟩
    · intro h
      rw [h.2.2]

/-- The comparison with what the caller knows fails as a mismatch. -/
theorem confirm_error {x : Expectation} {key : Key} {claims : Claims} {e : Error}
    (h : confirm x key claims = .error e) : ∃ reason, e = .binding reason := by
  rcases confirm_cases x key claims with ⟨-, hc⟩ | ⟨-, ⟨-, hc⟩ | ⟨-, hc⟩⟩
  · exact ⟨_, (Except.error.inj (hc.symm.trans h)).symm⟩
  · exact ⟨_, (Except.error.inj (hc.symm.trans h)).symm⟩
  · cases hc.symm.trans h

/-! ## The first gate -/

namespace Verifier

variable {σ : Type} {v : Verifier σ} {D : Web.Url.DomainReader} {method url proof : String}

/-- For an authentic proof for this request the first gate comes down to its age. -/
theorem examine_eq {target : Target} {envelope : Envelope} {now : Int64} {key : Key}
    {claims : Claims} (htarget : Target.ofRequest D method url = .ok target)
    (hblank : Text.isBlank proof = false) (hread : v.parser proof = .ok envelope)
    (hauth : envelope.authenticate = .ok (key, claims))
    (hreq : checkTarget claims target = .ok ()) (hnow : v.clock.now = .ok now) :
    v.examine D method url proof =
      (checkFresh v.settings.window now claims.iat).map fun _ => (key, claims) := by
  unfold examine
  simp only [htarget, hblank, hread, hauth, hreq, hnow, Result.mapError_ok, ofResult_ok,
    Result.ok_bind, Bool.false_eq_true, if_false]
  cases checkFresh v.settings.window now claims.iat <;> rfl

/-- The first gate opens exactly for a fresh authentic proof for this request. -/
theorem examine_eq_ok_iff {key : Key} {claims : Claims} :
    v.examine D method url proof = .ok (key, claims) ↔
      ∃ target envelope now, Target.ofRequest D method url = .ok target ∧
        Text.isBlank proof = false ∧ v.parser proof = .ok envelope ∧
        envelope.typ = some proofType ∧ envelope.key = some key ∧
        envelope.claims key = .ok claims ∧ claims.htm = target.method ∧
        claims.htu = target.url ∧
        v.clock.now = .ok now ∧ checkFresh v.settings.window now claims.iat = .ok () := by
  constructor
  · intro h
    unfold examine at h
    obtain ⟨target, htarget, h⟩ := Result.bind_eq_ok.mp h
    split at h
    next hblank => cases h
    next hblank =>
      obtain ⟨envelope, hread, h⟩ := Result.bind_eq_ok.mp h
      obtain ⟨⟨k, c⟩, hauth, h⟩ := Result.bind_eq_ok.mp h
      obtain ⟨⟨⟩, hreq, h⟩ := Result.bind_eq_ok.mp h
      obtain ⟨now, hnow, h⟩ := Result.bind_eq_ok.mp h
      obtain ⟨⟨⟩, hfresh, h⟩ := Result.bind_eq_ok.mp h
      cases h
      rw [ofResult_eq_ok] at htarget hauth hreq hnow
      rw [ofResult_eq_ok, Result.mapError_eq_ok] at hread
      obtain ⟨htyp, hkey, hclaims⟩ := Envelope.authenticate_eq_ok_iff.mp hauth
      obtain ⟨hm, hu⟩ := checkTarget_eq_ok_iff.mp hreq
      exact ⟨target, envelope, now,
        htarget, by simpa using hblank, hread, htyp, hkey, hclaims, hm, hu, hnow, hfresh⟩
  · intro h
    obtain ⟨target, envelope, now, htarget, hblank, hread, htyp, hkey, hclaims, hm, hu,
      hnow, hfresh⟩ := h
    rw [examine_eq htarget hblank hread
      (Envelope.authenticate_eq_ok_iff.mpr ⟨htyp, hkey, hclaims⟩)
      (checkTarget_eq_ok_iff.mpr ⟨hm, hu⟩) hnow, hfresh]
    rfl

/-- What passes the first gate is what the proof carries. -/
theorem carries_of_examine {key : Key} {claims : Claims}
    (h : v.examine D method url proof = .ok (key, claims)) :
    v.parser.Carries proof claims := by
  obtain ⟨-, envelope, -, -, -, hread, -, hkey, hclaims, -⟩ := examine_eq_ok_iff.mp h
  exact ⟨envelope, key, hread, hkey, hclaims⟩

/-- What passes the first gate is fresh. -/
theorem fresh_of_examine {now : Int64} (hnow : v.clock.now = .ok now) {key : Key}
    {claims : Claims} (h : v.examine D method url proof = .ok (key, claims)) :
    checkFresh v.settings.window now claims.iat = .ok () := by
  obtain ⟨-, -, now', -, -, -, -, -, -, -, -, hnow', hfresh⟩ := examine_eq_ok_iff.mp h
  rw [hnow] at hnow'
  cases hnow'
  exact hfresh

/-- There are two places where the first gate could get a mismatch from: a clock that gives
one in place of the time, and a parser that gives one in place of the claims. -/
theorem examine_eq_binding {reason : String}
    (h : v.examine D method url proof = .error (.refused (.binding reason))) :
    v.clock.now = .error (.binding reason) ∨ ∃ envelope key, v.parser proof = .ok envelope ∧
      envelope.key = some key ∧ envelope.claims key = .error (.binding reason) := by
  unfold examine at h
  -- The steps of the gate in order. Every other step fails with a cause of its own; what
  -- the parser fails with when it reads the outside is made a failure of form.
  rcases Result.bind_eq_error.mp h with h | ⟨target, -, h⟩
  · obtain ⟨e, he, hf⟩ := ofResult_eq_error.mp h
    obtain ⟨r, rfl⟩ := Target.ofRequest_eq_error he
    cases hf
  split at h
  next => cases h
  next =>
    rcases Result.bind_eq_error.mp h with h | ⟨envelope, hread, h⟩
    · obtain ⟨e, he, hf⟩ := ofResult_eq_error.mp h
      obtain ⟨cause, -, rfl⟩ := Result.mapError_eq_error.mp he
      cases cause <;> cases hf
    rw [ofResult_eq_ok, Result.mapError_eq_ok] at hread
    rcases Result.bind_eq_error.mp h with h | ⟨⟨k, c⟩, -, h⟩
    · obtain ⟨e, he, hf⟩ := ofResult_eq_error.mp h
      cases hf
      rcases Envelope.authenticate_eq_error he with ⟨r, hr⟩ | ⟨key, hkey, hclaims⟩
      · cases hr
      · exact Or.inr ⟨envelope, key, hread, hkey, hclaims⟩
    rcases Result.bind_eq_error.mp h with h | ⟨⟨⟩, -, h⟩
    · obtain ⟨e, he, hf⟩ := ofResult_eq_error.mp h
      obtain ⟨check, r, rfl⟩ := checkTarget_eq_error he
      cases hf
    rcases Result.bind_eq_error.mp h with h | ⟨now, -, h⟩
    · obtain ⟨e, he, hf⟩ := ofResult_eq_error.mp h
      cases hf
      exact Or.inl he
    rcases Result.bind_eq_error.mp h with h | ⟨⟨⟩, -, h⟩
    · obtain ⟨check, r, hr⟩ := checkFresh_eq_error h
      cases hr
    · cases h

/-- So it gives none to a proof that carries claims, while the clock runs. -/
theorem examine_ne_binding {now : Int64} {claims : Claims} (hnow : v.clock.now = .ok now)
    (hc : v.parser.Carries proof claims) (reason : String) :
    v.examine D method url proof ≠ .error (.refused (.binding reason)) := by
  obtain ⟨envelope, key, hread, hkey, hclaims⟩ := hc
  intro h
  rcases examine_eq_binding h with hfail | ⟨envelope', key', hread', hkey', hfail⟩
  · cases hnow.symm.trans hfail
  · cases hread.symm.trans hread'
    cases hkey.symm.trans hkey'
    cases hclaims.symm.trans hfail

/-! ## The second gate, over a store in memory -/

section Memory

variable {v : Verifier Replay.Memory} {t : Nat} {m : Replay.Memory}

/-- A call that does not wait is not cut short by any deadline. -/
theorem call_done {α : Type} (v : Verifier σ) (r : Result α) (s : σ) :
    v.call (.done r s) = (r.mapError storeFailure, s) := by
  unfold call
  cases v.settings.timeout with
  | none => rfl
  | some limit => rfl

theorem call_contains (hstore : v.store = Replay.Memory.store t) (key : String) :
    v.call (v.store.contains key m) = (.ok (m.isLive t key), m) := by
  rw [hstore]
  exact call_done v _ m

theorem call_register (hstore : v.store = Replay.Memory.store t) (key : String)
    (ttl : Duration) : v.call (v.store.register key ttl m) =
      match Replay.Memory.expiry t ttl with
      | .error e => (.error (storeFailure e), m)
      | .ok expires => (.ok (), m.write key expires) := by
  rw [hstore]
  simp only [Replay.Memory.store]
  cases Replay.Memory.expiry t ttl <;> exact call_done v _ _

theorem call_insertIfAbsent (hstore : v.store = Replay.Memory.store t) (key : String)
    (ttl : Duration) :
    v.call (v.store.insertIfAbsent key ttl m) =
      match Replay.Memory.expiry t ttl with
      | .error e => (.error (storeFailure e), m)
      | .ok expires =>
        if m.isLive t key = true then (.ok false, m)
        else (.ok true, m.write key expires) := by
  rw [hstore]
  simp only [Replay.Memory.store]
  cases Replay.Memory.expiry t ttl with
  | error e => exact call_done v _ m
  | ok expires => cases m.isLive t key <;> exact call_done v _ _

/-- Using up a key, as one equation. The mode of two calls looks first; both modes then ask
whether the clock can show the end of the lifetime, and after that whether the key is
live. -/
theorem useKey_eq (hstore : v.store = Replay.Memory.store t) (key : String)
    (m : Replay.Memory) : v.useKey key m =
      if v.settings.mode = .lookThenRegister ∧ m.isLive t key = true then (.ok false, m)
      else match Replay.Memory.expiry t v.settings.ttl with
        | .error e => (.error (storeFailure e), m)
        | .ok expires =>
          if m.isLive t key = true then (.ok false, m)
          else (.ok true, m.write key expires) := by
  unfold useKey
  cases v.settings.mode with
  | lookThenRegister =>
    simp only [call_contains hstore, call_register hstore, true_and]
    cases m.isLive t key with
    | true => rfl
    | false => cases Replay.Memory.expiry t v.settings.ttl <;> rfl
  | insertIfAbsent =>
    simp only [call_insertIfAbsent hstore, reduceCtorEq, false_and, if_false]

/-- A key is used up exactly if it is not live and the clock can show the end of its
lifetime; it is then written with that lifetime. -/
theorem consume_eq_ok_iff (hstore : v.store = Replay.Memory.store t) {jti : String}
    {m' : Replay.Memory} :
    v.consume jti m = (.ok (), m') ↔ m.isLive t (Replay.key jti) = false ∧
      t + v.settings.ttl.nanos < Replay.Memory.clockEnd ∧
      m' = m.write (Replay.key jti) (t + v.settings.ttl.nanos) := by
  unfold consume
  dsimp only
  rw [useKey_eq hstore]
  rcases Nat.lt_or_ge (t + v.settings.ttl.nanos) Replay.Memory.clockEnd with hend | hend
  · rw [Replay.Memory.expiry_eq_ok hend]
    cases m.isLive t (Replay.key jti) with
    | true => simp
    | false => simp [hend, eq_comm]
  · rw [Replay.Memory.expiry_eq_error hend]
    have hnot : ¬ t + v.settings.ttl.nanos < Replay.Memory.clockEnd := Nat.not_lt.mpr hend
    by_cases hlook : v.settings.mode = .lookThenRegister ∧
      m.isLive t (Replay.key jti) = true
    · simp [hlook]
    · simp [hlook, hnot]

/-- A key that is not used up leaves the store as it was, and the answer is a replay or a
failure of the store. -/
theorem consume_eq_error (hstore : v.store = Replay.Memory.store t) {jti : String}
    {e : Error} {m' : Replay.Memory} (h : v.consume jti m = (.error e, m')) :
    m' = m ∧ (e = .replay (Replay.key jti) ∨ ∃ reason, e = .storage reason) := by
  unfold consume at h
  dsimp only at h
  rw [useKey_eq hstore] at h
  by_cases hlook : v.settings.mode = .lookThenRegister ∧ m.isLive t (Replay.key jti) = true
  · rw [if_pos hlook] at h
    cases h
    exact ⟨rfl, Or.inl rfl⟩
  rw [if_neg hlook] at h
  rcases Nat.lt_or_ge (t + v.settings.ttl.nanos) Replay.Memory.clockEnd with hend | hend
  · rw [Replay.Memory.expiry_eq_ok hend] at h
    cases hlive : m.isLive t (Replay.key jti) with
    | true =>
      rw [hlive] at h
      cases h
      exact ⟨rfl, Or.inl rfl⟩
    | false =>
      rw [hlive] at h
      cases h
  · rw [Replay.Memory.expiry_eq_error hend] at h
    cases h
    exact ⟨rfl, Or.inr ⟨_, rfl⟩⟩

/-! ## The whole -/

/-- A proof that passes the first gate, and whose key is not live, takes its slot. -/
theorem verify_eq (hstore : v.store = Replay.Memory.store t) {key : Key} {claims : Claims}
    (hex : v.examine D method url proof = .ok (key, claims))
    (hlive : m.isLive t (Replay.key claims.jti) = false)
    (hend : t + v.settings.ttl.nanos < Replay.Memory.clockEnd) (x : Expectation) :
    v.verify D method url proof x m = (Checked.ofResult (confirm x key claims),
      m.write (Replay.key claims.jti) (t + v.settings.ttl.nanos)) := by
  unfold verify
  rw [hex]
  dsimp only
  rw [(consume_eq_ok_iff hstore).mpr ⟨hlive, hend, rfl⟩]

/-- A verification takes the slot of the proof that it examined, or it leaves the store
alone and answers with the failure of the gate at which it ended. -/
theorem verify_cases (hstore : v.store = Replay.Memory.store t) (D : Web.Url.DomainReader)
    (method url proof : String) (x : Expectation) (m : Replay.Memory) :
    (∃ key claims, v.examine D method url proof = .ok (key, claims) ∧
      m.isLive t (Replay.key claims.jti) = false ∧
      t + v.settings.ttl.nanos < Replay.Memory.clockEnd ∧
      v.verify D method url proof x m = (Checked.ofResult (confirm x key claims),
        m.write (Replay.key claims.jti) (t + v.settings.ttl.nanos))) ∨
    ∃ f, v.verify D method url proof x m = (.error f, m) ∧
      (v.examine D method url proof = .error f ∨
        (∃ key, f = .refused (.replay key)) ∨ ∃ reason,
        f = .refused (.storage reason)) := by
  unfold verify
  cases hex : v.examine D method url proof with
  | error f => exact Or.inr ⟨f, rfl, Or.inl rfl⟩
  | ok passed =>
    obtain ⟨key, claims⟩ := passed
    dsimp only
    cases hcon : v.consume claims.jti m with
    | mk answer m' =>
      cases answer with
      | ok u =>
        obtain ⟨hlive, hend, rfl⟩ := (consume_eq_ok_iff hstore).mp hcon
        exact Or.inl ⟨key, claims, rfl, hlive, hend, rfl⟩
      | error e =>
        obtain ⟨rfl, hwhy⟩ := consume_eq_error hstore hcon
        refine Or.inr ⟨.refused e, rfl, Or.inr ?_⟩
        rcases hwhy with rfl | ⟨reason, rfl⟩
        · exact Or.inl ⟨_, rfl⟩
        · exact Or.inr ⟨_, rfl⟩

/-- A proof that carries claims has had its slot taken exactly if the answer is one that is
given only then: it was fresh, its key was not live, and its key has been written. -/
theorem takesSlot_cases (hstore : v.store = Replay.Memory.store t) {now : Int64}
    (hnow : v.clock.now = .ok now) {claims : Claims} (hc : v.parser.Carries proof claims)
    (x : Expectation) (h : TakesSlot (v.verify D method url proof x m).1) :
    checkFresh v.settings.window now claims.iat = .ok () ∧
      m.isLive t (Replay.key claims.jti) = false ∧
      t + v.settings.ttl.nanos < Replay.Memory.clockEnd ∧
      (v.verify D method url proof x m).2 =
        m.write (Replay.key claims.jti) (t + v.settings.ttl.nanos) := by
  rcases verify_cases hstore D method url proof x m with
    ⟨key, c, hex, hlive, hend, hv⟩ | ⟨f, hv, hwhy⟩
  · obtain rfl := hc.unique (carries_of_examine hex)
    exact ⟨fresh_of_examine hnow hex, hlive, hend, by rw [hv]⟩
  · exfalso
    rw [hv] at h
    rcases h with ⟨_, h⟩ | ⟨reason, h⟩
    · cases h
    · cases h
      rcases hwhy with hex | ⟨_, h⟩ | ⟨_, h⟩
      · exact examine_ne_binding hnow hc reason hex
      · cases h
      · cases h

end Memory

end Verifier

end Proof

end Possession
