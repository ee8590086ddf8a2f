import Possession.Proofs.Verifier.AtMostOnce

/-!
# The checks of a verification, in their order

A verification makes fifteen checks, one after the other, and answers with the error of the
first that fails. This file says what each of them asks, without the program: `Check.Passes`
is a statement about the request, the proof, the clock and the store, and about nothing that
an earlier check has computed. `Check.Refuses` says which errors a check may answer with.

> `answersInOrder_iff`: over any store and any parser, a verification confirms the key of
> the proof exactly if every check passes, and otherwise it answers with an error of the
> first check that fails, unless the age of the proof is out of the range of a machine word.

The exception is real. A proof from 2^63 seconds in the future or more should be refused as
early; its age has no negation, and the verification ends without an answer. At the other
end an age of 2^63 seconds is not wider than the widest window, so that under this one
setting such a proof is not stale.

A call on the store is one check. It passes if the call succeeds before the deadline, which
is a statement about its waits (`Replay.Call.waits`), not about the timer.
-/

namespace Possession

namespace Replay.Call

variable {σ α : Type}

/-- How long a call takes, in nanoseconds. -/
def waits : Call σ α → Nat
  | done _ _ => 0
  | wait d _ next => d + next.waits

/-- A call that ends before the deadline ends as it would without one. -/
theorem runWithin_of_le {c : Call σ α} {limit : Nat} (h : c.waits ≤ limit) :
    c.runWithin limit = (some c.run.1, c.run.2) := by
  induction c generalizing limit with
  | done r s => rfl
  | wait d s next ih =>
    unfold waits at h
    unfold runWithin
    rw [if_neg (by omega)]
    exact ih (by omega)

/-- A call that takes longer has no result. -/
theorem runWithin_of_lt {c : Call σ α} {limit : Nat} (h : limit < c.waits) :
    (c.runWithin limit).1 = none := by
  induction c generalizing limit with
  | done r s => exact absurd h (Nat.not_lt_zero limit)
  | wait d s next ih =>
    unfold waits at h
    unfold runWithin
    split
    · rfl
    · exact ih (by omega)

end Replay.Call

namespace Proof

/-! ## Calls on the store -/

namespace Verifier

variable {σ α : Type} {v : Verifier σ}

/-- A call succeeds in the time that it may take, with a result, and leaves the store in a
state. -/
def Answers (v : Verifier σ) (c : Replay.Call σ α) (a : α) (s : σ) : Prop :=
  c.run = (.ok a, s) ∧ ∀ limit, v.settings.timeout = some limit → c.waits ≤ limit.nanos

theorem storeFailure_eq (e : Error) : ∃ reason, storeFailure e = .storage reason := by
  cases e <;> exact ⟨_, rfl⟩

theorem call_eq_ok_iff {c : Replay.Call σ α} {a : α} {s : σ} :
    v.call c = (.ok a, s) ↔ v.Answers c a s := by
  unfold call Answers
  cases v.settings.timeout with
  | none =>
    simp only [Result.mapError_eq_ok, Prod.ext_iff]
    simp
  | some limit =>
    simp only [Result.mapError_eq_ok, Prod.ext_iff]
    rcases Nat.lt_or_ge limit.nanos c.waits with hlate | hsoon
    · have hnever : ¬ c.waits ≤ limit.nanos := Nat.not_le.mpr hlate
      simp [Replay.Call.runWithin_of_lt hlate, hnever]
    · simp [Replay.Call.runWithin_of_le hsoon, hsoon]

/-- Whatever goes wrong in a call on the store is a failure of the store. -/
theorem call_eq_error {c : Replay.Call σ α} {e : Error} {s : σ}
    (h : v.call c = (.error e, s)) : ∃ reason, e = .storage reason := by
  unfold call at h
  dsimp only at h
  obtain ⟨h, -⟩ := Prod.mk.inj h
  obtain ⟨cause, -, rfl⟩ := Result.mapError_eq_error.mp h
  exact storeFailure_eq cause

/-- The calls that use up a key, in the mode of the verifier, succeed in time. -/
def Serves (v : Verifier σ) (key : String) (s : σ) : Prop :=
  match v.settings.mode with
  | .lookThenRegister => ∃ found s', v.Answers (v.store.contains key s) found s' ∧
      (found = false → ∃ s'', v.Answers (v.store.register key v.settings.ttl s') () s'')
  | .insertIfAbsent =>
    ∃ new s', v.Answers (v.store.insertIfAbsent key v.settings.ttl s) new s'

/-- No call that uses up a key reports it used. -/
def Unused (v : Verifier σ) (key : String) (s : σ) : Prop :=
  match v.settings.mode with
  | .lookThenRegister => ∀ s', ¬ v.Answers (v.store.contains key s) true s'
  | .insertIfAbsent =>
    ∀ s', ¬ v.Answers (v.store.insertIfAbsent key v.settings.ttl s) false s'

/-- Using up a key tells whether it was unused if the store serves the calls, and fails
otherwise. -/
theorem useKey_cases (v : Verifier σ) (key : String) (s : σ) :
    (∃ new s', v.useKey key s = (.ok new, s') ∧ v.Serves key s ∧
      (v.Unused key s ↔ new = true)) ∨
      ∃ reason s', v.useKey key s = (.error (.storage reason), s') ∧ ¬ v.Serves key s := by
  unfold useKey Serves Unused
  cases v.settings.mode with
  | insertIfAbsent =>
    simp only [← call_eq_ok_iff]
    cases hcall : v.call (v.store.insertIfAbsent key v.settings.ttl s) with
    | mk answer s' =>
      cases answer with
      | ok new => exact Or.inl ⟨new, s', rfl, ⟨new, s', rfl⟩, by cases new <;> simp⟩
      | error e =>
        obtain ⟨reason, rfl⟩ := call_eq_error hcall
        exact Or.inr ⟨reason, s', rfl, by simp⟩
  | lookThenRegister =>
    simp only [← call_eq_ok_iff]
    cases hlook : v.call (v.store.contains key s) with
    | mk answer s' =>
      cases answer with
      | error e =>
        obtain ⟨reason, rfl⟩ := call_eq_error hlook
        exact Or.inr ⟨reason, s', rfl, by simp⟩
      | ok found =>
        cases found with
        | true => exact Or.inl ⟨false, s', rfl, ⟨true, s', rfl, nofun⟩, by simp⟩
        | false =>
          -- only now does the second call matter
          cases hregister : v.call (v.store.register key v.settings.ttl s') with
          | mk answer s'' =>
            cases answer with
            | ok u => exact Or.inl ⟨true, s'', by simp [hregister, Except.map],
                ⟨false, s', rfl, fun _ => ⟨s'', hregister⟩⟩, by simp⟩
            | error e =>
              obtain ⟨reason, rfl⟩ := call_eq_error hregister
              exact Or.inr
                ⟨reason, s'', by simp [hregister, Except.map], by simp [hregister]⟩

/-- Using up a key fails as a replay, or as a failure of the store. -/
theorem consume_error {jti : String} {s s' : σ} {e : Error}
    (h : v.consume jti s = (.error e, s')) :
    e = .replay (Replay.key jti) ∨ ∃ reason, e = .storage reason := by
  unfold consume at h
  dsimp only at h
  rcases v.useKey_cases (Replay.key jti) s with ⟨new, s', huse, -⟩ | ⟨reason, s', huse, -⟩
  · rw [huse] at h
    cases new with
    | true => cases h
    | false =>
      cases h
      exact Or.inl rfl
  · rw [huse] at h
    cases h
    exact Or.inr ⟨reason, rfl⟩

end Verifier

/-! ## What each check asks -/

/-- A proof is authentic for claims under the key that came with it. -/
def Parser.Vouches (P : Parser) (proof : String) (key : Key) (claims : Claims) : Prop :=
  ∃ envelope, P proof = .ok envelope ∧ envelope.key = some key ∧
    envelope.claims key = .ok claims

/-- A proof is authentic for one set of claims at most, under one key. -/
theorem Parser.Vouches.unique {P : Parser} {proof : String} {key key' : Key}
    {claims claims' : Claims} (h : P.Vouches proof key claims)
    (h' : P.Vouches proof key' claims') : key = key' ∧ claims = claims' := by
  obtain ⟨envelope, hread, hkey, hclaims⟩ := h
  obtain ⟨envelope', hread', hkey', hclaims'⟩ := h'
  obtain rfl := Except.ok.inj (hread.symm.trans hread')
  obtain rfl := Option.some.inj (hkey.symm.trans hkey')
  exact ⟨rfl, Except.ok.inj (hclaims.symm.trans hclaims')⟩

/-- The checks of a verification. -/
inductive Check where
  | target
  | text
  | reading
  | typ
  | key
  | claims
  | method
  | url
  | clock
  | stale
  | early
  | store
  | slot
  | token
  | thumbprint

namespace Check

/-- The place of a check in the order. -/
def rank (c : Check) : Nat := c.ctorIdx

theorem rank_injective : Function.Injective rank := by
  intro a b h
  cases a <;> cases b <;> first | rfl | cases h

variable {σ : Type}

section Definitions

variable (v : Verifier σ) (D : Web.Url.DomainReader) (r : Request) (s : σ)

/-- What a check asks. Where it is about something that the proof has to have, and the proof
has no such thing, an earlier check has failed. -/
def Passes : Check → Prop
  | target => ∃ target, Target.ofRequest D r.method r.url = .ok target
  | text => Text.isBlank r.proof = false
  | reading => ∃ envelope, v.parser r.proof = .ok envelope
  | typ => ∀ envelope, v.parser r.proof = .ok envelope → envelope.typ = some "dpop+jwt"
  | key => ∀ envelope, v.parser r.proof = .ok envelope → ∃ key, envelope.key = some key
  | claims => ∀ envelope key, v.parser r.proof = .ok envelope → envelope.key = some key →
      ∃ claims, envelope.claims key = .ok claims
  | method => ∀ target key claims, Target.ofRequest D r.method r.url = .ok target →
      v.parser.Vouches r.proof key claims → claims.htm = target.method
  | url => ∀ target key claims, Target.ofRequest D r.method r.url = .ok target →
      v.parser.Vouches r.proof key claims → claims.htu = target.url
  | clock => ∃ now, v.clock.now = .ok now
  | stale => ∀ now key claims, v.clock.now = .ok now → v.parser.Vouches r.proof key claims →
      now.toInt - claims.iat.toInt ≤ v.settings.windowSecs.toNat
  | early => ∀ now key claims, v.clock.now = .ok now → v.parser.Vouches r.proof key claims →
      claims.iat.toInt - now.toInt ≤ v.settings.windowSecs.toNat
  | store => ∀ key claims, v.parser.Vouches r.proof key claims →
      v.Serves (Replay.key claims.jti) s
  | slot =>
    ∀ key claims, v.parser.Vouches r.proof key claims → v.Unused (Replay.key claims.jti) s
  | token => ∀ key claims token ath, v.parser.Vouches r.proof key claims →
      r.expectation.token = some token → claims.ath = some ath → ath = tokenHash token
  | thumbprint => ∀ key claims jkt, v.parser.Vouches r.proof key claims →
      r.expectation.jkt = some jkt → jkt = key.thumbprint

/-- The errors that a check answers with when it fails. -/
def Refuses : Check → Error → Prop
  | target, e | text, e => ∃ reason, e = .argument reason
  | reading, e | typ, e | key, e => ∃ reason, e = .format reason
  | claims, e => ∃ envelope key, v.parser r.proof = .ok envelope ∧ envelope.key = some key ∧
      envelope.claims key = .error e
  | method, e => ∃ reason, e = .validation .httpMethod reason
  | url, e => ∃ reason, e = .validation .httpUrl reason
  | clock, e => v.clock.now = .error e
  | stale, e => ∃ reason, e = .validation .issuedAtStale reason
  | early, e => ∃ reason, e = .validation .issuedAtFuture reason
  | store, e => ∃ reason, e = .storage reason
  | slot, e => ∃ key claims, v.parser.Vouches r.proof key claims ∧
      e = .replay (Replay.key claims.jti)
  | token, e | thumbprint, e => ∃ reason, e = .binding reason

/-- All checks that come before a check pass. -/
def PassesBefore (c : Check) : Prop := ∀ b : Check, b.rank < c.rank → b.Passes v D r s

/-- A check is the first that fails. -/
def FailsFirst (c : Check) : Prop := ¬ c.Passes v D r s ∧ c.PassesBefore v D r s

/-- An error is one that the first check that fails answers with. -/
def Blames (e : Error) : Prop := ∃ c : Check, c.FailsFirst v D r s ∧ c.Refuses v r e

/-- The age of a proof is too far out for a machine word, and the checks before this shows
all pass: the proof is from 2^63 seconds ahead, or it is as old, and nothing is wider than
the window. -/
def AgeOutOfRange : Prop :=
  stale.PassesBefore v D r s ∧ ∃ now key claims, v.clock.now = .ok now ∧
    v.parser.Vouches r.proof key claims ∧ (2 ^ 63 ≤ claims.iat.toInt - now.toInt ∨
      v.settings.windowSecs.toNat = 2 ^ 63 - 1 ∧ 2 ^ 63 ≤ now.toInt - claims.iat.toInt)

end Definitions

variable {v : Verifier σ} {D : Web.Url.DomainReader} {r : Request} {s : σ}

theorem passesBefore_target : target.PassesBefore v D r s :=
  fun _ h => absurd h (Nat.not_lt_zero _)

/-- After a check that passes comes the next. -/
theorem PassesBefore.next {a b : Check} (h : a.PassesBefore v D r s) (ha : a.Passes v D r s)
    (hab : b.rank = a.rank + 1) : b.PassesBefore v D r s := by
  intro c hc
  rcases Nat.lt_or_ge c.rank a.rank with hlt | hge
  · exact h c hlt
  · obtain rfl : c = a := rank_injective (by omega)
    exact ha

/-- Only one check can be the first that fails. -/
theorem FailsFirst.unique {a b : Check} (ha : a.FailsFirst v D r s)
    (hb : b.FailsFirst v D r s) : a = b := by
  rcases Nat.lt_trichotomy a.rank b.rank with hlt | heq | hgt
  · exact absurd (hb.2 a hlt) ha.1
  · exact rank_injective heq
  · exact absurd (ha.2 b hgt) hb.1

/-! ## What a check asks once the earlier ones have passed -/

section Evidence

variable {tgt : Target} {envelope : Envelope} {now : Int64} {k : Key} {c : Claims}

theorem passes_typ (hread : v.parser r.proof = .ok envelope) :
    typ.Passes v D r s ↔ envelope.typ = some "dpop+jwt" := by
  constructor
  · intro h
    exact h envelope hread
  · intro h envelope' hread'
    rwa [← Except.ok.inj (hread.symm.trans hread')]

theorem passes_key (hread : v.parser r.proof = .ok envelope) :
    key.Passes v D r s ↔ ∃ k, envelope.key = some k := by
  constructor
  · intro h
    exact h envelope hread
  · intro h envelope' hread'
    rwa [← Except.ok.inj (hread.symm.trans hread')]

theorem passes_claims (hread : v.parser r.proof = .ok envelope)
    (hkey : envelope.key = some k) :
    claims.Passes v D r s ↔ ∃ c, envelope.claims k = .ok c := by
  constructor
  · intro h
    exact h envelope k hread hkey
  · intro h envelope' k' hread' hkey'
    obtain rfl := Except.ok.inj (hread.symm.trans hread')
    rwa [← Option.some.inj (hkey.symm.trans hkey')]

theorem passes_method (htarget : Target.ofRequest D r.method r.url = .ok tgt)
    (hv : v.parser.Vouches r.proof k c) : method.Passes v D r s ↔ c.htm = tgt.method := by
  constructor
  · intro h
    exact h tgt k c htarget hv
  · intro h tgt' k' c' htarget' hv'
    rwa [← Except.ok.inj (htarget.symm.trans htarget'), ← (hv.unique hv').2]

theorem passes_url (htarget : Target.ofRequest D r.method r.url = .ok tgt)
    (hv : v.parser.Vouches r.proof k c) : url.Passes v D r s ↔ c.htu = tgt.url := by
  constructor
  · intro h
    exact h tgt k c htarget hv
  · intro h tgt' k' c' htarget' hv'
    rwa [← Except.ok.inj (htarget.symm.trans htarget'), ← (hv.unique hv').2]

theorem passes_stale (hnow : v.clock.now = .ok now) (hv : v.parser.Vouches r.proof k c) :
    stale.Passes v D r s ↔ now.toInt - c.iat.toInt ≤ v.settings.windowSecs.toNat := by
  constructor
  · intro h
    exact h now k c hnow hv
  · intro h now' k' c' hnow' hv'
    rwa [← Except.ok.inj (hnow.symm.trans hnow'), ← (hv.unique hv').2]

theorem passes_early (hnow : v.clock.now = .ok now) (hv : v.parser.Vouches r.proof k c) :
    early.Passes v D r s ↔ c.iat.toInt - now.toInt ≤ v.settings.windowSecs.toNat := by
  constructor
  · intro h
    exact h now k c hnow hv
  · intro h now' k' c' hnow' hv'
    rwa [← Except.ok.inj (hnow.symm.trans hnow'), ← (hv.unique hv').2]

theorem passes_store (hv : v.parser.Vouches r.proof k c) :
    store.Passes v D r s ↔ v.Serves (Replay.key c.jti) s := by
  constructor
  · intro h
    exact h k c hv
  · intro h k' c' hv'
    rwa [← (hv.unique hv').2]

theorem passes_slot (hv : v.parser.Vouches r.proof k c) :
    slot.Passes v D r s ↔ v.Unused (Replay.key c.jti) s := by
  constructor
  · intro h
    exact h k c hv
  · intro h k' c' hv'
    rwa [← (hv.unique hv').2]

theorem passes_token (hv : v.parser.Vouches r.proof k c) :
    token.Passes v D r s ↔
      ∀ token ath, r.expectation.token = some token → c.ath = some ath →
        ath = tokenHash token := by
  constructor
  · intro h token ath
    exact h k c token ath hv
  · intro h k' c' token ath hv'
    rw [← (hv.unique hv').2]
    exact h token ath

theorem passes_thumbprint (hv : v.parser.Vouches r.proof k c) :
    thumbprint.Passes v D r s ↔
      ∀ jkt, r.expectation.jkt = some jkt → jkt = k.thumbprint := by
  constructor
  · intro h jkt
    exact h k c jkt hv
  · intro h k' c' jkt hv'
    rw [← (hv.unique hv').1]
    exact h jkt

end Evidence

/-! ## The checks of the first gate -/

/-- An authentic proof passes the checks of its envelope. -/
theorem PassesBefore.authentic (hb : typ.PassesBefore v D r s) {envelope : Envelope}
    {k : Key} {c : Claims} (hread : v.parser r.proof = .ok envelope)
    (h : envelope.authenticate = .ok (k, c)) : method.PassesBefore v D r s := by
  obtain ⟨htyp, hkey, hclaims⟩ := Envelope.authenticate_eq_ok_iff.mp h
  have hb := hb.next (b := key) ((passes_typ hread).mpr htyp) rfl
  have hb := hb.next (b := claims) ((passes_key hread).mpr ⟨k, hkey⟩) rfl
  exact hb.next ((passes_claims hread hkey).mpr ⟨c, hclaims⟩) rfl

/-- An envelope without authentic claims fails for its type, for its key, or for its
claims. -/
theorem blames_of_authenticate {envelope : Envelope} {e : Error}
    (hb : typ.PassesBefore v D r s) (hread : v.parser r.proof = .ok envelope)
    (h : envelope.authenticate = .error e) : Blames v D r s e := by
  unfold Envelope.authenticate at h
  split at h
  next htyp =>
    have hb := hb.next (b := key) ((passes_typ hread).mpr htyp) rfl
    split at h
    next hnone =>
      cases h
      refine ⟨key, ⟨fun hpass => ?_, hb⟩, ⟨_, rfl⟩⟩
      obtain ⟨k, hkey⟩ := (passes_key hread).mp hpass
      rw [hnone] at hkey
      cases hkey
    next k hkey =>
      have hb := hb.next (b := claims) ((passes_key hread).mpr ⟨k, hkey⟩) rfl
      have hclaims := Result.map_eq_error.mp h
      refine ⟨claims, ⟨fun hpass => ?_, hb⟩, ⟨envelope, k, hread, hkey, hclaims⟩⟩
      obtain ⟨c, hc⟩ := (passes_claims hread hkey).mp hpass
      rw [hclaims] at hc
      cases hc
  next htyp =>
    cases h
    exact ⟨typ, ⟨fun hpass => htyp ((passes_typ hread).mp hpass), hb⟩, ⟨_, rfl⟩⟩

/-- A proof for the request passes the checks of the method and the URL. -/
theorem PassesBefore.addressed (hb : method.PassesBefore v D r s) {tgt : Target} {k : Key}
    {c : Claims} (htarget : Target.ofRequest D r.method r.url = .ok tgt)
    (hv : v.parser.Vouches r.proof k c) (h : checkTarget c tgt = .ok ()) :
    clock.PassesBefore v D r s := by
  obtain ⟨hm, hu⟩ := checkTarget_eq_ok_iff.mp h
  have hb := hb.next (b := url) ((passes_method htarget hv).mpr hm) rfl
  exact hb.next ((passes_url htarget hv).mpr hu) rfl

/-- Claims about another request fail for the method, or for the URL. -/
theorem blames_of_checkTarget {tgt : Target} {k : Key} {c : Claims} {e : Error}
    (hb : method.PassesBefore v D r s)
    (htarget : Target.ofRequest D r.method r.url = .ok tgt)
    (hv : v.parser.Vouches r.proof k c) (h : checkTarget c tgt = .error e) :
    Blames v D r s e := by
  unfold checkTarget at h
  split at h
  next hm =>
    cases h
    exact ⟨method, ⟨fun hpass => hm ((passes_method htarget hv).mp hpass), hb⟩, ⟨_, rfl⟩⟩
  next hm =>
    have hb := hb.next (b := url) ((passes_method htarget hv).mpr (not_not.mp hm)) rfl
    split at h
    next hu =>
      cases h
      exact ⟨url, ⟨fun hpass => hu ((passes_url htarget hv).mp hpass), hb⟩, ⟨_, rfl⟩⟩
    next => cases h

/-- The answer on the age of a proof whose age is in range is that of its two checks. -/
theorem checkFresh_cases (hvalid : v.settings.validate = .ok ())
    (hrange : ¬ AgeOutOfRange v D r s) {now : Int64} {k : Key} {c : Claims}
    (hb : stale.PassesBefore v D r s) (hnow : v.clock.now = .ok now)
    (hv : v.parser.Vouches r.proof k c) :
    (checkFresh v.settings.window now c.iat = .ok () ∧ store.PassesBefore v D r s) ∨
      ∃ e, checkFresh v.settings.window now c.iat = .error (.refused e) ∧
      Blames v D r s e := by
  have hwindow := Settings.toInt_window hvalid
  have hwidth := v.settings.window.toInt_lt
  have hlead : ¬ 2 ^ 63 ≤ c.iat.toInt - now.toInt :=
    fun hfar => hrange ⟨hb, now, k, c, hnow, hv, Or.inl hfar⟩
  have hage :
    ¬ (v.settings.windowSecs.toNat = 2 ^ 63 - 1 ∧ 2 ^ 63 ≤ now.toInt - c.iat.toInt) :=
    fun hfar => hrange ⟨hb, now, k, c, hnow, hv, Or.inr hfar⟩
  rw [checkFresh_eq (by omega), hwindow, if_neg hlead]
  by_cases hstale : now.toInt - c.iat.toInt ≤ v.settings.windowSecs.toNat
  · have hb := hb.next (b := early) ((passes_stale hnow hv).mpr hstale) rfl
    rw [if_neg (by omega)]
    by_cases hearly : c.iat.toInt - now.toInt ≤ v.settings.windowSecs.toNat
    · rw [if_neg (by omega)]
      exact Or.inl ⟨rfl, hb.next ((passes_early hnow hv).mpr hearly) rfl⟩
    · rw [if_pos (by omega)]
      exact Or.inr ⟨_, rfl, early,
        ⟨fun hpass => hearly ((passes_early hnow hv).mp hpass), hb⟩, ⟨_, rfl⟩⟩
  · rw [if_pos (by omega)]
    exact Or.inr ⟨_, rfl, stale,
      ⟨fun hpass => hstale ((passes_stale hnow hv).mp hpass), hb⟩, ⟨_, rfl⟩⟩

/-- A proof that can be read, is authentic, and is for the request passes all checks up to
the clock. -/
theorem passesBefore_clock {tgt : Target} {envelope : Envelope} {k : Key} {c : Claims}
    (htarget : Target.ofRequest D r.method r.url = .ok tgt)
    (hblank : Text.isBlank r.proof = false) (hread : v.parser r.proof = .ok envelope)
    (hauth : envelope.authenticate = .ok (k, c))
    (hreq : checkTarget c tgt = .ok ()) : clock.PassesBefore v D r s := by
  obtain ⟨-, hkey, hclaims⟩ := Envelope.authenticate_eq_ok_iff.mp hauth
  have hb := passesBefore_target (v := v) (D := D) (r := r) (s := s)
  have hb := hb.next (b := text) ⟨tgt, htarget⟩ rfl
  have hb := hb.next (b := reading) hblank rfl
  have hb := hb.next (b := typ) ⟨envelope, hread⟩ rfl
  have hb := hb.authentic hread hauth
  exact hb.addressed htarget ⟨envelope, hread, hkey, hclaims⟩ hreq

/-- A proof that does not pass the first gate fails one of the checks up to the clock, or
its age is asked for and refused. -/
theorem examine_error_cases {f : Failure}
    (h : v.examine D r.method r.url r.proof = .error f) :
    (∃ e, f = .refused e ∧ Blames v D r s e) ∨ ∃ now k c, stale.PassesBefore v D r s ∧
      v.clock.now = .ok now ∧ v.parser.Vouches r.proof k c ∧
      checkFresh v.settings.window now c.iat = .error f := by
  have hb := passesBefore_target (v := v) (D := D) (r := r) (s := s)
  unfold Verifier.examine at h
  -- The steps of the gate in order, with what is known to pass before each.
  rcases Result.bind_eq_error.mp h with h | ⟨tgt, htarget, h⟩
  · obtain ⟨e, he, rfl⟩ := ofResult_eq_error.mp h
    refine Or.inl ⟨e, rfl, target, ⟨fun hpass => ?_, hb⟩, Target.ofRequest_eq_error he⟩
    obtain ⟨tgt, htarget⟩ := hpass
    rw [he] at htarget
    cases htarget
  rw [ofResult_eq_ok] at htarget
  have hb := hb.next (b := text) ⟨tgt, htarget⟩ rfl
  split at h
  next hblank =>
    cases h
    refine Or.inl ⟨_, rfl, text, ⟨fun hpass => ?_, hb⟩, ⟨_, rfl⟩⟩
    rw [show Text.isBlank r.proof = false from hpass] at hblank
    cases hblank
  next hblank =>
    have hb := hb.next (b := reading) (by simpa [Passes] using hblank) rfl
    rcases Result.bind_eq_error.mp h with h | ⟨envelope, hread, h⟩
    · obtain ⟨e, he, rfl⟩ := ofResult_eq_error.mp h
      obtain ⟨cause, hcause, rfl⟩ := Result.mapError_eq_error.mp he
      refine Or.inl ⟨_, rfl, reading, ⟨fun hpass => ?_, hb⟩, ?_⟩
      · obtain ⟨envelope, hread⟩ := hpass
        rw [hcause] at hread
        cases hread
      · cases cause <;> exact ⟨_, rfl⟩
    rw [ofResult_eq_ok, Result.mapError_eq_ok] at hread
    have hb := hb.next (b := typ) ⟨envelope, hread⟩ rfl
    rcases Result.bind_eq_error.mp h with h | ⟨⟨k, c⟩, hauth, h⟩
    · obtain ⟨e, he, rfl⟩ := ofResult_eq_error.mp h
      exact Or.inl ⟨e, rfl, blames_of_authenticate hb hread he⟩
    rw [ofResult_eq_ok] at hauth
    have hb := hb.authentic hread hauth
    obtain ⟨-, hkey, hclaims⟩ := Envelope.authenticate_eq_ok_iff.mp hauth
    have hv : v.parser.Vouches r.proof k c := ⟨envelope, hread, hkey, hclaims⟩
    rcases Result.bind_eq_error.mp h with h | ⟨⟨⟩, hreq, h⟩
    · obtain ⟨e, he, rfl⟩ := ofResult_eq_error.mp h
      exact Or.inl ⟨e, rfl, blames_of_checkTarget hb htarget hv he⟩
    rw [ofResult_eq_ok] at hreq
    have hb := hb.addressed htarget hv hreq
    rcases Result.bind_eq_error.mp h with h | ⟨now, hnow, h⟩
    · obtain ⟨e, he, rfl⟩ := ofResult_eq_error.mp h
      refine Or.inl ⟨e, rfl, clock, ⟨fun hpass => ?_, hb⟩, he⟩
      obtain ⟨now, hnow⟩ := hpass
      rw [he] at hnow
      cases hnow
    rw [ofResult_eq_ok] at hnow
    have hb := hb.next (b := stale) ⟨now, hnow⟩ rfl
    rcases Result.bind_eq_error.mp h with h | ⟨⟨⟩, -, h⟩
    · exact Or.inr ⟨now, k, c, hb, hnow, hv, h⟩
    · cases h

/-- A proof that does not pass the first gate fails one of its checks, and that is the
first. -/
theorem blames_of_examine (hvalid : v.settings.validate = .ok ())
    (hrange : ¬ AgeOutOfRange v D r s) {f : Failure}
    (h : v.examine D r.method r.url r.proof = .error f) :
    ∃ e, f = .refused e ∧ Blames v D r s e := by
  rcases examine_error_cases (s := s) h with hblames | ⟨now, k, c, hb, hnow, hv, hage⟩
  · exact hblames
  · rcases checkFresh_cases hvalid hrange hb hnow hv with ⟨hfresh, -⟩ | ⟨e, hrefused, he⟩
    · rw [hfresh] at hage
      cases hage
    · rw [hrefused] at hage
      cases hage
      exact ⟨e, rfl, he⟩

/-- A proof that passes the first gate passes its checks. -/
theorem passesBefore_of_examine (hvalid : v.settings.validate = .ok ())
    (hrange : ¬ AgeOutOfRange v D r s) {k : Key} {c : Claims}
    (h : v.examine D r.method r.url r.proof = .ok (k, c)) :
    v.parser.Vouches r.proof k c ∧ store.PassesBefore v D r s := by
  obtain ⟨tgt, envelope, now, htarget, hblank, hread, htyp, hkey, hclaims, hm, hu, hnow,
    hfresh⟩ :=
    Verifier.examine_eq_ok_iff.mp h
  have hv : v.parser.Vouches r.proof k c := ⟨envelope, hread, hkey, hclaims⟩
  have hb : clock.PassesBefore v D r s := passesBefore_clock htarget hblank hread
    (Envelope.authenticate_eq_ok_iff.mpr ⟨htyp, hkey, hclaims⟩)
      (checkTarget_eq_ok_iff.mpr ⟨hm, hu⟩)
  have hb := hb.next (b := stale) ⟨now, hnow⟩ rfl
  refine ⟨hv, ?_⟩
  rcases checkFresh_cases hvalid hrange hb hnow hv with ⟨-, hstore⟩ | ⟨e, hrefused, -⟩
  · exact hstore
  · rw [hfresh] at hrefused
    cases hrefused

/-! ## The checks of the second and third gate -/

/-- Using up a replay key answers with success if the store serves the calls and none
reports it used, and otherwise with the error of the first of these two checks that
fails. -/
theorem consume_cases {k : Key} {c : Claims} (hb : store.PassesBefore v D r s)
    (hv : v.parser.Vouches r.proof k c) :
    (∃ s', v.consume c.jti s = (.ok (), s') ∧ token.PassesBefore v D r s) ∨
      ∃ e s', v.consume c.jti s = (.error e, s') ∧ Blames v D r s e := by
  unfold Verifier.consume
  dsimp only
  rcases v.useKey_cases (Replay.key c.jti) s with
    ⟨new, s', huse, hserves, hunused⟩ | ⟨reason, s', huse, hserves⟩
  · have hb := hb.next (b := slot) ((passes_store hv).mpr hserves) rfl
    rw [huse]
    cases new with
    | true => exact Or.inl ⟨s', rfl, hb.next ((passes_slot hv).mpr (hunused.mpr rfl)) rfl⟩
    | false =>
      refine Or.inr ⟨_, s', rfl, slot, ⟨fun hpass => ?_, hb⟩, ⟨k, c, hv, rfl⟩⟩
      cases hunused.mp ((passes_slot hv).mp hpass)
  · rw [huse]
    exact Or.inr ⟨_, s', rfl, store,
      ⟨fun hpass => hserves ((passes_store hv).mp hpass), hb⟩, ⟨reason, rfl⟩⟩

/-- The comparison with what the caller knows answers with a confirmation if both checks
pass, and otherwise with a mismatch. -/
theorem confirm_cases {k : Key} {c : Claims} (hb : token.PassesBefore v D r s)
    (hv : v.parser.Vouches r.proof k c) :
    (confirm r.expectation k c = .ok ⟨k.thumbprint⟩ ∧ ∀ b : Check, b.Passes v D r s) ∨
      ∃ e, confirm r.expectation k c = .error e ∧ Blames v D r s e := by
  rcases Proof.confirm_cases r.expectation k c with ⟨hdiffers, hc⟩ | ⟨hsametoken, hjkt⟩
  · obtain ⟨t, ht, ath, hath, hne⟩ := hdiffers
    refine Or.inr ⟨_, hc, token, ⟨fun hpass => ?_, hb⟩, ⟨_, rfl⟩⟩
    exact hne ((passes_token hv).mp hpass t ath ht hath)
  · have hb := hb.next (b := thumbprint)
      ((passes_token hv).mpr fun t ath ht hath => hsametoken t ht ath hath) rfl
    rcases hjkt with ⟨⟨jkt, hjkt, hne⟩, hc⟩ | ⟨hsamejkt, hc⟩
    · refine Or.inr ⟨_, hc, thumbprint, ⟨fun hpass => ?_, hb⟩, ⟨_, rfl⟩⟩
      exact hne ((passes_thumbprint hv).mp hpass jkt hjkt)
    · refine Or.inl ⟨hc, fun b => ?_⟩
      rcases Nat.lt_or_ge b.rank thumbprint.rank with hlt | hge
      · exact hb b hlt
      · obtain rfl : b = thumbprint := by
          cases b <;> first | rfl | exact absurd hge (by decide)
        exact (passes_thumbprint hv).mpr hsamejkt

/-! ## The whole -/

/-- A verification of a proof whose age is in range confirms it if every check passes, and
otherwise answers with an error of the first check that fails. -/
theorem verify_cases (hvalid : v.settings.validate = .ok ())
    (hrange : ¬ AgeOutOfRange v D r s) :
    ((∀ b : Check, b.Passes v D r s) ∧ ∃ key claims, v.parser.Vouches r.proof key claims ∧
        (v.verify D r.method r.url r.proof r.expectation s).1 = .ok ⟨key.thumbprint⟩) ∨
      ∃ e, (v.verify D r.method r.url r.proof r.expectation s).1 = .error (.refused e) ∧
        Blames v D r s e := by
  unfold Verifier.verify
  cases hex : v.examine D r.method r.url r.proof with
  | error f =>
    obtain ⟨e, rfl, he⟩ := blames_of_examine hvalid hrange hex
    exact Or.inr ⟨e, rfl, he⟩
  | ok passed =>
    obtain ⟨k, c⟩ := passed
    obtain ⟨hv, hb⟩ := passesBefore_of_examine hvalid hrange hex
    dsimp only
    rcases consume_cases hb hv with ⟨s', hconsume, hb⟩ | ⟨e, s', hconsume, he⟩
    · rw [hconsume]
      rcases confirm_cases hb hv with ⟨hconfirm, hall⟩ | ⟨e, hconfirm, he⟩
      · exact Or.inl ⟨hall, k, c, hv, by rw [hconfirm]; rfl⟩
      · exact Or.inr ⟨e, by rw [hconfirm]; rfl, he⟩
    · rw [hconsume]
      exact Or.inr ⟨e, rfl, he⟩

variable (v D r s) in
/-- What is promised of a verification. -/
structure AnswersInOrder : Prop where
  accepted : ∀ confirmation,
    (v.verify D r.method r.url r.proof r.expectation s).1 = .ok confirmation ↔
      (∀ b : Check, b.Passes v D r s) ∧ ∃ key claims, v.parser.Vouches r.proof key claims ∧
        confirmation.jkt = key.thumbprint
  refused : ∀ b : Check, b.FailsFirst v D r s → ∃ e,
    (v.verify D r.method r.url r.proof r.expectation s).1 = .error (.refused e) ∧
    b.Refuses v r e

theorem answersInOrder_of_range (hvalid : v.settings.validate = .ok ())
    (hrange : ¬ AgeOutOfRange v D r s) : AnswersInOrder v D r s := by
  rcases verify_cases hvalid hrange with ⟨hall, k, c, hv, hanswer⟩ |
    ⟨e, hanswer, b, hfirst, hrefuses⟩
  · refine ⟨fun confirmation => ?_, fun b hfirst => absurd (hall b) hfirst.1⟩
    rw [hanswer]
    constructor
    · intro h
      cases h
      exact ⟨hall, k, c, hv, rfl⟩
    · intro h
      obtain ⟨-, k', c', hv', hjkt⟩ := h
      rw [← (hv.unique hv').1] at hjkt
      rw [← hjkt]
  · refine ⟨fun confirmation => ?_, fun b' hfirst' => ?_⟩
    · rw [hanswer]
      constructor
      · intro h
        cases h
      · intro h
        exact absurd (h.1 b) hfirst.1
    · obtain rfl := hfirst.unique hfirst'
      exact ⟨e, hanswer, hrefuses⟩

/-- A verification that gets as far as the age of a proof examines it for its age. -/
theorem examine_of_passesBefore (hb : stale.PassesBefore v D r s) {now : Int64} {k : Key}
    {c : Claims} (hnow : v.clock.now = .ok now) (hv : v.parser.Vouches r.proof k c) :
    v.examine D r.method r.url r.proof =
      (checkFresh v.settings.window now c.iat).map fun _ => (k, c) := by
  obtain ⟨tgt, htarget⟩ : target.Passes v D r s := hb target (by decide)
  obtain ⟨envelope, hread, hkey, hclaims⟩ := id hv
  have htyp := (passes_typ hread).mp (hb typ (by decide))
  have hm := (passes_method htarget hv).mp (hb method (by decide))
  have hu := (passes_url htarget hv).mp (hb url (by decide))
  exact Verifier.examine_eq htarget (hb text (by decide)) hread
    (Envelope.authenticate_eq_ok_iff.mpr ⟨htyp, hkey, hclaims⟩)
      (checkTarget_eq_ok_iff.mpr ⟨hm, hu⟩) hnow

/-- A proof from too far ahead gets no answer. -/
theorem verify_eq_overflow (hvalid : v.settings.validate = .ok ())
    (hb : stale.PassesBefore v D r s) {now : Int64} {k : Key} {c : Claims}
    (hnow : v.clock.now = .ok now) (hv : v.parser.Vouches r.proof k c)
    (hfar : 2 ^ 63 ≤ c.iat.toInt - now.toInt) :
    (v.verify D r.method r.url r.proof r.expectation s).1 = .error .overflow := by
  have hwindow := Settings.toInt_window hvalid
  have hwidth := v.settings.window.toInt_lt
  have hfresh : checkFresh v.settings.window now c.iat = .error .overflow := by
    rw [checkFresh_eq (by omega), if_neg (by omega), if_pos (by omega), if_pos hfar]
  unfold Verifier.verify
  rw [examine_of_passesBefore hb hnow hv, hfresh]
  rfl

/-- Nothing is too old for the widest window. -/
theorem verify_ne_stale (hvalid : v.settings.validate = .ok ())
    (hb : stale.PassesBefore v D r s) {now : Int64} {k : Key} {c : Claims}
    (hnow : v.clock.now = .ok now) (hv : v.parser.Vouches r.proof k c)
    (hwidest : v.settings.windowSecs.toNat = 2 ^ 63 - 1)
    (hold : 2 ^ 63 ≤ now.toInt - c.iat.toInt) (reason : String) :
    (v.verify D r.method r.url r.proof r.expectation s).1 ≠
      .error (.refused (.validation .issuedAtStale reason)) := by
  have hwindow := Settings.toInt_window hvalid
  have hfresh : checkFresh v.settings.window now c.iat = .ok () := by
    rw [checkFresh_eq (by omega), if_neg (by omega), if_neg (by omega)]
  have hex : v.examine D r.method r.url r.proof = .ok (k, c) := by
    rw [examine_of_passesBefore hb hnow hv, hfresh]
    rfl
  intro h
  unfold Verifier.verify at h
  rw [hex] at h
  dsimp only at h
  split at h
  next e s' hconsume =>
    cases h
    rcases Verifier.consume_error hconsume with he | ⟨_, he⟩
    · cases he
    · cases he
  next s' hconsume =>
    obtain ⟨e, hconfirm, he⟩ := ofResult_eq_error.mp h
    cases he
    obtain ⟨_, he⟩ := confirm_error hconfirm
    cases he

theorem not_answersInOrder (hvalid : v.settings.validate = .ok ())
    (hrange : AgeOutOfRange v D r s) : ¬ AnswersInOrder v D r s := by
  intro hpromise
  have hwindow := Settings.toInt_window hvalid
  have hwidth := v.settings.window.toInt_lt
  obtain ⟨hb, now, k, c, hnow, hv, hfar | ⟨hwidest, hold⟩⟩ := hrange
  · have hstale : stale.Passes v D r s := (passes_stale hnow hv).mpr (by omega)
    have hearly : ¬ early.Passes v D r s := by
      rw [passes_early hnow hv]
      omega
    obtain ⟨e, hanswer, -⟩ := hpromise.refused early ⟨hearly, hb.next hstale rfl⟩
    rw [verify_eq_overflow hvalid hb hnow hv hfar] at hanswer
    cases hanswer
  · have hstale : ¬ stale.Passes v D r s := by
      rw [passes_stale hnow hv]
      omega
    obtain ⟨e, hanswer, reason, rfl⟩ := hpromise.refused stale ⟨hstale, hb⟩
    exact verify_ne_stale hvalid hb hnow hv hwidest hold reason hanswer

end Check

open Check in
/-- **The checks of a verification.** For every parser, store, clock, request and caller: a
verification confirms the key of the proof exactly if all checks pass, and otherwise answers
with an error of the first that fails, exactly if the age of the proof is in range. -/
theorem answersInOrder_iff {σ : Type} (v : Verifier σ)
    (hvalid : v.settings.validate = .ok ())
    (D : Web.Url.DomainReader) (r : Request) (s : σ) :
    AnswersInOrder v D r s ↔ ¬ AgeOutOfRange v D r s :=
  ⟨fun h hrange => not_answersInOrder hvalid hrange h, answersInOrder_of_range hvalid⟩

/-- A verifier with the standard settings that reads every text as one proof, made at a
second. -/
def sampleVerifier (clock : Clock) (iat : Int64) : Verifier Replay.Memory :=
  { (Group.sample (fun _ : Unit => {}) iat).verifier () 0 with clock }

theorem validate_sampleVerifier (clock : Clock) (iat : Int64) :
    (sampleVerifier clock iat).settings.validate = .ok () :=
  (Settings.validate_eq_ok_iff {}).mpr (by decide)

theorem sampleVerifier_vouches (clock : Clock) (iat : Int64) (proof : String) :
    (sampleVerifier clock iat).parser.Vouches proof sampleKey (sampleClaims iat) :=
  ⟨_, rfl, rfl, rfl⟩

/-- The sample proof passes every check before its age matters. -/
theorem sampleVerifier_passesBefore (now iat : Int64) (s : Replay.Memory) :
    Check.stale.PassesBefore (sampleVerifier (.seconds now) iat) some sampleRequest s := by
  have hb :
    Check.clock.PassesBefore (sampleVerifier (.seconds now) iat) some sampleRequest s :=
    Check.passesBefore_clock (k := sampleKey) (c := sampleClaims iat) target_sampleRequest
      isBlank_sampleRequest rfl rfl (checkTarget_eq_ok_iff.mpr ⟨rfl, rfl⟩)
  exact hb.next ⟨now, rfl⟩ rfl

/-- A proof from the edge of the window gets the answer that is promised. -/
theorem proof_from_edge_answersInOrder :
    (sampleVerifier (.seconds 0) 15).settings.validate = .ok () ∧
      Check.AnswersInOrder (sampleVerifier (.seconds 0) 15) some sampleRequest .empty := by
  have hvalid := validate_sampleVerifier (.seconds 0) 15
  refine ⟨hvalid, (answersInOrder_iff _ hvalid some sampleRequest .empty).mpr ?_⟩
  rintro ⟨-, now, k, c, hnow, hv, hfar⟩
  cases hnow
  obtain ⟨-, rfl⟩ := hv.unique (sampleVerifier_vouches (.seconds 0) 15 sampleRequest.proof)
  revert hfar
  decide

/-- A proof from 2^63 seconds ahead is early, all other checks before that pass, and it gets
no answer. -/
theorem proof_from_far_ahead_gets_no_answer :
    let v := sampleVerifier (.seconds (-1)) Int64.maxValue
    v.settings.validate = .ok () ∧ Check.early.FailsFirst v some sampleRequest .empty ∧
      (v.verify some "GET" "http://h/" "p" {} .empty).1 = .error .overflow ∧
      ¬ Check.AnswersInOrder v some sampleRequest .empty := by
  intro v
  have hvalid : v.settings.validate = .ok () := validate_sampleVerifier ..
  have hb : Check.stale.PassesBefore v some sampleRequest .empty :=
    sampleVerifier_passesBefore _ _ _
  have hnow : v.clock.now = .ok (-1) := rfl
  have hv := sampleVerifier_vouches (.seconds (-1)) Int64.maxValue sampleRequest.proof
  have hstale := (Check.passes_stale (D := some) (s := .empty) hnow hv).mpr (by decide)
  have hearly : ¬ Check.early.Passes v some sampleRequest .empty := by
    rw [Check.passes_early hnow hv]
    decide
  have hfirst : Check.early.FailsFirst v some sampleRequest .empty :=
    ⟨hearly, hb.next hstale rfl⟩
  have hanswer : (v.verify some "GET" "http://h/" "p" {} .empty).1 = .error .overflow :=
    Check.verify_eq_overflow (r := sampleRequest) hvalid hb hnow hv (by decide)
  refine ⟨hvalid, hfirst, hanswer, fun hpromise => ?_⟩
  obtain ⟨e, he, -⟩ := hpromise.refused .early hfirst
  cases hanswer.symm.trans he

end Proof

end Possession
