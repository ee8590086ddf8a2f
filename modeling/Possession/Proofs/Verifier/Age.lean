import Possession.Proofs.Verifier.Checks
import Possession.Replay.Script

/-!
# The age of a proof

The age of a proof is the difference of two numbers, one of which is chosen by whoever makes
the proof. This file says where the machine words in which it is computed tell the truth:

> `age_decided_iff`: at a reading that is not before the epoch, a proof is fresh, stale or
> early exactly as the integers have it, unless the window is the widest there is and the
> age is no word;
> `no_answer_iff`: a verification ends without an answer exactly if the proof passes every
> check before its age matters and comes from 2^63 seconds ahead or more.

The difference clamps and cannot overflow. The two negations can, since one word has no
opposite. `checkFreshInWords` is the check with both of them in the open, as operations on
words that end in an overflow where the integer is no word. A window always has an opposite,
so what is left is the age in the text of a refusal; and at a reading that is not before the
epoch every age has one, so that such clocks always get an answer (`answer_of_reading`).
-/

namespace Possession.Proof

/-! ## Arithmetic that may overflow -/

/-- The word of an integer; where there is none, arithmetic on words ends in an overflow. -/
def word (n : Int) : Checked Int64 :=
  if -2 ^ 63 ≤ n ∧ n < 2 ^ 63 then .ok (Int64.ofInt n) else .error .overflow

/-- Whether a proof made at `iat` is fresh at `now`, with both negations as operations on
words. -/
def checkFreshInWords (window now iat : Int64) : Checked Unit :=
  let age := Int64.subClamped now iat
  if window < age then .error (.refused (stale age window))
  else word (-window.toInt) >>= fun least =>
    if age < least then word (-age.toInt) >>=
      fun lead => .error (.refused (early lead window))
    else .ok ()

/-- A word has an opposite, unless it is the least one. -/
theorem word_neg (a : Int64) :
    word (-a.toInt) = if a = Int64.minValue then .error .overflow else .ok (-a) := by
  have hleast : a = Int64.minValue ↔ a.toInt = -2 ^ 63 := by
    rw [← Int64.toInt_inj, Int64.toInt_minValue]
  have hbelow := a.toInt_lt
  have habove := a.le_toInt
  unfold word
  split
  next h =>
    rw [if_neg (by rw [hleast]; omega)]
    refine congrArg _ (Int64.toInt_inj.mp ?_)
    rw [Int64.toInt_ofInt_of_le h.1 h.2, Int64.toInt_neg,
      Int.bmod_eq_of_le (by omega) (by omega)]
  next h => rw [if_pos (hleast.mpr (by omega))]

theorem Settings.window_nonneg (s : Settings) : 0 ≤ s.window.toInt := by
  unfold Settings.window
  rw [Int64.toInt_clamp]
  omega

/-- The check of an age is the one in words, under any settings. -/
theorem checkFresh_eq_inWords (s : Settings) (now iat : Int64) :
    checkFresh s.window now iat = checkFreshInWords s.window now iat := by
  have hwindow : s.window ≠ Int64.minValue := by
    intro h
    have hnonneg := s.window_nonneg
    rw [h, Int64.toInt_minValue] at hnonneg
    omega
  have hopposite :
    word (-s.window.toInt) = .ok (-s.window) := by rw [word_neg, if_neg hwindow]
  unfold checkFresh checkFreshInWords
  -- the opposite of the window is settled, that of the age depends on the age
  simp only [hopposite, word_neg, Result.ok_bind]
  by_cases hleast : Int64.subClamped now iat = Int64.minValue
  · simp only [hleast, if_true]
    rfl
  · simp only [hleast, if_false]
    rfl

/-! ## How an age is decided -/

/-- The check of claims against a request and against the clock. -/
def Verifier.checkClaims {σ : Type} (v : Verifier σ) (claims : Claims) (target : Target) :
    Checked Unit := do
  Checked.ofResult (checkTarget claims target)
  let now ← Checked.ofResult v.clock.now
  checkFresh v.settings.window now claims.iat

/-- An age is decided as the integers have it. -/
structure DecidesAge (window : Nat) (now iat : Int64) (answer : Checked Unit) : Prop where
  fresh : answer = .ok () ↔ (now.toInt - iat.toInt).natAbs ≤ window
  stale : (∃ reason, answer = .error (.refused (.validation .issuedAtStale reason))) ↔
    (window : Int) < now.toInt - iat.toInt
  early : (∃ reason, answer = .error (.refused (.validation .issuedAtFuture reason))) ↔
    (window : Int) < iat.toInt - now.toInt

section Claims

variable {σ : Type} {v : Verifier σ} {now : Int64} {claims : Claims} {target : Target}

/-- The claims of an authentic proof are checked in this way. -/
theorem Verifier.examine_eq_checkClaims {D : Web.Url.DomainReader}
    {method url proof : String} {envelope : Envelope} {key : Key}
    (htarget : Target.ofRequest D method url = .ok target)
    (hblank : Text.isBlank proof = false) (hread : v.parser proof = .ok envelope)
    (hauth : envelope.authenticate = .ok (key, claims)) :
    v.examine D method url proof = (v.checkClaims claims target).map fun _ =>
      (key, claims) := by
  unfold examine checkClaims
  simp only [htarget, hblank, hread, hauth, Result.mapError_ok, ofResult_ok, Result.ok_bind,
    Bool.false_eq_true, if_false]
  cases checkTarget claims target with
  | error e => rfl
  | ok u =>
    cases v.clock.now with
    | error e => rfl
    | ok now => cases checkFresh v.settings.window now claims.iat <;> rfl

/-- Claims about the request come down to their age. -/
theorem Verifier.checkClaims_eq (hnow : v.clock.now = .ok now)
    (hm : claims.htm = target.method) (hu : claims.htu = target.url) :
    v.checkClaims claims target = checkFresh v.settings.window now claims.iat := by
  unfold checkClaims
  rw [checkTarget_eq_ok_iff.mpr ⟨hm, hu⟩, hnow]
  rfl

/-- **The age of a proof.** For every verifier with valid settings whose clock reads the
epoch or later, and all claims about the request: their age is decided as the integers have
it, exactly unless the window is 2^63 - 1 seconds, the widest that a word holds, and the
proof is older than that. -/
theorem age_decided_iff (hvalid : v.settings.validate = .ok ())
    (hnow : v.clock.now = .ok now) (hpos : 0 ≤ now.toInt) (hm : claims.htm = target.method)
    (hu : claims.htu = target.url) :
    DecidesAge v.settings.windowSecs.toNat now claims.iat (v.checkClaims claims target) ↔
      ¬ (v.settings.windowSecs.toNat = 2 ^ 63 - 1 ∧
        2 ^ 63 ≤ now.toInt - claims.iat.toInt) := by
  have hwindow := Settings.toInt_window hvalid
  have hwidth := v.settings.window.toInt_lt
  have hiat := claims.iat.toInt_lt
  rw [Verifier.checkClaims_eq hnow hm hu, checkFresh_eq (by omega), hwindow]
  -- a proof is never so far ahead of such a reading that its age has no opposite
  have hlead : ¬ 2 ^ 63 ≤ claims.iat.toInt - now.toInt := by omega
  rw [if_neg hlead]
  constructor
  · rintro hdecides ⟨hwidest, hold⟩
    have hfresh := hdecides.fresh.mp (by rw [if_neg (by omega), if_neg (by omega)])
    omega
  · intro hrange
    by_cases hstale : (v.settings.windowSecs.toNat : Int) < now.toInt - claims.iat.toInt
    · rw [if_pos (by omega)]
      exact ⟨iff_of_false nofun (by omega), iff_of_true ⟨_, rfl⟩ hstale,
        iff_of_false (fun ⟨_, h⟩ => by cases h) (by omega)⟩
    · rw [if_neg (by omega)]
      by_cases hearly : (v.settings.windowSecs.toNat : Int) < claims.iat.toInt - now.toInt
      · rw [if_pos hearly]
        exact ⟨iff_of_false nofun (by omega),
          iff_of_false (fun ⟨_, h⟩ => by cases h) hstale, iff_of_true ⟨_, rfl⟩ hearly⟩
      · rw [if_neg hearly]
        exact ⟨iff_of_true rfl (by omega), iff_of_false (fun ⟨_, h⟩ => by cases h) hstale,
          iff_of_false (fun ⟨_, h⟩ => by cases h) hearly⟩

end Claims

/-- The widest window with which settings are valid, or one that is some seconds
narrower. -/
def wideSettings (narrower : UInt64) : Settings :=
  { windowSecs := 9223372036854775807 - narrower, ttlSecs := 18446744073709551615 }

/-- A verifier with such a window, whose clock shows the epoch, over a store that finds
every key unused. -/
def wideVerifier (narrower : UInt64) (iat : Int64) : Verifier Replay.Script where
  parser := (sampleVerifier (.seconds 0) iat).parser
  store := Replay.Script.store
  clock := .seconds 0
  settings := wideSettings narrower

/-- The target of the sample request. -/
def sampleTarget : Target := ⟨"GET", "http://h/"⟩

theorem checkClaims_wideVerifier (narrower : UInt64) (iat : Int64) :
    (wideVerifier narrower iat).checkClaims (sampleClaims iat) sampleTarget =
      checkFresh (wideSettings narrower).window 0 iat :=
  Verifier.checkClaims_eq rfl rfl rfl

/-- One second below the widest window, the oldest proof there is is stale. -/
theorem oldest_proof_is_stale :
    let v := wideVerifier 1 Int64.minValue
    let answer := v.checkClaims (sampleClaims Int64.minValue) sampleTarget
    v.settings.validate = .ok () ∧ v.settings.windowSecs.toNat = 2 ^ 63 - 2 ∧
      DecidesAge v.settings.windowSecs.toNat 0 Int64.minValue answer ∧
      ∃ reason, answer = .error (.refused (.validation .issuedAtStale reason)) := by
  intro v answer
  have hvalid : v.settings.validate = .ok () :=
    (Settings.validate_eq_ok_iff _).mpr (by decide)
  have hdecides :=
    (@age_decided_iff _ v 0 (sampleClaims Int64.minValue) sampleTarget hvalid rfl
      (by decide) rfl rfl).mpr (by decide)
  exact ⟨hvalid, rfl, hdecides, hdecides.stale.mpr (by decide)⟩

/-- In the widest window the oldest proof there is is fresh, and it is accepted, although it
is a second older than the window. -/
theorem oldest_proof_is_fresh :
    let v := wideVerifier 0 Int64.minValue
    let answer := v.checkClaims (sampleClaims Int64.minValue) sampleTarget
    v.settings.validate = .ok () ∧ v.settings.windowSecs.toNat = 2 ^ 63 - 1 ∧
      (0 : Int64).toInt - Int64.minValue.toInt = 2 ^ 63 ∧
      answer = .ok () ∧ ¬ DecidesAge v.settings.windowSecs.toNat 0 Int64.minValue answer ∧
      (v.verify some "GET" "http://h/" "p" {} ⟨[], [], []⟩).1 =
        .ok ⟨sampleKey.thumbprint⟩ := by
  intro v answer
  have hvalid : v.settings.validate = .ok () :=
    (Settings.validate_eq_ok_iff _).mpr (by decide)
  have hfresh : answer = .ok () := by
    show v.checkClaims (sampleClaims Int64.minValue) sampleTarget = _
    rw [checkClaims_wideVerifier]
    decide
  refine ⟨hvalid, rfl, by decide, hfresh, fun hdecides => ?_, ?_⟩
  · exact absurd (hdecides.fresh.mp hfresh) (by decide)
  · have hex : v.examine some "GET" "http://h/" "p" = answer.map fun _ => (sampleKey, _) :=
      Verifier.examine_eq_checkClaims target_sampleRequest isBlank_sampleRequest rfl rfl
    unfold Verifier.verify
    rw [hex, hfresh]
    rfl

/-! ## Verifications without an answer -/

section Answers

variable {σ : Type} {v : Verifier σ} {D : Web.Url.DomainReader} {r : Request} {s : σ}

/-- A proof that has passed the first gate gets an answer. -/
theorem Verifier.verify_ne_overflow {passed : Key × Claims}
    (h : v.examine D r.method r.url r.proof = .ok passed) :
    (v.verify D r.method r.url r.proof r.expectation s).1 ≠ .error .overflow := by
  unfold verify
  rw [h]
  dsimp only
  split
  next => exact nofun
  next =>
    intro hanswer
    obtain ⟨cause, -, hcause⟩ := ofResult_eq_error.mp hanswer
    cases hcause

/-- There is no answer exactly if nothing else is wrong before the age of the proof matters,
and the proof is from so far ahead that its age has no opposite. -/
theorem Verifier.verify_eq_overflow_iff (hvalid : v.settings.validate = .ok ()) :
    (v.verify D r.method r.url r.proof r.expectation s).1 = .error .overflow ↔
      Check.stale.PassesBefore v D r s ∧ ∃ now key claims, v.clock.now = .ok now ∧
        v.parser.Vouches r.proof key claims ∧ 2 ^ 63 ≤ claims.iat.toInt - now.toInt := by
  constructor
  · intro hanswer
    by_cases hrange : Check.AgeOutOfRange v D r s
    · obtain ⟨hb, now, key, claims, hnow, hv, hfar | ⟨hwidest, hold⟩⟩ := hrange
      · exact ⟨hb, now, key, claims, hnow, hv, hfar⟩
      · -- the other end of the range: an age that is too great is taken for fresh
        have hwindow := Settings.toInt_window hvalid
        have hfresh : checkFresh v.settings.window now claims.iat = .ok () := by
          rw [checkFresh_eq (by omega), if_neg (by omega), if_neg (by omega)]
        have hex := Check.examine_of_passesBefore hb hnow hv
        rw [hfresh] at hex
        exact absurd hanswer (Verifier.verify_ne_overflow hex)
    · rcases Check.verify_cases hvalid hrange with ⟨-, key, claims, -, hv⟩ | ⟨e, hv, -⟩
      · cases hv.symm.trans hanswer
      · cases hv.symm.trans hanswer
  · rintro ⟨hb, now, key, claims, hnow, hv, hfar⟩
    exact Check.verify_eq_overflow hvalid hb hnow hv hfar

/-- A verifier whose clock never reads a time before the epoch always gives an answer. -/
theorem Verifier.answer_of_reading (hvalid : v.settings.validate = .ok ())
    (hpos : ∀ now, v.clock.now = .ok now → 0 ≤ now.toInt) :
    (v.verify D r.method r.url r.proof r.expectation s).1 ≠ .error .overflow := by
  rw [ne_eq, verify_eq_overflow_iff hvalid]
  rintro ⟨-, now, key, claims, hnow, -, hfar⟩
  have hreading := hpos now hnow
  have hiat := claims.iat.toInt_lt
  omega

/-- **No answer.** For every verifier with valid settings, over any store, and every
request: there is no answer exactly if the proof passes the checks before its age matters
and comes from 2^63 seconds ahead or more. No arithmetic on words is left out of this, since
the check of an age is the one in words. -/
theorem no_answer_iff (v : Verifier σ) (hvalid : v.settings.validate = .ok ())
    (D : Web.Url.DomainReader) (r : Request) (s : σ) :
    ((v.verify D r.method r.url r.proof r.expectation s).1 = .error .overflow ↔
        Check.stale.PassesBefore v D r s ∧ ∃ now key claims, v.clock.now = .ok now ∧
          v.parser.Vouches r.proof key claims ∧ 2 ^ 63 ≤ claims.iat.toInt - now.toInt) ∧
      ∀ now iat, checkFresh v.settings.window now iat =
        checkFreshInWords v.settings.window now iat :=
  ⟨Verifier.verify_eq_overflow_iff hvalid, checkFresh_eq_inWords v.settings⟩

end Answers

/-- The proof from furthest ahead gets no answer a second before the epoch, and one at the
epoch. -/
theorem furthest_proof_around_epoch :
    let before := sampleVerifier (.seconds (-1)) Int64.maxValue
    let after := sampleVerifier (.seconds 0) Int64.maxValue
    before.settings.validate = .ok () ∧ after.settings.validate = .ok () ∧
      (before.verify some "GET" "http://h/" "p" {} .empty).1 = .error .overflow ∧
      (after.verify some "GET" "http://h/" "p" {} .empty).1 ≠ .error .overflow := by
  intro before after
  have hbefore : before.settings.validate = .ok () := validate_sampleVerifier ..
  have hafter : after.settings.validate = .ok () := validate_sampleVerifier ..
  refine ⟨hbefore, hafter, ?_, fun hanswer => ?_⟩
  · exact (no_answer_iff before hbefore some sampleRequest .empty).1.mpr
      ⟨sampleVerifier_passesBefore _ _ _, -1, sampleKey, _, rfl,
        sampleVerifier_vouches .., by decide⟩
  · obtain ⟨-, now, key, claims, hnow, -, hfar⟩ :=
      (no_answer_iff after hafter some sampleRequest .empty).1.mp hanswer
    have hiat := claims.iat.toInt_lt
    cases hnow
    exact absurd hfar (by rw [show (0 : Int64).toInt = 0 from rfl]; omega)

/-- At the least reading a clock can have, a proof made at the epoch, which is early, is
neither accepted nor refused. -/
theorem proof_at_least_reading :
    let v := sampleVerifier (.seconds Int64.minValue) 0
    let answer := (v.verify some "GET" "http://h/" "p" {} .empty).1
    v.settings.validate = .ok () ∧
      (v.settings.windowSecs.toNat : Int) < (0 : Int64).toInt - Int64.minValue.toInt ∧
      answer = .error .overflow ∧
      ¬ ((∃ confirmation, answer = .ok confirmation) ∨ ∃ e,
        answer = .error (.refused e)) := by
  intro v answer
  have hvalid : v.settings.validate = .ok () := validate_sampleVerifier ..
  have hanswer : answer = .error .overflow :=
    Check.verify_eq_overflow
      (r := sampleRequest) hvalid (sampleVerifier_passesBefore _ _ _) rfl
      (sampleVerifier_vouches ..) (by decide)
  refine ⟨hvalid, by decide, hanswer, ?_⟩
  rw [hanswer]
  rintro (⟨_, h⟩ | ⟨_, h⟩) <;> cases h

end Possession.Proof
