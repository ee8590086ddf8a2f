import Possession.Proof.Verifier
import Mathlib.Algebra.Group.Nat.Defs
import Mathlib.Algebra.Ring.Int.Defs

/-!
# When settings fit together, and when a proof is fresh

A verifier does its arithmetic on machine words that stop at the end of their range. This
file reads both of its comparisons as statements about integers:

> `validate_eq_ok_iff`: settings pass exactly if the window is not zero, a replay key is
> remembered for more than twice the window, and a timeout, if there is one, is not zero;
> `window_of_valid_settings`: so the window of settings that pass is a signed word, and so
> is its opposite;
> `checkFresh_eq`: what a proof's age is answered with, from the number of seconds that have
> passed;
> `checkFresh_eq_ok_iff`: a proof is fresh exactly if it was made within the window on
> either side of now.

The product that `validate` clamps is compared with a word, so the clamp is never seen. A
lifetime that is a word is less than twice 2^63, so that the clamp of the window is never
seen either. The difference that `checkFresh` clamps is seen at one window only, the widest
word there is: then nothing is wider than the window, and a proof of any age passes.
Settings with that window are valid, which is why `checkFresh_eq_ok_iff` asks for a narrower
one; they never get as far as using up a key, because no clock can show the end of their
lifetime.
-/

namespace Possession

/-- The nearest 64-bit integer, as an integer. -/
theorem Int64.toInt_clamp (n : Int) :
    (Int64.clamp n).toInt = max (-2 ^ 63) (min n (2 ^ 63 - 1)) := by
  unfold Int64.clamp
  rw [Int64.toInt_minValue, Int64.toInt_maxValue]
  split
  next h =>
    rw [Int64.toInt_minValue]
    omega
  next h =>
    split
    next h' =>
      rw [Int64.toInt_maxValue]
      omega
    next h' =>
      rw [Int64.toInt_ofInt_of_le (by omega) (by omega)]
      omega

/-- A number that is not negative has an opposite among the words. -/
theorem Int64.toInt_neg_of_nonneg {a : Int64} (h : 0 ≤ a.toInt) :
    (-a).toInt = -a.toInt := by
  have hmax := a.toInt_lt
  rw [Int64.toInt_neg, Int.bmod_eq_of_le (by omega) (by omega)]

namespace Proof

/-- A product that stops at the end of the range, as a number. -/
theorem UInt64.toNat_mulClamped (a b : UInt64) :
    (UInt64.mulClamped a b).toNat = min (a.toNat * b.toNat) (2 ^ 64 - 1) := by
  unfold UInt64.mulClamped Decimal.maxWord
  have hword : min (a.toNat * b.toNat) (2 ^ 64 - 1) < UInt64.size := by
    show _ < 2 ^ 64
    omega
  exact UInt64.toNat_ofNat_of_lt' hword

namespace Settings

/-- Settings pass exactly if the window is open and a key outlives it on both sides. -/
theorem validate_eq_ok_iff (s : Settings) :
    s.validate = .ok () ↔ 0 < s.windowSecs.toNat ∧
      2 * s.windowSecs.toNat < s.ttlSecs.toNat ∧ s.timeoutMillis ≠ some 0 := by
  have hzero : s.windowSecs = 0 ↔ s.windowSecs.toNat = 0 := UInt64.toNat_inj.symm
  have httl : s.ttlSecs ≤ UInt64.mulClamped s.windowSecs 2 ↔
      s.ttlSecs.toNat ≤ 2 * s.windowSecs.toNat := by
    rw [UInt64.le_iff_toNat_le, UInt64.toNat_mulClamped,
      show (2 : UInt64).toNat = 2 from rfl]
    have hmax := s.ttlSecs.toNat_lt
    omega
  unfold validate
  split
  next h => simp [hzero.mp h]
  next h =>
    have hpos : 0 < s.windowSecs.toNat := Nat.pos_of_ne_zero fun e => h (hzero.mpr e)
    split
    next hle =>
      have hnlt : ¬ 2 * s.windowSecs.toNat < s.ttlSecs.toNat := Nat.not_lt.mpr (httl.mp hle)
      simp [hnlt]
    next hle =>
      have hlt : 2 * s.windowSecs.toNat < s.ttlSecs.toNat :=
        Nat.not_le.mp fun e => hle (httl.mpr e)
      split
      next ht => simp [ht]
      next ht => simp [hpos, hlt, ht]

/-- The window of settings that pass is the number of seconds they say. -/
theorem toInt_window {s : Settings} (h : s.validate = .ok ()) :
    s.window.toInt = s.windowSecs.toNat := by
  obtain ⟨-, hlt, -⟩ := s.validate_eq_ok_iff.mp h
  have hmax := s.ttlSecs.toNat_lt
  unfold window
  rw [Int64.toInt_clamp]
  omega

/-- **Settings in the integers.** Settings pass exactly if, as integers, their window is
positive, a key is remembered for more than twice the window, and a timeout is positive. The
window of settings that pass is no more than a signed word holds, so that it is what they
say; and its opposite is a signed word too. -/
theorem window_of_valid_settings (s : Settings) :
    (s.validate = .ok () ↔ 0 < s.windowSecs.toNat ∧
      2 * s.windowSecs.toNat < s.ttlSecs.toNat ∧
        ∀ millis, s.timeoutMillis = some millis → 0 < millis.toNat) ∧
      (s.validate = .ok () → s.windowSecs.toNat ≤ Int64.maxValue.toInt ∧
        s.window.toInt = s.windowSecs.toNat ∧
        Int64.minValue.toInt ≤ -(s.windowSecs.toNat : Int) ∧
        (-s.window).toInt = -(s.windowSecs.toNat : Int)) := by
  have htimeout : s.timeoutMillis ≠ some 0 ↔
      ∀ millis, s.timeoutMillis = some millis → 0 < millis.toNat := by
    constructor
    · intro h millis hmillis
      refine Nat.pos_of_ne_zero fun hzero => h ?_
      rw [hmillis, UInt64.toNat_inj.mp (hzero.trans UInt64.toNat_zero.symm)]
    · intro h hzero
      exact Nat.lt_irrefl 0 (h 0 hzero)
  refine ⟨s.validate_eq_ok_iff.trans (and_congr_right' (and_congr_right' htimeout)),
    fun h => ?_⟩
  have hwindow := toInt_window h
  have hopposite : (-s.window).toInt = -(s.windowSecs.toNat : Int) := by
    rw [Int64.toInt_neg_of_nonneg (by omega), hwindow]
  have hmax := s.window.toInt_lt
  rw [Int64.toInt_maxValue, Int64.toInt_minValue]
  exact ⟨by omega, hwindow, by omega, hopposite⟩

/-- The widest window with which settings pass is the greatest signed word. -/
theorem widest_window_of_valid_settings :
    let s : Settings := ⟨9223372036854775807, 18446744073709551615, some 1, .insertIfAbsent⟩
    s.validate = .ok () ∧ s.window.toInt = 2 ^ 63 - 1 ∧
      (-s.window).toInt = -(2 ^ 63 - 1) := by
  intro s
  have hvalid : s.validate = .ok () :=
    s.window_of_valid_settings.1.mpr ⟨by decide, by decide, by simp [s]⟩
  obtain ⟨-, hwindow, -, hopposite⟩ := s.window_of_valid_settings.2 hvalid
  exact ⟨hvalid, hwindow, hopposite⟩

/-- How long settings remember a key, in nanoseconds. -/
theorem nanos_ttl (s : Settings) : s.ttl.nanos = s.ttlSecs.toNat * Duration.perSecond := rfl

end Settings

/-- The answer on a proof's age, from the number of seconds that have really passed. A
window that nothing is wider than lets every old proof through, and a proof from so far in
the future that its age has no negation gets no answer. -/
theorem checkFresh_eq {window : Int64} (hpos : 0 ≤ window.toInt) (now iat : Int64) :
    checkFresh window now iat =
      if window.toInt < now.toInt - iat.toInt ∧ window.toInt < 2 ^ 63 - 1 then
        .error (.refused (stale (Int64.subClamped now iat) window))
      else if window.toInt < iat.toInt - now.toInt then
        if 2 ^ 63 ≤ iat.toInt - now.toInt then .error .overflow
        else .error (.refused (early (-Int64.subClamped now iat) window))
      else .ok () := by
  have hage : (Int64.subClamped now iat).toInt =
      max (-2 ^ 63) (min (now.toInt - iat.toInt) (2 ^ 63 - 1)) := Int64.toInt_clamp _
  have hwindow := window.toInt_lt
  have hneg : (-window).toInt = -window.toInt := Int64.toInt_neg_of_nonneg hpos
  have hold : window < Int64.subClamped now iat ↔
      window.toInt < now.toInt - iat.toInt ∧ window.toInt < 2 ^ 63 - 1 := by
    rw [Int64.lt_iff_toInt_lt, hage]
    omega
  have hyoung : Int64.subClamped now iat < -window ↔
    window.toInt < iat.toInt - now.toInt := by
    rw [Int64.lt_iff_toInt_lt, hneg, hage]
    omega
  have hleast : Int64.subClamped now iat = Int64.minValue ↔
    2 ^ 63 ≤ iat.toInt - now.toInt := by
    rw [← Int64.toInt_inj, hage, Int64.toInt_minValue]
    omega
  unfold checkFresh
  simp only [hold, hyoung, hleast]

/-- A proof is fresh at every second within the window, the widest window included. -/
theorem checkFresh_of_near {window now iat : Int64}
    (h : (now.toInt - iat.toInt).natAbs ≤ window.toInt) :
    checkFresh window now iat = .ok () := by
  rw [checkFresh_eq (by omega), if_neg (by omega), if_neg (by omega)]

/-- A proof is fresh exactly if it was made within the window on either side of now, unless
nothing is wider than the window. -/
theorem checkFresh_eq_ok_iff {window now iat : Int64} (hpos : 0 ≤ window.toInt)
    (hmax : window.toInt < 2 ^ 63 - 1) :
    checkFresh window now iat = .ok () ↔
      now.toInt - iat.toInt ≤ window.toInt ∧ iat.toInt - now.toInt ≤ window.toInt := by
  rw [checkFresh_eq hpos]
  split
  next hold =>
    have hstale : ¬ now.toInt - iat.toInt ≤ window.toInt := Int.not_le.mpr hold.1
    simp [hstale]
  next hold =>
    split
    next hyoung =>
      have hearly : ¬ iat.toInt - now.toInt ≤ window.toInt := Int.not_le.mpr hyoung
      split <;> simp [hearly]
    next hyoung =>
      simp only [true_iff]
      omega

end Proof

end Possession
