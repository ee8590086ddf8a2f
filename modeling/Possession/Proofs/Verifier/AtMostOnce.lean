import Possession.Proofs.Verifier.Freshness
import Possession.Proofs.Verifier.History

/-!
# A proof is accepted once

A replay key is remembered for a while only, so that a proof is accepted at most once needs
two things: its key outlives it in the store, and no other proof of the same identifier
wakes it up. `History.log_spaced` is the second. This file adds the first.

A proof made in one second is fresh for a window before and a window after that second, so
two visits at which it is fresh are less than two windows and a second apart:

> `log_near`: two visits that take the slot of proofs of one second lie within the two
> windows, and the last second, of each other.

The clock shows whole seconds of a machine word, and it wraps around. What rules the wrap
out is the store: a slot is taken only if the clock can show the end of the lifetime, and
the windows of valid settings are narrower than their lifetimes.

For one verifier, `validate` asks for a lifetime of more than two windows, and this is what
it is for: `accepted_once`. For verifiers that share a store it is not enough. The key of a
proof is written with the lifetime of the verifier that saw it first, which may be short,
and another verifier with a wide window may find the proof fresh after that.
`Settings.Outlives` is the condition on two verifiers, and `shared_store_accepts_once_iff`
says that it is the exact one.
-/

namespace Possession.Proof

namespace Settings

/-- A key written under the first settings outlives every proof that is fresh under the
second, or the clock cannot show the ends of both lifetimes, one after the other. -/
def Outlives (a b : Settings) : Prop :=
  a.windowSecs.toNat + b.windowSecs.toNat < a.ttlSecs.toNat ∨
    2 ^ 63 ≤ a.ttlSecs.toNat + b.ttlSecs.toNat

instance (a b : Settings) : Decidable (a.Outlives b) := by
  unfold Outlives
  infer_instance

/-- What settings are validated for: their own keys outlive their own proofs. -/
theorem outlives_self {s : Settings} (h : s.validate = .ok ()) : s.Outlives s := by
  obtain ⟨-, hlt, -⟩ := s.validate_eq_ok_iff.mp h
  exact Or.inl (by omega)

end Settings

namespace Group

variable {ι : Type} {g : Group ι}

/-- The lifetime of a key, from the settings. -/
theorem lifetime_eq (g : Group ι) (who : ι) :
    g.lifetime who = (g.member who).settings.ttlSecs.toNat * Duration.perSecond := rfl

/-- A proof is fresh at readings within a window of the second in which it was made. The
reading is a machine word, so it is so many words away from the seconds that have passed. -/
theorem reading_near {s : Settings} {epoch t : Nat} {iat : Int64}
    (hvalid : s.validate = .ok ())
    (hend : t + s.ttlSecs.toNat * Duration.perSecond < Replay.Memory.clockEnd)
    (hfresh : checkFresh s.window (Int64.ofNat ((epoch + t) / Duration.perSecond)) iat =
      .ok ()) :
    ∃ k : Int, ((epoch + t) / Duration.perSecond : Nat) - 2 ^ 64 * k - iat.toInt
          ≤ s.windowSecs.toNat ∧
        iat.toInt - (((epoch + t) / Duration.perSecond : Nat) - 2 ^ 64 * k)
          ≤ s.windowSecs.toNat := by
  have hwindow := Settings.toInt_window hvalid
  obtain ⟨-, hlt, -⟩ := s.validate_eq_ok_iff.mp hvalid
  unfold Replay.Memory.clockEnd Duration.perSecond at hend
  have hnarrow : s.window.toInt < 2 ^ 63 - 1 := by omega
  rw [checkFresh_eq_ok_iff (by omega) hnarrow, Int64.toInt_ofNat', hwindow,
    Int.bmod_eq_self_sub_mul_bdiv] at hfresh
  exact ⟨_, hfresh.1, hfresh.2⟩

/-- Two instants at which proofs made in one second are fresh lie within the two windows,
and the last second, of each other, if the clock can still show the ends of lifetimes that
begin then. -/
theorem fresh_near {a b : Settings} {epoch s t : Nat} {iat : Int64}
    (ha : a.validate = .ok ()) (hb : b.validate = .ok ())
    (hsend : s + a.ttlSecs.toNat * Duration.perSecond < Replay.Memory.clockEnd)
    (htend : t + b.ttlSecs.toNat * Duration.perSecond < Replay.Memory.clockEnd)
    (hs : checkFresh a.window (Int64.ofNat ((epoch + s) / Duration.perSecond)) iat = .ok ())
    (ht : checkFresh b.window (Int64.ofNat ((epoch + t) / Duration.perSecond)) iat =
      .ok ()) :
    t < s + (a.windowSecs.toNat + b.windowSecs.toNat + 1) * Duration.perSecond := by
  obtain ⟨i, hs₁, hs₂⟩ := reading_near ha hsend hs
  obtain ⟨j, ht₁, ht₂⟩ := reading_near hb htend ht
  obtain ⟨-, hawide, -⟩ := a.validate_eq_ok_iff.mp ha
  obtain ⟨-, hbwide, -⟩ := b.validate_eq_ok_iff.mp hb
  unfold Replay.Memory.clockEnd Duration.perSecond at hsend htend
  unfold Duration.perSecond at hs₁ hs₂ ht₁ ht₂ ⊢
  -- Between the two instants less than a word's worth of seconds goes by, so both readings
  -- are the same number of words away from the seconds that have passed.
  have hword : i = j := by omega
  omega

/-- Two visits that take the slot of proofs made in one second lie within the two windows,
and the last second, of each other. -/
theorem log_near (hvalid : ∀ i, (g.member i).settings.validate = .ok ())
    {steps : List (Step ι)}
    {m : Replay.Memory} {a b : Visit ι} {ca cb : Claims} (ha : a ∈ g.log steps m)
    (hb : b ∈ g.log steps m) (hca : g.Bears a ca) (hcb : g.Bears b cb)
    (hiat : ca.iat = cb.iat) (hat : a.TookSlot) (hbt : b.TookSlot) :
    b.instant < a.instant + ((g.member a.who).settings.windowSecs.toNat +
      (g.member b.who).settings.windowSecs.toNat + 1) * Duration.perSecond := by
  obtain ⟨hafresh, haend⟩ := log_tookSlot ha hca hat
  obtain ⟨hbfresh, hbend⟩ := log_tookSlot hb hcb hbt
  rw [hiat] at hafresh
  exact fresh_near (hvalid a.who) (hvalid b.who) haend hbend hafresh hbfresh

/-! ## Which groups accept a proof once -/

variable (g) in
/-- No two visits are accepted with proofs of one identifier and one second. -/
def AcceptsOnce : Prop :=
  ∀ (steps : List (Step ι)) (m : Replay.Memory), InOrder steps →
    (g.log steps m).Pairwise fun a b => ∀ ca cb, g.Bears a ca → g.Bears b cb →
    ca.jti = cb.jti →
      ca.iat = cb.iat → ¬ (a.Accepted ∧ b.Accepted)

/-- A group accepts a proof once if the keys of each of its verifiers outlive the proofs
that are fresh at each. -/
theorem acceptsOnce_of_outlives (hvalid : ∀ i, (g.member i).settings.validate = .ok ())
    (hout : ∀ i j, (g.member i).settings.Outlives (g.member j).settings) :
    g.AcceptsOnce := by
  intro steps m hs
  refine (log_spaced (g := g) hs m).imp_of_mem ?_
  intro a b ha hb hspaced ca cb hca hcb hjti hiat hboth
  have hat := hboth.1.tookSlot
  have hbt := hboth.2.tookSlot
  have hapart := hspaced ca cb hca hcb hjti hat hbt
  have hnear := log_near hvalid ha hb hca hcb hiat hat hbt
  obtain ⟨-, hbend⟩ := log_tookSlot hb hcb hbt
  rw [lifetime_eq] at hapart hbend
  unfold Replay.Memory.clockEnd Duration.perSecond at hbend
  unfold Duration.perSecond at hapart hnear
  rcases hout a.who b.who with h | h
  · omega
  · omega

end Group

/-! ## A sample -/

/-- The claims of a proof for `GET http://h/`. -/
def sampleClaims (iat : Int64) : Claims := ⟨"j", "GET", "http://h/", iat, none⟩

/-- The key of a sample proof. -/
def sampleKey : Key := .okp "Ed25519" "k"

/-- The request that a sample proof is for. -/
def sampleRequest : Request := ⟨"GET", "http://h/", "p", {}⟩

theorem target_sampleRequest :
    Target.ofRequest some sampleRequest.method sampleRequest.url =
      .ok ⟨"GET", "http://h/"⟩ :=
  Result.toOption_eq_some.mp (by decide +kernel)

theorem isBlank_sampleRequest : Text.isBlank sampleRequest.proof = false :=
  List.all_eq_false.mpr ⟨'p', by decide, by decide⟩

/-- Verifiers that read every text as one proof, made at a second. -/
def Group.sample {ι : Type} (settings : ι → Settings) (iat : Int64) : Group ι where
  domains := some
  epoch := 0
  member i :=
    ⟨fun _ => .ok ⟨some proofType, some sampleKey, fun _ => .ok (sampleClaims iat)⟩,
      settings i⟩

namespace Group

variable {ι : Type}

theorem sample_bears (settings : ι → Settings) (iat : Int64) (v : Visit ι) :
    (Group.sample settings iat).Bears v (sampleClaims iat) := ⟨_, _, rfl, rfl, rfl⟩

/-- A sample proof is accepted whenever it is fresh and its key is not live. -/
theorem sample_answer {settings : ι → Settings} {iat : Int64} {who : ι} {t : Nat}
    {m : Replay.Memory}
    (hfresh : checkFresh (settings who).window (Int64.ofNat ((0 + t) / Duration.perSecond))
      iat = .ok ())
    (hlive : m.isLive t (Replay.key "j") = false)
    (hend : t + (settings who).ttl.nanos < Replay.Memory.clockEnd) :
    (Group.sample settings iat).answer who t sampleRequest m =
      (.ok ⟨sampleKey.thumbprint⟩,
        m.write (Replay.key "j") (t + (settings who).ttl.nanos)) := by
  have hex :
    ((Group.sample settings iat).verifier who t).examine some "GET" "http://h/" "p" =
      .ok (sampleKey, sampleClaims iat) :=
    Verifier.examine_eq_ok_iff.mpr
      ⟨_, _, _, target_sampleRequest, isBlank_sampleRequest, rfl, rfl, rfl, rfl, rfl, rfl,
        rfl, hfresh⟩
  exact Verifier.verify_eq (t := t) rfl hex hlive hend {}

/-- A second that lies at most a window ahead of a proof, or behind it, is one at which it
is fresh. -/
theorem fresh_at {s : Settings} {now iat : Nat} (hvalid : s.validate = .ok ())
    (hnow : now < 2 ^ 63) (hiat : iat < 2 ^ 63) (hnarrow : s.windowSecs.toNat < 2 ^ 63 - 1)
    (hstale : now ≤ iat + s.windowSecs.toNat) (hearly : iat ≤ now + s.windowSecs.toNat) :
    checkFresh s.window (Int64.ofNat now) (Int64.ofNat iat) = .ok () := by
  have hwindow := Settings.toInt_window hvalid
  rw [checkFresh_eq_ok_iff (by omega) (by omega), hwindow, Int64.toInt_ofNat_of_lt hnow,
    Int64.toInt_ofNat_of_lt hiat]
  omega

end Group

/-- **A lone verifier.** Once a visit has taken the slot of an identifier, no visit with a
proof of that identifier is accepted before the lifetime of the key is over; and two visits
with proofs of one identifier and one second are never both accepted. -/
theorem accepted_once (g : Group Unit) (hvalid : (g.member ()).settings.validate = .ok ())
    (steps : List (Step Unit)) (hs : InOrder steps) (m : Replay.Memory) :
    ((g.log steps m).Pairwise fun a b => ∀ ca cb, g.Bears a ca → g.Bears b cb →
      ca.jti = cb.jti →
        a.TookSlot → b.instant < a.instant + (g.member ()).settings.ttl.nanos →
        ¬ b.Accepted) ∧
      (g.log steps m).Pairwise fun a b => ∀ ca cb, g.Bears a ca → g.Bears b cb →
        ca.jti = cb.jti → ca.iat = cb.iat → ¬ (a.Accepted ∧ b.Accepted) := by
  constructor
  · refine (Group.log_spaced hs m).imp ?_
    intro a b hspaced ca cb hca hcb hjti hat hsoon hb
    have hapart := hspaced ca cb hca hcb hjti hat hb.tookSlot
    exact absurd hsoon (Nat.not_lt.mpr hapart)
  · exact Group.acceptsOnce_of_outlives (fun _ => hvalid)
      (fun _ _ => Settings.outlives_self hvalid) steps m hs

/-- A proof from the edge of the window is accepted, refused as a replay in the last
nanosecond of the second in which it leaves the window, with a clean-up before that, and
stale when its key has expired. -/
theorem accepted_once_from_edge :
    let g : Group Unit := Group.sample (fun _ => {}) 15
    let steps : List (Step Unit) := [⟨0, .verify () sampleRequest⟩, ⟨30000000000, .clean⟩,
      ⟨30999999999, .verify () sampleRequest⟩, ⟨60000000000, .verify () sampleRequest⟩]
    (g.log steps .empty).map (·.answer.toBool) = [true, false, false] ∧
      ((g.log steps .empty).Pairwise fun a b => ∀ ca cb, g.Bears a ca → g.Bears b cb →
          ca.jti = cb.jti → a.TookSlot → b.instant < a.instant + 60000000000 →
          ¬ b.Accepted) ∧
      (g.log steps .empty).Pairwise fun a b => ∀ ca cb, g.Bears a ca → g.Bears b cb →
        ca.jti = cb.jti → ca.iat = cb.iat → ¬ (a.Accepted ∧ b.Accepted) := by
  intro g steps
  have httl : (g.member ()).settings.ttl.nanos = 60000000000 := by decide +kernel
  have honce := accepted_once g ((Settings.validate_eq_ok_iff _).mpr (by decide)) steps
    (by simp [steps, InOrder]) .empty
  rw [httl] at honce
  exact ⟨by decide +kernel, honce⟩

/-! ## Two verifiers and one proof -/

namespace Group

variable {ι : Type}

/-- Two verifiers, of which the second still takes a proof when the key that the first has
written for it has expired, accept one proof both. -/
theorem sample_accepts_twice {settings : ι → Settings}
    (hvalid : ∀ i, (settings i).validate = .ok ())
    {i j : ι} (h : ¬ (settings i).Outlives (settings j)) :
    ¬ (Group.sample settings (Int64.ofNat (settings i).windowSecs.toNat)).AcceptsOnce := by
  unfold Settings.Outlives at h
  obtain ⟨hshort, hclock⟩ := not_or.mp h
  obtain ⟨-, hi, -⟩ := (settings i).validate_eq_ok_iff.mp (hvalid i)
  obtain ⟨-, hj, -⟩ := (settings j).validate_eq_ok_iff.mp (hvalid j)
  -- The proof is made as far in the future as the first verifier takes it. When its key
  -- expires, it is not older than the second takes it.
  obtain ⟨expires, hdef⟩ : ∃ e, e = 0 + (settings i).ttl.nanos := ⟨_, rfl⟩
  have hexpires : expires = (settings i).ttlSecs.toNat * Duration.perSecond :=
    hdef.trans (Nat.zero_add _)
  have hfresh₁ : checkFresh (settings i).window (Int64.ofNat ((0 + 0) / Duration.perSecond))
      (Int64.ofNat (settings i).windowSecs.toNat) = .ok () := by
    rw [Nat.add_zero, Nat.zero_div]
    exact fresh_at (hvalid i) (by decide) (by omega) (by omega) (by omega) (by omega)
  have hfresh₂ :
    checkFresh (settings j).window (Int64.ofNat ((0 + expires) / Duration.perSecond))
      (Int64.ofNat (settings i).windowSecs.toNat) = .ok () := by
    rw [Nat.zero_add, hexpires, Nat.mul_div_cancel _ (by decide)]
    exact fresh_at (hvalid j) (by omega) (by omega) (by omega) (by omega) (by omega)
  have hfirst := sample_answer (m := .empty) hfresh₁ rfl (by
    rw [Settings.nanos_ttl]
    unfold Replay.Memory.clockEnd Duration.perSecond
    omega)
  rw [← hdef] at hfirst
  have hdead : (Replay.Memory.empty.write (Replay.key "j") expires).isLive expires
      (Replay.key "j") = false := by
    rw [Replay.Memory.isLive_write_self]
    exact decide_eq_false (Nat.lt_irrefl _)
  have hsecond := sample_answer hfresh₂ hdead (by
    rw [Settings.nanos_ttl, hexpires]
    unfold Replay.Memory.clockEnd Duration.perSecond
    omega)
  intro honce
  have hpair :=
    honce [⟨0, .verify i sampleRequest⟩, ⟨expires, .verify j sampleRequest⟩] .empty
      (by simp [InOrder])
  simp only [log_verify, log_nil, hfirst, hsecond, List.pairwise_cons, List.mem_singleton,
    forall_eq] at hpair
  exact hpair.1 _ _ (sample_bears ..) (sample_bears ..) rfl rfl ⟨⟨_, rfl⟩, ⟨_, rfl⟩⟩

end Group

/-- **Verifiers that share a store.** They accept a proof once, whatever they read and in
whatever order, exactly if the keys of each outlive the proofs that are fresh at each. -/
theorem shared_store_accepts_once_iff {ι : Type} (settings : ι → Settings)
    (hvalid : ∀ i, (settings i).validate = .ok ()) :
    (∀ g : Group ι, (∀ i, (g.member i).settings = settings i) → g.AcceptsOnce) ↔
      ∀ i j, (settings i).Outlives (settings j) := by
  constructor
  · intro honce i j
    by_contra hnot
    exact Group.sample_accepts_twice hvalid hnot (honce _ fun _ => rfl)
  · intro hout g hg
    refine Group.acceptsOnce_of_outlives ?_ ?_
    · intro i
      rw [hg i]
      exact hvalid i
    · intro i j
      rw [hg i, hg j]
      exact hout i j

/-- Settings with a window of a second and with one of a quarter of an hour. -/
def narrowAndWide (wide : Bool) : Settings :=
  if wide then { windowSecs := 900, ttlSecs := 1801 } else { windowSecs := 1, ttlSecs := 3 }

theorem validate_narrowAndWide (wide : Bool) : (narrowAndWide wide).validate = .ok () := by
  rw [Settings.validate_eq_ok_iff]
  cases wide <;> decide

/-- The narrow and the wide window do not share a store well, each valid for itself. -/
theorem narrow_and_wide_not_once :
    (∀ wide, (narrowAndWide wide).validate = .ok ()) ∧
      ¬ ∀ g : Group Bool, (∀ wide, (g.member wide).settings = narrowAndWide wide) →
        g.AcceptsOnce := by
  refine ⟨validate_narrowAndWide, fun honce => ?_⟩
  have hout := (shared_store_accepts_once_iff narrowAndWide validate_narrowAndWide).mp honce
    false true
  exact absurd hout (by decide)

/-- A proof is accepted where the window is narrow, and again where it is wide, in the
second in which the key that the first acceptance has written expires. -/
theorem narrow_and_wide_accept_twice :
    let g : Group Bool := Group.sample narrowAndWide 1
    let steps : List (Step Bool) :=
      [⟨0, .verify false sampleRequest⟩, ⟨3000000000, .verify true sampleRequest⟩]
    (∀ wide, (narrowAndWide wide).validate = .ok ()) ∧ InOrder steps ∧
      (∀ v ∈ g.log steps .empty, g.Bears v (sampleClaims 1)) ∧
      (g.log steps .empty).map (·.answer.toBool) = [true, true] := by
  intro g steps
  refine ⟨validate_narrowAndWide, by simp [steps, InOrder], ?_, by decide +kernel⟩
  intro v _
  exact Group.sample_bears narrowAndWide 1 v

end Possession.Proof
