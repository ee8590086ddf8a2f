import Possession.Proofs.Replay.Lifetimes
import Possession.Proofs.Verifier.Gates

/-!
# The two ways to use up a key

A key is used up by one insertion, or by a look and, if the key is not found, a
registration. With nobody in between, the two come to the same, with one exception. The
insertion asks whether the clock can show the end of the lifetime before it asks for the
key; a look at a live key is the end of it, whatever the lifetime.

> `insertion_agrees_iff`: an insertion answers and leaves the store as a look and a
> registration at the same instant do, unless the key is live and the clock cannot show the
> end of its new lifetime (`HeldBeyondClock`);
> `modes_agree_iff`: the modes of a verifier differ on the same keys only.

Where they differ neither writes anything. The insertion fails as a failure of the store and
the look finds the key, so that a verifier of one mode blames the store for a proof that a
verifier of the other mode calls a replay.
-/

namespace Possession

namespace Replay.Memory

/-- A live key is asked to be kept for a lifetime whose end the clock cannot show. -/
def HeldBeyondClock (m : Memory) (now : Nat) (key : String) (ttl : Duration) : Prop :=
  m.isLive now key = true ∧ clockEnd ≤ now + ttl.nanos

variable {m : Memory} {now : Nat} {key : String} {ttl : Duration}

/-- A look and a registration, as one equation. -/
theorem run_plain_insertIfAbsent (now : Nat) (key : String) (ttl : Duration) (m : Memory) :
    ((store now).plain.insertIfAbsent key ttl m).run =
      if m.isLive now key = true then (.ok false, m)
      else match expiry now ttl with
        | .error e => (.error e, m)
        | .ok expires => (.ok true, m.write key expires) := by
  show ((store now).lookThenRegister key ttl m).run = _
  unfold Store.lookThenRegister store
  dsimp only [Call.andThen]
  cases m.isLive now key with
  | true => rfl
  | false => cases expiry now ttl <;> rfl

/-- Where a live key is held beyond the clock, the insertion fails and the look finds it. -/
theorem HeldBeyondClock.run (h : m.HeldBeyondClock now key ttl) :
    ((store now).insertIfAbsent key ttl m).run =
        (.error (.storage ("Replay TTL " ++ ttl.text ++ " is out of range")), m) ∧
      ((store now).plain.insertIfAbsent key ttl m).run = (.ok false, m) := by
  obtain ⟨hlive, hend⟩ := h
  rw [run_insertIfAbsent, run_plain_insertIfAbsent, expiry_eq_error hend, if_pos hlive]
  exact ⟨rfl, rfl⟩

/-- Elsewhere the order of the two questions does not matter. -/
theorem run_insertIfAbsent_eq_plain (h : ¬ m.HeldBeyondClock now key ttl) :
    ((store now).insertIfAbsent key ttl m).run =
      ((store now).plain.insertIfAbsent key ttl m).run := by
  rw [run_insertIfAbsent, run_plain_insertIfAbsent]
  -- a live key is refused by both, a new one is all up to its lifetime
  cases hlive : m.isLive now key with
  | true =>
    have hend : now + ttl.nanos < clockEnd := Nat.not_le.mp fun hle => h ⟨hlive, hle⟩
    rw [expiry_eq_ok hend]
  | false => cases expiry now ttl <;> rfl

/-- **The two insertions.** For every store, key, lifetime and instant, an insertion gives
the answer and the entries of a look followed by a registration, exactly unless the key is
live and the clock cannot show the end of the lifetime. There the insertion fails, the look
finds the key, and the entries stay as they are. -/
theorem insertion_agrees_iff (m : Memory) (now : Nat) (key : String) (ttl : Duration) :
    (((store now).insertIfAbsent key ttl m).run =
      ((store now).plain.insertIfAbsent key ttl m).run ↔
        ¬ m.HeldBeyondClock now key ttl) ∧
      (m.HeldBeyondClock now key ttl → ((store now).insertIfAbsent key ttl m).run =
          (.error (.storage ("Replay TTL " ++ ttl.text ++ " is out of range")), m) ∧
        ((store now).plain.insertIfAbsent key ttl m).run = (.ok false, m)) := by
  refine ⟨⟨?_, run_insertIfAbsent_eq_plain⟩, HeldBeyondClock.run⟩
  intro hsame hheld
  rw [hheld.run.1, hheld.run.2] at hsame
  cases hsame

/-- A second before the end of the clock a live key cannot be inserted for a second, and is
found all the same; a new key cannot be inserted either way. -/
theorem insertion_at_end_of_clock :
    let late := clockEnd - Duration.perSecond
    let m := empty.write "k" (clockEnd - 1)
    m.HeldBeyondClock late "k" (.ofSeconds 1) ∧
      ((store late).plain.insertIfAbsent "k" (.ofSeconds 1) m).run = (.ok false, m) ∧
      ¬ m.HeldBeyondClock late "new" (.ofSeconds 1) ∧
      ((store late).insertIfAbsent "new" (.ofSeconds 1) m).run =
        ((store late).plain.insertIfAbsent "new" (.ofSeconds 1) m).run := by
  intro late m
  have hheld : m.HeldBeyondClock late "k" (.ofSeconds 1) := by
    refine ⟨?_, by decide⟩
    show (m.expiry? "k").any _ = true
    rw [expiry?_write_self]
    decide
  have hnew : ¬ m.HeldBeyondClock late "new" (.ofSeconds 1) := fun h => by cases h.1
  exact ⟨hheld, ((insertion_agrees_iff m late "k" (.ofSeconds 1)).2 hheld).2, hnew,
    (insertion_agrees_iff m late "new" (.ofSeconds 1)).1.mpr hnew⟩

/-- A key that is registered for a minute is to be inserted a second later, for the longest
lifetime there is: the insertion fails, and a look finds the key. -/
theorem live_key_for_longest_lifetime :
    let longest : Duration := ⟨18446744073709551615999999999⟩
    ∃ m, ((store 0).register "k" (.ofSeconds 60) empty).run = (.ok (), m) ∧
      (∃ reason, ((store 1000000000).insertIfAbsent "k" longest m).run.1 =
        .error (.storage reason)) ∧
      ((store 1000000000).plain.insertIfAbsent "k" longest m).run.1 = .ok false ∧
      ((store 1000000000).insertIfAbsent "k" longest m).run ≠
        ((store 1000000000).plain.insertIfAbsent "k" longest m).run :=
  ⟨_, rfl, ⟨_, rfl⟩, rfl, fun h => by cases h⟩

end Replay.Memory

namespace Proof.Verifier

variable {σ : Type} {v : Verifier σ}

/-- A verifier in another mode. -/
def inMode (v : Verifier σ) (mode : Replay.Mode) : Verifier σ :=
  { v with settings := { v.settings with mode } }

section Memory

variable {v : Verifier Replay.Memory} {t : Nat} {m : Replay.Memory} {jti : String}

theorem useKey_inMode (hstore : v.store = Replay.Memory.store t) (mode : Replay.Mode)
    (key : String) (m : Replay.Memory) :
    (v.inMode mode).useKey key m =
      if mode = .lookThenRegister ∧ m.isLive t key = true then (.ok false, m)
      else match Replay.Memory.expiry t v.settings.ttl with
        | .error e => (.error (storeFailure e), m)
        | .ok expires =>
          if m.isLive t key = true then (.ok false, m)
          else (.ok true, m.write key expires) := by
  have hmode : (v.inMode mode).settings.mode = mode := rfl
  have httl : (v.inMode mode).settings.ttl = v.settings.ttl := rfl
  have huse := useKey_eq (v := v.inMode mode) hstore key m
  rw [hmode, httl] at huse
  exact huse

/-- Unless it is held beyond the clock, a key is used up in one mode as in the other. -/
theorem consume_inMode (hstore : v.store = Replay.Memory.store t)
    (h : ¬ m.HeldBeyondClock t (Replay.key jti) v.settings.ttl) :
    (v.inMode .lookThenRegister).consume jti m =
      (v.inMode .insertIfAbsent).consume jti m := by
  unfold consume
  dsimp only
  rw [useKey_inMode hstore, useKey_inMode hstore]
  cases hlive : m.isLive t (Replay.key jti) with
  | true =>
    have hend : t + v.settings.ttl.nanos < Replay.Memory.clockEnd :=
      Nat.not_le.mp fun hle => h ⟨hlive, hle⟩
    simp [Replay.Memory.expiry_eq_ok hend]
  | false => simp

/-- A key that is held beyond the clock is a replay in one mode and a failure of the store
in the other. -/
theorem consume_inMode_of_held (hstore : v.store = Replay.Memory.store t)
    (h : m.HeldBeyondClock t (Replay.key jti) v.settings.ttl) :
    (v.inMode .lookThenRegister).consume jti m = (.error (.replay (Replay.key jti)), m) ∧
      ∃ reason, (v.inMode .insertIfAbsent).consume jti m =
        (.error (.storage reason), m) := by
  obtain ⟨hlive, hend⟩ := h
  unfold consume
  dsimp only
  rw [useKey_inMode hstore, useKey_inMode hstore, hlive, Replay.Memory.expiry_eq_error hend]
  simp [storeFailure]

/-- **The two modes.** Over a store in memory, the mode of a verifier matters neither for
its answer nor for the store, exactly unless the proof passes the first gate and its key is
live and held beyond the clock. -/
theorem modes_agree_iff (hstore : v.store = Replay.Memory.store t)
    (D : Web.Url.DomainReader) (method url proof : String) (x : Expectation)
    (m : Replay.Memory) : (v.inMode .lookThenRegister).verify D method url proof x m =
        (v.inMode .insertIfAbsent).verify D method url proof x m ↔
      ∀ key claims, v.examine D method url proof = .ok (key, claims) →
        ¬ m.HeldBeyondClock t (Replay.key claims.jti) v.settings.ttl := by
  -- the first gate does not look at the mode
  have hex :
    ∀ mode, (v.inMode mode).examine D method url proof = v.examine D method url proof :=
    fun _ => rfl
  unfold verify
  rw [hex, hex]
  cases v.examine D method url proof with
  | error f => exact iff_of_true rfl nofun
  | ok passed =>
    obtain ⟨key, claims⟩ := passed
    dsimp only
    constructor
    · rintro hsame _ _ ⟨⟩ hheld
      obtain ⟨hlook, reason, hinsert⟩ := consume_inMode_of_held hstore hheld
      rw [hlook, hinsert] at hsame
      cases hsame
    · intro h
      rw [consume_inMode hstore (h key claims rfl)]

end Memory

end Proof.Verifier

end Possession
