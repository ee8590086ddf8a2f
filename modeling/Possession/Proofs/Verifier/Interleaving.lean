import Mathlib.Logic.Function.Iterate
import Possession.Proofs.Verifier.AtMostOnce

/-!
# Calls that run at the same time

A history lets one request after the other come to a store. In a server they overlap: a call
waits for the lock of the store, and until it gets it other calls and clean-ups go on. What
a call has read from a clock is old by then. Here a call is a thread, and a schedule says
whose turn it is and when:

* a call first examines its proof, for which it reads the clock;
* in the mode of one insertion it then reads the instant from which the key is to live, and
  takes the lock, and under the lock looks and writes;
* in the mode of two calls it looks under the lock, lets go of it, reads the instant, and
  takes the lock again to write;
* a clean-up reads the instant, and then takes the lock and removes what had expired at that
  instant.

`run_alone` says that a call that is not interrupted does what `Verifier.verify` does.

In the mode of one insertion a thread writes only over a key that was not live at the
instant it has read, so old readings err on the side of refusal. `Group.Sound` is the
invariant, and `turn_sound` keeps it:

> a key that a thread has written is held until the end of its lifetime, by the time that
> has really passed, and of two threads that wrote one key the later took the lock after
> that end.

Together with `fresh_near` this gives `duplicate_gets_past_once`. The delay between a call's
reading of the clock and its turn under the lock comes off the room that the lifetime leaves
beyond two windows.
-/

namespace Possession

namespace Replay.Memory

/-- What an insertion does under the lock, for a caller that has read the instant `now`
before. -/
def insertLocked (m : Memory) (now : Nat) (key : String) (expires : Nat) : Bool × Memory :=
  if m.isLive now key then (false, m) else (true, m.write key expires)

end Replay.Memory

namespace Proof

/-! ## Threads -/

/-- A proof that has passed the first gate: whose clock was read, and when, and what the
proof says. -/
structure Examined (ι : Type) where
  who : ι
  read : Nat
  key : Key
  claims : Claims
deriving DecidableEq

/-- How far a thread has come. -/
inductive Progress (ι : Type) where
  | waiting
  | refused (f : Failure)
  | examined (x : Examined ι)
  /-- The key was not live when the thread looked. -/
  | looked (x : Examined ι)
  /-- The thread has read the instant from which the key is to live. -/
  | timed (x : Examined ι) (now expires : Nat)
  /-- The thread has written the key, from the instant `now` on, with the lock taken at
  `locked`. -/
  | past (x : Examined ι) (now locked : Nat)
  /-- A clean-up that has read the instant. -/
  | cleaning (now : Nat)
  | cleaned
deriving DecidableEq

/-- The slot that a thread is about to take. -/
def Examined.slot {ι : Type} (x : Examined ι) : String := Replay.key x.claims.jti

/-- The answer of a thread that has come to its end. -/
def Progress.answer? {ι : Type} (e : Expectation) :
    Progress ι → Option (Checked Confirmation)
  | .refused f => some (.error f)
  | .past x _ _ => some (Checked.ofResult (confirm e x.key x.claims))
  | _ => none

/-- What comes of the first gate, for which the clock was read at an instant. -/
def Progress.ofGate {ι : Type} (who : ι) (read : Nat) : Checked (Key × Claims) → Progress ι
  | .error f => .refused f
  | .ok (key, claims) => .examined ⟨who, read, key, claims⟩

/-- What comes of reading the instant from which a key is to live. -/
def Progress.ofExpiry {ι : Type} (x : Examined ι) (now : Nat) : Result Nat → Progress ι
  | .error e => .refused (.refused (Verifier.storeFailure e))
  | .ok expires => .timed x now expires

/-- The store, and how far each thread has come. -/
structure Scene (κ ι : Type) where
  progress : κ → Progress ι
  store : Replay.Memory

/-- A thread has got past the replay gate. -/
def Scene.GotPast {κ ι : Type} (s : Scene κ ι) (i : κ) : Prop :=
  ∃ x now locked, s.progress i = .past x now locked

/-- Every thread that has got past the gate took the lock at most `delay` after it had read
the clock. -/
def Scene.Prompt {κ ι : Type} (s : Scene κ ι) (delay : Nat) : Prop :=
  ∀ i x now locked, s.progress i = .past x now locked → locked ≤ x.read + delay

/-- Whose turn it is, and when. -/
structure Turn (κ : Type) where
  instant : Nat
  thread : κ

/-- Time does not go back. -/
def InTurn {κ : Type} (turns : List (Turn κ)) : Prop :=
  turns.Pairwise fun a b => a.instant ≤ b.instant

/-- All threads at their beginning. -/
def Scene.start (κ ι : Type) (m : Replay.Memory) : Scene κ ι := ⟨fun _ => .waiting, m⟩

namespace Group

variable {ι κ : Type}

section Definitions

variable (g : Group ι)

/-- The first gate, for which the clock is read. -/
def arrive (who : ι) (r : Request) (t : Nat) : Progress ι :=
  .ofGate who t ((g.verifier who t).examine g.domains r.method r.url r.proof)

/-- Reads the instant from which a key is to live. -/
def readTime (x : Examined ι) (t : Nat) : Progress ι :=
  .ofExpiry x t (Replay.Memory.expiry t (g.member x.who).settings.ttl)

/-- Goes to the store: looks under the lock, or reads the instant for an insertion. -/
def approach (x : Examined ι) (t : Nat) (m : Replay.Memory) : Progress ι :=
  match (g.member x.who).settings.mode with
  | .insertIfAbsent => g.readTime x t
  | .lookThenRegister =>
    if m.isLive t x.slot then .refused (.refused (.replay x.slot)) else .looked x

/-- Writes under the lock. An insertion looks first, at the instant that was read before. -/
def takeSlot (x : Examined ι) (now expires t : Nat) (m : Replay.Memory) :
    Progress ι × Replay.Memory :=
  match (g.member x.who).settings.mode with
  | .lookThenRegister => (.past x now t, m.write x.slot expires)
  | .insertIfAbsent =>
    match m.insertLocked now x.slot expires with
    | (true, m) => (.past x now t, m)
    | (false, m) => (.refused (.refused (.replay x.slot)), m)

/-- What a thread does on its turn, and to the store. -/
def advance (task : Action ι) (t : Nat) (p : Progress ι) (m : Replay.Memory) :
    Progress ι × Replay.Memory :=
  match p with
  | .waiting =>
    match task with
    | .clean => (.cleaning t, m)
    | .verify who r => (g.arrive who r t, m)
  | .examined x => (g.approach x t m, m)
  | .looked x => (g.readTime x t, m)
  | .timed x now expires => g.takeSlot x now expires t m
  | .cleaning now => (.cleaned, m.clean now)
  | .refused _ | .past .. | .cleaned => (p, m)

/-- A task is a request with a proof that carries claims. -/
def Brings (task : Action ι) (claims : Claims) : Prop :=
  ∃ who r, task = .verify who r ∧ (g.member who).parser.Carries r.proof claims

variable [DecidableEq κ] (task : κ → Action ι)

/-- One turn of one thread. -/
def turn (e : Turn κ) (s : Scene κ ι) : Scene κ ι :=
  let (p, m) := g.advance (task e.thread) e.instant (s.progress e.thread) s.store
  ⟨Function.update s.progress e.thread p, m⟩

/-- All turns of a schedule. -/
def run (turns : List (Turn κ)) (s : Scene κ ι) : Scene κ ι :=
  turns.foldl (fun s e => g.turn task e s) s

end Definitions

variable {g : Group ι} [DecidableEq κ] {task : κ → Action ι}

theorem run_cons (e : Turn κ) (turns : List (Turn κ)) (s : Scene κ ι) :
    g.run task (e :: turns) s = g.run task turns (g.turn task e s) := rfl

theorem turn_store (e : Turn κ) (s : Scene κ ι) :
    (g.turn task e s).store =
      (g.advance (task e.thread) e.instant (s.progress e.thread) s.store).2 := rfl

@[simp] theorem turn_progress_self (e : Turn κ) (s : Scene κ ι) :
    (g.turn task e s).progress e.thread =
      (g.advance (task e.thread) e.instant (s.progress e.thread) s.store).1 :=
  Function.update_self ..

theorem turn_progress_ne {e : Turn κ} {i : κ} (h : i ≠ e.thread) (s : Scene κ ι) :
    (g.turn task e s).progress i = s.progress i :=
  Function.update_of_ne h ..

/-! ## A thread that is not interrupted -/

omit [DecidableEq κ] in
@[simp] theorem advance_looked (a : Action ι) (x : Examined ι) (t : Nat)
    (m : Replay.Memory) : g.advance a t (.looked x) m = (g.readTime x t, m) := rfl

omit [DecidableEq κ] in
@[simp] theorem advance_timed (a : Action ι) (x : Examined ι) (now expires t : Nat)
    (m : Replay.Memory) :
    g.advance a t (.timed x now expires) m = g.takeSlot x now expires t m := rfl

variable (g task) in
/-- Turns that a thread has at one instant, one after the other. -/
theorem run_replicate (i : κ) (t n : Nat) (s : Scene κ ι) :
    ((g.run task (List.replicate n ⟨t, i⟩) s).progress i,
        (g.run task (List.replicate n ⟨t, i⟩) s).store) =
      (fun p => g.advance (task i) t p.1 p.2)^[n] (s.progress i, s.store) := by
  induction n generalizing s with
  | zero => rfl
  | succ n ih =>
    rw [List.replicate_succ, run_cons, ih, turn_store]
    show _^[n] ((g.turn task ⟨t, i⟩ s).progress (⟨t, i⟩ : Turn κ).thread, _) = _
    rw [turn_progress_self]
    rfl

omit [DecidableEq κ] in
/-- What the turns at the store make of a proof that has passed the first gate, if nothing
comes between them: the slot is used up, or it is not. -/
theorem approach_alone (a : Action ι) (x : Examined ι) (t : Nat) (m : Replay.Memory) :
    (fun p => g.advance a t p.1 p.2)^[2] (g.approach x t m, m) =
      match (g.verifier x.who t).consume x.claims.jti m with
      | (.ok (), m) => (.past x t t, m)
      | (.error e, m) => (.refused (.refused e), m) := by
  have huse := Verifier.useKey_eq (v := g.verifier x.who t) (t := t) rfl x.slot m
  unfold Verifier.consume
  rw [show Replay.key x.claims.jti = x.slot from rfl]
  dsimp only
  rw [huse, show (g.verifier x.who t).settings = (g.member x.who).settings from rfl]
  simp only [Function.iterate_succ_apply, Function.iterate_zero, id]
  unfold approach
  cases hmode : (g.member x.who).settings.mode with
  | insertIfAbsent =>
    simp only [reduceCtorEq, false_and, if_false]
    unfold readTime
    cases Replay.Memory.expiry t (g.member x.who).settings.ttl with
    | error e => rfl
    | ok expires =>
      simp only [Progress.ofExpiry, advance_timed, takeSlot, hmode,
        Replay.Memory.insertLocked]
      cases m.isLive t x.slot <;> rfl
  | lookThenRegister =>
    cases m.isLive t x.slot with
    | true => rfl
    | false =>
      simp only [Bool.false_eq_true, and_false, if_false, advance_looked, readTime]
      cases Replay.Memory.expiry t (g.member x.who).settings.ttl with
      | error e => rfl
      | ok expires => simp only [Progress.ofExpiry, advance_timed, takeSlot, hmode]

omit [DecidableEq κ] in
/-- What four turns of a request make of it, if nothing comes between them. -/
theorem advance_alone (who : ι) (r : Request) (t : Nat) (m : Replay.Memory) :
    let last := (fun p => g.advance (.verify who r) t p.1 p.2)^[4] (.waiting, m)
    last.2 = (g.answer who t r m).2 ∧
      last.1.answer? r.expectation = some (g.answer who t r m).1 := by
  intro last
  have hlast : last = (fun p => g.advance (.verify who r) t p.1 p.2)^[3]
      (.ofGate who t ((g.verifier who t).examine g.domains r.method r.url r.proof), m) :=
        rfl
  rw [hlast]
  unfold answer Verifier.verify
  generalize (g.verifier who t).examine g.domains r.method r.url r.proof = gate
  cases gate with
  | error f => exact ⟨rfl, rfl⟩
  | ok passed =>
    obtain ⟨key, claims⟩ := passed
    have hstore : (fun p => g.advance (.verify who r) t p.1 p.2)^[3]
        (.ofGate who t (.ok (key, claims)), m) = _ :=
      approach_alone (.verify who r) ⟨who, t, key, claims⟩ t m
    rw [hstore]
    dsimp only
    rcases (g.verifier who t).consume claims.jti m with ⟨⟨e⟩ | ⟨⟨⟩⟩, m'⟩
    · exact ⟨rfl, rfl⟩
    · exact ⟨rfl, rfl⟩

/-- A thread of which all turns come at once does what a verification does, to the store
too. -/
theorem run_alone {i : κ} {who : ι} {r : Request} (htask : task i = .verify who r) (t : Nat)
    {s : Scene κ ι} (hstart : s.progress i = .waiting) :
    (g.run task (List.replicate 4 ⟨t, i⟩) s).store = (g.answer who t r s.store).2 ∧
      ((g.run task (List.replicate 4 ⟨t, i⟩) s).progress i).answer? r.expectation =
        some (g.answer who t r s.store).1 := by
  have hrun := run_replicate g task i t 4 s
  rw [htask, hstart] at hrun
  obtain ⟨hprogress, hstore⟩ := Prod.mk.inj hrun
  rw [hprogress, hstore]
  exact advance_alone who r t s.store

/-! ## What a turn changes -/

variable (g) in
/-- What a thread with a task has found out when its proof has passed the first gate. -/
def Passed (a : Action ι) (x : Examined ι) : Prop :=
  (∃ r, a = .verify x.who r ∧ (g.member x.who).parser.Carries r.proof x.claims) ∧
    checkFresh (g.member x.who).settings.window
      (Int64.ofNat ((g.epoch + x.read) / Duration.perSecond)) x.claims.iat = .ok ()

variable (g) in
/-- The instants that a thread remembers lie behind it, in the order of its steps, and it
has what it remembers of its proof from the first gate. -/
def Timely (a : Action ι) (T : Nat) : Progress ι → Prop
  | .waiting | .refused _ | .cleaned => True
  | .examined x | .looked x => g.Passed a x ∧ x.read ≤ T
  | .timed x now expires => g.Passed a x ∧ x.read ≤ now ∧ now ≤ T ∧
      expires = now + g.lifetime x.who ∧ expires < Replay.Memory.clockEnd
  | .past x now locked => g.Passed a x ∧ x.read ≤ now ∧ now ≤ locked ∧ locked ≤ T ∧
      now + g.lifetime x.who < Replay.Memory.clockEnd
  | .cleaning now => now ≤ T

theorem Timely.mono {a : Action ι} {T t : Nat} (ht : T ≤ t) {p : Progress ι}
    (h : g.Timely a T p) : g.Timely a t p := by
  cases p with
  | waiting | refused | cleaned => trivial
  | examined x => exact ⟨h.1, Nat.le_trans h.2 ht⟩
  | looked x => exact ⟨h.1, Nat.le_trans h.2 ht⟩
  | timed x now expires =>
    obtain ⟨hpassed, hread, hnow, hexpires⟩ := h
    exact ⟨hpassed, hread, Nat.le_trans hnow ht, hexpires⟩
  | past x now locked =>
    obtain ⟨hpassed, hread, hnow, hlocked, hend⟩ := h
    exact ⟨hpassed, hread, hnow, Nat.le_trans hlocked ht, hend⟩
  | cleaning now => exact Nat.le_trans h ht

theorem arrive_timely (who : ι) (r : Request) (t : Nat) :
    g.Timely (.verify who r) t (g.arrive who r t) := by
  unfold arrive
  cases hex : (g.verifier who t).examine g.domains r.method r.url r.proof with
  | error f => trivial
  | ok passed =>
    obtain ⟨key, claims⟩ := passed
    have hcarries := Verifier.carries_of_examine hex
    have hfresh := Verifier.fresh_of_examine (v := g.verifier who t) rfl hex
    exact ⟨⟨⟨r, rfl, hcarries⟩, hfresh⟩, Nat.le_refl t⟩

theorem readTime_timely {a : Action ι} {x : Examined ι} {t : Nat} (hx : g.Passed a x)
    (ht : x.read ≤ t) : g.Timely a t (g.readTime x t) := by
  unfold readTime
  cases hexpiry : Replay.Memory.expiry t (g.member x.who).settings.ttl with
  | error e => trivial
  | ok expires =>
    obtain ⟨hexpires, hend⟩ := Replay.Memory.expiry_eq_ok_iff.mp hexpiry
    exact ⟨hx, ht, Nat.le_refl t, hexpires, hend⟩

theorem approach_timely {a : Action ι} {x : Examined ι} {t : Nat} (hx : g.Passed a x)
    (ht : x.read ≤ t) (m : Replay.Memory) : g.Timely a t (g.approach x t m) := by
  unfold approach
  split
  next => exact readTime_timely hx ht
  next =>
    split
    · trivial
    · exact ⟨hx, ht⟩

theorem takeSlot_timely {a : Action ι} {x : Examined ι} {now expires t : Nat}
    (h : g.Timely a t (.timed x now expires)) (m : Replay.Memory) :
    g.Timely a t (g.takeSlot x now expires t m).1 := by
  obtain ⟨hpassed, hread, hnow, rfl, hend⟩ := h
  have hpast : g.Timely a t (.past x now t) := ⟨hpassed, hread, hnow, Nat.le_refl t, hend⟩
  unfold takeSlot
  split
  next => exact hpast
  next =>
    split
    · exact hpast
    · trivial

theorem advance_timely {a : Action ι} {T t : Nat} {p : Progress ι} (h : g.Timely a T p)
    (ht : T ≤ t) (m : Replay.Memory) : g.Timely a t (g.advance a t p m).1 := by
  have h := h.mono ht
  cases p with
  | waiting =>
    cases a with
    | clean => exact Nat.le_refl t
    | verify who r => exact arrive_timely who r t
  | examined x => exact approach_timely h.1 h.2 m
  | looked x => exact readTime_timely h.1 h.2
  | timed x now expires => exact takeSlot_timely h m
  | cleaning now => trivial
  | refused | past | cleaned => exact h

/-- A thread is past the gate only after it has taken a slot. -/
theorem arrive_ne_past (who : ι) (r : Request) (t : Nat) (x : Examined ι)
    (now locked : Nat) : g.arrive who r t ≠ .past x now locked := by
  unfold arrive
  cases (g.verifier who t).examine g.domains r.method r.url r.proof with
  | error f => nofun
  | ok passed => nofun

theorem readTime_ne_past (x : Examined ι) (t : Nat) (y : Examined ι) (now locked : Nat) :
    g.readTime x t ≠ .past y now locked := by
  unfold readTime
  cases Replay.Memory.expiry t (g.member x.who).settings.ttl with
  | error e => nofun
  | ok expires => nofun

/-- A turn leaves the store alone, or it writes a key that was not live at the instant read
before, or it ends a clean-up, if calls insert. -/
theorem advance_cases (hmode : ∀ who, (g.member who).settings.mode = .insertIfAbsent)
    (a : Action ι) (t : Nat) (p : Progress ι) (m : Replay.Memory) :
    ((g.advance a t p m).2 = m ∧ ∀ x now locked,
        (g.advance a t p m).1 = .past x now locked → p = .past x now locked) ∨
      (∃ x now expires, p = .timed x now expires ∧ m.isLive now x.slot = false ∧
        g.advance a t p m = (.past x now t, m.write x.slot expires)) ∨
      ∃ now, p = .cleaning now ∧ g.advance a t p m = (.cleaned, m.clean now) := by
  cases p with
  | waiting =>
    cases a with
    | clean => exact Or.inl ⟨rfl, nofun⟩
    | verify who r =>
      exact Or.inl ⟨rfl,
        fun x now locked h => absurd h (arrive_ne_past who r t x now locked)⟩
  | examined x =>
    refine Or.inl ⟨rfl, fun y now locked h => ?_⟩
    have hread : (g.advance a t (.examined x) m).1 = g.readTime x t := by
      show g.approach x t m = _
      unfold approach
      rw [hmode]
    exact absurd (hread.symm.trans h) (readTime_ne_past x t y now locked)
  | looked x =>
    exact Or.inl ⟨rfl, fun y now locked h => absurd h (readTime_ne_past x t y now locked)⟩
  | timed x now expires =>
    have hlock : g.advance a t (.timed x now expires) m =
        if m.isLive now x.slot then (.refused (.refused (.replay x.slot)), m)
        else (.past x now t, m.write x.slot expires) := by
      show g.takeSlot x now expires t m = _
      unfold takeSlot Replay.Memory.insertLocked
      rw [hmode]
      cases m.isLive now x.slot <;> rfl
    rw [hlock]
    cases hlive : m.isLive now x.slot with
    | true => exact Or.inl ⟨rfl, nofun⟩
    | false => exact Or.inr (Or.inl ⟨x, now, expires, rfl, hlive, rfl⟩)
  | cleaning now => exact Or.inr (Or.inr ⟨now, rfl, rfl⟩)
  | refused | past | cleaned => exact Or.inl ⟨rfl, fun _ _ _ h => h⟩

/-- A key that expires at an instant is untouched by any turn before it, whatever the thread
has read. -/
theorem advance_held (hmode : ∀ who, (g.member who).settings.mode = .insertIfAbsent)
    {a : Action ι} {T t : Nat} {p : Progress ι} {m : Replay.Memory} {key : String}
    {expires : Nat} (hp : g.Timely a T p) (hT : T ≤ t)
    (hheld : m.expiry? key = some expires) (ht : t < expires) :
    (g.advance a t p m).2.expiry? key = some expires := by
  rcases advance_cases hmode a t p m with ⟨hstore, -⟩ | ⟨x, now, e, rfl, hdead, hadv⟩ |
    ⟨now, rfl, hadv⟩
  · rw [hstore]
    exact hheld
  · obtain ⟨-, -, hnow, -, -⟩ := hp
    have hne : key ≠ x.slot := by
      intro h
      subst h
      rw [Replay.Memory.isLive_iff.mpr ⟨expires, hheld, by omega⟩] at hdead
      cases hdead
    rw [hadv, Replay.Memory.expiry?_write_ne e hne]
    exact hheld
  · have hnow : now ≤ T := hp
    rw [hadv]
    exact Replay.Memory.expiry?_clean.mpr ⟨hheld, by omega⟩

/-! ## What a schedule keeps -/

variable (g task) in
/-- What holds between any two turns, when it is `T`. -/
structure Sound (T : Nat) (s : Scene κ ι) : Prop where
  timely : ∀ i, g.Timely (task i) T (s.progress i)
  held : ∀ i x now locked, s.progress i = .past x now locked → T < now + g.lifetime x.who →
    s.store.expiry? x.slot = some (now + g.lifetime x.who)
  spaced : ∀ i j x now locked y now' locked', s.progress i = .past x now locked →
    s.progress j = .past y now' locked' → i ≠ j → x.slot = y.slot →
      now + g.lifetime x.who ≤ locked' ∨ now' + g.lifetime y.who ≤ locked

omit [DecidableEq κ] in
theorem sound_start (m : Replay.Memory) : g.Sound task 0 (.start κ ι m) where
  timely _ := trivial
  held _ _ _ _ h := by cases h
  spaced _ _ _ _ _ _ _ _ h := by cases h

/-- A thread that is past the gate after a turn was so before, or it is the one whose turn
it was, and then it has found its key not live at the instant it had read. -/
theorem turn_past (hmode : ∀ who, (g.member who).settings.mode = .insertIfAbsent) {T : Nat}
    {e : Turn κ} {s : Scene κ ι} (hs : g.Sound task T s) {i : κ} {x : Examined ι}
    {now locked : Nat} (h : (g.turn task e s).progress i = .past x now locked) :
    s.progress i = .past x now locked ∨
      i = e.thread ∧ locked = e.instant ∧ now ≤ T ∧ s.store.isLive now x.slot = false ∧
        (g.turn task e s).store = s.store.write x.slot (now + g.lifetime x.who) := by
  by_cases hi : i = e.thread
  · subst hi
    rw [turn_progress_self] at h
    rcases advance_cases hmode (task e.thread) e.instant (s.progress e.thread) s.store with
      ⟨-, hold⟩ | ⟨y, now', expires, hp, hdead, hadv⟩ | ⟨now', -, hadv⟩
    · exact Or.inl (hold _ _ _ h)
    · have htimely := hs.timely e.thread
      rw [hp] at htimely
      obtain ⟨-, -, hnow, rfl, -⟩ := htimely
      rw [hadv] at h
      cases h
      exact Or.inr ⟨rfl, rfl, hnow, hdead, by rw [turn_store, hadv]⟩
    · rw [hadv] at h
      cases h
  · rw [turn_progress_ne hi] at h
    exact Or.inl h

omit [DecidableEq κ] in
/-- A thread that takes the lock does not find a key live that another has written, so the
lifetime of the other's key is over. -/
theorem Sound.over {T : Nat} {s : Scene κ ι} (hs : g.Sound task T s) {j : κ}
    {x : Examined ι} {now locked now' t : Nat} (hj : s.progress j = .past x now locked)
    (ht : T ≤ t) (hnow : now' ≤ T) (hdead : s.store.isLive now' x.slot = false) :
    now + g.lifetime x.who ≤ t := by
  by_contra hlt
  have hheld := hs.held j x now locked hj (by omega)
  rw [Replay.Memory.isLive_iff.mpr ⟨_, hheld, by omega⟩] at hdead
  cases hdead

theorem turn_sound (hmode : ∀ who, (g.member who).settings.mode = .insertIfAbsent) {T : Nat}
    {e : Turn κ} {s : Scene κ ι} (hs : g.Sound task T s) (ht : T ≤ e.instant) :
    g.Sound task e.instant (g.turn task e s) where
  timely i := by
    by_cases hi : i = e.thread
    · subst hi
      rw [turn_progress_self]
      exact advance_timely (hs.timely e.thread) ht s.store
    · rw [turn_progress_ne hi]
      exact (hs.timely i).mono ht
  held i x now locked hi hlt := by
    rcases turn_past hmode hs hi with hold | ⟨-, -, -, -, hstore⟩
    · exact advance_held hmode (hs.timely e.thread) ht
        (hs.held i x now locked hold (by omega)) hlt
    · rw [hstore]
      exact Replay.Memory.expiry?_write_self ..
  spaced i j x now locked y now' locked' hi hj hne hslot := by
    rcases turn_past hmode hs hi with hi | ⟨rfl, rfl, hinow, hidead, -⟩
    · rcases turn_past hmode hs hj with hj | ⟨rfl, rfl, hjnow, hjdead, -⟩
      · exact hs.spaced i j x now locked y now' locked' hi hj hne hslot
      · -- the second has just taken the lock
        rw [← hslot] at hjdead
        exact Or.inl (hs.over hi ht hjnow hjdead)
    · rcases turn_past hmode hs hj with hj | ⟨rfl, -⟩
      · rw [hslot] at hidead
        exact Or.inr (hs.over hj ht hinow hidead)
      · exact absurd rfl hne

theorem run_sound (hmode : ∀ who, (g.member who).settings.mode = .insertIfAbsent)
    {turns : List (Turn κ)} (hturns : InTurn turns) {T : Nat}
    (hT : ∀ e ∈ turns, T ≤ e.instant) {s : Scene κ ι} (hs : g.Sound task T s) :
    ∃ T', g.Sound task T' (g.run task turns s) := by
  induction turns generalizing T s with
  | nil => exact ⟨T, hs⟩
  | cons e turns ih =>
    obtain ⟨hfirst, hturns⟩ := List.pairwise_cons.mp hturns
    exact ih hturns hfirst (turn_sound hmode hs (hT e (List.mem_cons_self ..)))

omit [DecidableEq κ] in
/-- What a thread has found out about its proof is what the proof carries. -/
theorem Passed.eq_of_brings {a : Action ι} {x : Examined ι} {claims : Claims}
    (h : g.Passed a x) (hb : g.Brings a claims) : x.claims = claims := by
  obtain ⟨⟨r, rfl, hx⟩, -⟩ := h
  obtain ⟨who, r', ha, hc⟩ := hb
  cases ha
  exact hx.unique hc

omit [DecidableEq κ] in
/-- Of two threads that got past the gate with proofs of one identifier and one second,
neither took the lock a lifetime after the other had read the instant, if they were
prompt. -/
theorem Sound.near {T delay : Nat} {s : Scene κ ι} (hs : g.Sound task T s)
    (hvalid : ∀ i, (g.member i).settings.validate = .ok ()) (hprompt : s.Prompt delay)
    (hroom : ∀ a b, ((g.member a).settings.windowSecs.toNat +
      (g.member b).settings.windowSecs.toNat + 1) * Duration.perSecond + delay ≤
        g.lifetime a)
    {i j : κ} {x y : Examined ι} {now locked now' locked' : Nat}
    (hi : s.progress i = .past x now locked) (hj : s.progress j = .past y now' locked')
    (hiat : x.claims.iat = y.claims.iat) : locked' < now + g.lifetime x.who := by
  have hx := hs.timely i
  rw [hi] at hx
  obtain ⟨⟨-, hxfresh⟩, hxread, -, -, hxend⟩ := hx
  have hy := hs.timely j
  rw [hj] at hy
  obtain ⟨⟨-, hyfresh⟩, hyread, -, -, hyend⟩ := hy
  rw [hiat] at hxfresh
  rw [lifetime_eq] at hxend hyend
  have hnear :=
    fresh_near (hvalid x.who) (hvalid y.who) (by omega) (by omega) hxfresh hyfresh
  have hdelay := hprompt j y now' locked' hj
  have hlong := hroom x.who y.who
  omega

end Group

/-- **Duplicates at the same time.** Whatever the schedule of the calls and clean-ups on a
verifier that inserts, at most one of the calls with proofs of one identifier and one second
gets past the replay gate, if the lifetime of a key has room for two windows, a second, and
the delay of a call. -/
theorem duplicate_gets_past_once {κ : Type} [DecidableEq κ] (g : Group Unit)
    (hvalid : (g.member ()).settings.validate = .ok ())
    (hmode : (g.member ()).settings.mode = .insertIfAbsent) (task : κ → Action Unit)
    (turns : List (Turn κ)) (hturns : InTurn turns) (m : Replay.Memory) (delay : Nat)
    (hprompt : (g.run task turns (.start κ Unit m)).Prompt delay)
    (hroom : (2 * (g.member ()).settings.windowSecs.toNat + 1) *
      Duration.perSecond + delay ≤ (g.member ()).settings.ttl.nanos)
    {i j : κ} {ci cj : Claims} (hci : g.Brings (task i) ci) (hcj : g.Brings (task j) cj)
    (hjti : ci.jti = cj.jti) (hiat : ci.iat = cj.iat)
    (hi : (g.run task turns (.start κ Unit m)).GotPast i)
    (hj : (g.run task turns (.start κ Unit m)).GotPast j) : i = j := by
  have hstart : g.Sound task 0 (.start κ Unit m) := Group.sound_start m
  obtain ⟨T, hs⟩ :=
    Group.run_sound (fun _ => hmode) hturns (fun _ _ => Nat.zero_le _) hstart
  obtain ⟨x, now, locked, hi⟩ := hi
  obtain ⟨y, now', locked', hj⟩ := hj
  have hx := hs.timely i
  have hy := hs.timely j
  rw [hi] at hx
  rw [hj] at hy
  obtain rfl := hx.1.eq_of_brings hci
  obtain rfl := hy.1.eq_of_brings hcj
  have hroom' : ∀ a b, ((g.member a).settings.windowSecs.toNat +
      (g.member b).settings.windowSecs.toNat + 1) * Duration.perSecond + delay ≤
        g.lifetime a := by
    intro a b
    rw [Nat.two_mul] at hroom
    exact hroom
  by_contra hne
  have hslot : x.slot = y.slot := congrArg Replay.key hjti
  have hlate := hs.near (fun _ => hvalid) hprompt hroom' hi hj hiat
  have hlate' := hs.near (fun _ => hvalid) hprompt hroom' hj hi hiat.symm
  rcases hs.spaced i j x now locked y now' locked' hi hj hne hslot with h | h
  · omega
  · omega

/-- Two calls with the sample proof, and a clean-up. -/
def twoCallsAndClean : Option Bool → Action Unit
  | some _ => .verify () sampleRequest
  | none => .clean

/-- The room for a delay of 29 s is used up, and a clean-up begins before the key is written
and ends after it. The second call has read the instant before the first, and it comes to
the lock last. -/
theorem duplicate_with_old_reading :
    let g : Group Unit := .sample (fun _ => { mode := .insertIfAbsent }) 15
    let turns : List (Turn (Option Bool)) := [⟨0, some false⟩, ⟨500000000, some true⟩,
      ⟨1000000000, some true⟩, ⟨2000000000, some false⟩, ⟨25000000000, none⟩,
      ⟨29000000000, some false⟩, ⟨29100000000, none⟩, ⟨29500000000, some true⟩]
    let s := g.run twoCallsAndClean turns (.start _ Unit .empty)
    InTurn turns ∧ s.Prompt 29000000000 ∧ s.GotPast (some false) ∧
      ∀ i j, s.GotPast (some i) → s.GotPast (some j) → some i = some j := by
  intro g turns s
  have hfirst : s.progress (some false) =
      .past ⟨(), 0, sampleKey, sampleClaims 15⟩ 2000000000 29000000000 := by decide +kernel
  have hsecond :
    s.progress (some true) = .refused (.refused (.replay (Replay.key "j"))) := by
    decide +kernel
  have hclean : s.progress none = .cleaned := by decide +kernel
  have hprompt : s.Prompt 29000000000 := by
    intro i x now locked h
    match i with
    | some false =>
      cases hfirst.symm.trans h
      decide
    | some true => cases hsecond.symm.trans h
    | none => cases hclean.symm.trans h
  have hturns : InTurn turns := by simp [turns, InTurn]
  have hbrings : ∀ i, g.Brings (twoCallsAndClean (some i)) (sampleClaims 15) :=
    fun i => ⟨(), sampleRequest, rfl, _, _, rfl, rfl, rfl⟩
  refine ⟨hturns, hprompt, ⟨_, _, _, hfirst⟩, fun i j hi hj => ?_⟩
  exact duplicate_gets_past_once g ((Settings.validate_eq_ok_iff _).mpr (by decide)) rfl
    twoCallsAndClean turns hturns .empty 29000000000 hprompt (by decide) (hbrings i)
      (hbrings j)
    rfl rfl hi hj

/-- In the mode of two calls both look before either writes, and both get past the gate. -/
example :
    let g : Group Unit := .sample (fun _ => {}) 15
    let turns : List (Turn (Option Bool)) :=
      [0, 1, 2, 3].flatMap fun _ => [⟨0, some false⟩, ⟨0, some true⟩]
    let s := g.run twoCallsAndClean turns (.start _ Unit .empty)
    [false, true].map (fun i => ((s.progress (some i)).answer? {}).any (·.toBool)) =
      [true, true] := by
  decide +kernel

/-- The room is needed to the last nanosecond: with a lifetime of two windows and a second
both calls get past the gate if the second of them takes the lock a nanosecond after it has
read the clock. -/
example :
    let g : Group Unit := .sample (fun _ => { ttlSecs := 31, mode := .insertIfAbsent }) 15
    let turns : List (Turn (Option Bool)) :=
      [⟨0, some false⟩, ⟨0, some false⟩, ⟨0, some false⟩,
        ⟨30999999999, some true⟩, ⟨31000000000, some true⟩, ⟨31000000000, some true⟩]
    let s := g.run twoCallsAndClean turns (.start _ Unit .empty)
    [false, true].map (fun i => ((s.progress (some i)).answer? {}).any (·.toBool)) =
      [true, true] := by
  decide +kernel

end Proof

end Possession
