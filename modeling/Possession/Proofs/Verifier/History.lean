import Possession.Proofs.Verifier.Gates

/-!
# Histories of a shared store

Verifiers that keep their used keys in one store, and read one clock, see each other's work
through the store alone. A `Group` is such a set of verifiers; a lone verifier is a group of
one. A history is a list of steps, each at an instant in nanoseconds: a request that comes
to one of the verifiers, or a clean-up of the store. `Group.log` carries a history out and
writes down the answers.

What holds a history together is one fact about the store:

> `step_held`: a key that expires at an instant is still there, with that instant, after any
> step before it.

Nothing in the step has to be known for this. A live key is never written, whoever asks for
it, and a clean-up removes no key before its time. Along a history in order this gives
`log_held`, that nobody takes the slot of a held key before it expires, and from the visit
that writes the key on

> `log_spaced`: two visits that take the slot of one identifier are a whole lifetime apart,
> counted from the first by the settings of the verifier that the first one came to.
-/

namespace Possession

/-- A clock that shows the whole seconds since the epoch, at an instant after it was
started. -/
def Clock.ofInstant (epoch instant : Nat) : Clock :=
  .seconds (Int64.ofNat ((epoch + instant) / Duration.perSecond))

namespace Proof

/-- What a verifier does not share with others. -/
structure Member where
  parser : Parser
  settings : Settings

/-- Verifiers that share a clock and a store in memory. -/
structure Group (ι : Type) where
  domains : Web.Url.DomainReader
  /-- The time at which the clock was started, in nanoseconds since the epoch. -/
  epoch : Nat
  member : ι → Member

/-- A request with a proof, as it reaches a verifier. -/
structure Request where
  method : String
  url : String
  proof : String
  expectation : Expectation := {}

/-- What happens to a group. -/
inductive Action (ι : Type) where
  | verify (who : ι) (request : Request)
  | clean

/-- Something that happens at an instant. -/
structure Step (ι : Type) where
  instant : Nat
  action : Action ι

/-- A verification that has taken place. -/
structure Visit (ι : Type) where
  instant : Nat
  who : ι
  request : Request
  answer : Checked Confirmation

variable {ι : Type}

/-- Instants never go back. -/
def InOrder (steps : List (Step ι)) : Prop :=
  steps.Pairwise fun a b => a.instant ≤ b.instant

namespace Visit

/-- The proof was accepted. -/
def Accepted (v : Visit ι) : Prop := ∃ confirmation, v.answer = .ok confirmation

/-- The slot of the proof was taken, by this visit. -/
def TookSlot (v : Visit ι) : Prop := TakesSlot v.answer

theorem Accepted.tookSlot {v : Visit ι} (h : v.Accepted) : v.TookSlot := Or.inl h

end Visit

namespace Group

variable (g : Group ι)

/-- A verifier of a group at an instant. -/
def verifier (who : ι) (instant : Nat) : Verifier Replay.Memory where
  parser := (g.member who).parser
  store := Replay.Memory.store instant
  clock := Clock.ofInstant g.epoch instant
  settings := (g.member who).settings

/-- The answer to a request, and the store after it. -/
def answer (who : ι) (instant : Nat) (r : Request) (m : Replay.Memory) :
    Checked Confirmation × Replay.Memory :=
  (g.verifier who instant).verify g.domains r.method r.url r.proof r.expectation m

/-- The store after a step. -/
def step (s : Step ι) (m : Replay.Memory) : Replay.Memory :=
  match s.action with
  | .verify who r => (g.answer who s.instant r m).2
  | .clean => m.clean s.instant

/-- The verifications of a history, with their answers. -/
def log : List (Step ι) → Replay.Memory → List (Visit ι)
  | [], _ => []
  | s :: steps, m =>
    match s.action with
    | .verify who r =>
      ⟨s.instant, who, r, (g.answer who s.instant r m).1⟩ :: log steps (g.step s m)
    | .clean => log steps (g.step s m)

@[simp] theorem log_nil (m : Replay.Memory) : g.log [] m = [] := rfl

@[simp] theorem log_verify (t : Nat) (who : ι) (r : Request) (steps : List (Step ι))
    (m : Replay.Memory) :
    g.log (⟨t, .verify who r⟩ :: steps) m =
      ⟨t, who, r, (g.answer who t r m).1⟩ :: g.log steps (g.answer who t r m).2 := rfl

/-- The claims that the proof of a visit carries. -/
def Bears (v : Visit ι) (claims : Claims) : Prop :=
  (g.member v.who).parser.Carries v.request.proof claims

/-- How long a verifier of a group remembers a key, in nanoseconds. -/
def lifetime (who : ι) : Nat := (g.member who).settings.ttl.nanos

variable {g}

/-! ## One step -/

theorem step_verify {s : Step ι} {who : ι} {r : Request} (h : s.action = .verify who r)
    (m : Replay.Memory) : g.step s m = (g.answer who s.instant r m).2 := by
  unfold step
  rw [h]

/-- A verification leaves the store alone, or writes a key that was not live. -/
theorem answer_store (who : ι) (t : Nat) (r : Request) (m : Replay.Memory) :
    (g.answer who t r m).2 = m ∨ ∃ key expires, m.isLive t key = false ∧
      (g.answer who t r m).2 = m.write key expires := by
  unfold answer
  have hstore : (g.verifier who t).store = Replay.Memory.store t := rfl
  rcases Verifier.verify_cases hstore g.domains r.method r.url r.proof r.expectation m with
    ⟨key, claims, -, hlive, -, hv⟩ | ⟨f, hv, -⟩
  · exact Or.inr ⟨_, _, hlive, by rw [hv]⟩
  · exact Or.inl (by rw [hv])

/-- A key that expires at an instant is untouched by any step before it. -/
theorem step_held {s : Step ι} {m : Replay.Memory} {key : String} {expires : Nat}
    (hheld : m.expiry? key = some expires) (ht : s.instant < expires) :
    (g.step s m).expiry? key = some expires := by
  have hlive : m.isLive s.instant key = true :=
    Replay.Memory.isLive_iff.mpr ⟨expires, hheld, ht⟩
  unfold step
  split
  next who r _ =>
    rcases answer_store (g := g) who s.instant r m with h | ⟨other, e, hdead, h⟩
    · rw [h]
      exact hheld
    · have hne : key ≠ other := by
        intro h
        subst h
        rw [hlive] at hdead
        cases hdead
      rw [h, Replay.Memory.expiry?_write_ne e hne]
      exact hheld
  next => exact Replay.Memory.expiry?_clean.mpr ⟨hheld, ht⟩

/-- What a visit that takes a slot finds, and what it leaves behind. -/
theorem answer_tookSlot {who : ι} {t : Nat} {r : Request} {m : Replay.Memory}
    {claims : Claims} (hc : (g.member who).parser.Carries r.proof claims)
    (h : TakesSlot (g.answer who t r m).1) : checkFresh (g.member who).settings.window
        (Int64.ofNat ((g.epoch + t) / Duration.perSecond)) claims.iat = .ok () ∧
      m.isLive t (Replay.key claims.jti) = false ∧
      t + g.lifetime who < Replay.Memory.clockEnd ∧
      (g.answer who t r m).2 = m.write (Replay.key claims.jti) (t + g.lifetime who) :=
  Verifier.takesSlot_cases (v := g.verifier who t) rfl rfl hc r.expectation h

/-! ## A whole history -/

/-- What every visit that takes a slot finds, every visit of a history does. -/
theorem log_tookSlot {steps : List (Step ι)} {m : Replay.Memory} {v : Visit ι}
    {claims : Claims} (hv : v ∈ g.log steps m) (hc : g.Bears v claims) (h : v.TookSlot) :
    checkFresh (g.member v.who).settings.window
        (Int64.ofNat ((g.epoch + v.instant) / Duration.perSecond)) claims.iat = .ok () ∧
      v.instant + g.lifetime v.who < Replay.Memory.clockEnd := by
  induction steps generalizing m with
  | nil => cases hv
  | cons s steps ih =>
    unfold log at hv
    split at hv
    next who r _ =>
      rcases List.mem_cons.mp hv with rfl | hv
      · obtain ⟨hfresh, -, hend, -⟩ := answer_tookSlot hc h
        exact ⟨hfresh, hend⟩
      · exact ih hv
    next => exact ih hv

/-- Visits take place at the instants of the steps. -/
theorem log_instant {steps : List (Step ι)} {m : Replay.Memory} {v : Visit ι}
    (hv : v ∈ g.log steps m) : ∃ s ∈ steps, s.instant = v.instant := by
  induction steps generalizing m with
  | nil => cases hv
  | cons s steps ih =>
    have later : ∀ {m'}, v ∈ g.log steps m' → ∃ s' ∈ s :: steps,
      s'.instant = v.instant := by
      intro m' h
      obtain ⟨s', hs', he⟩ := ih h
      exact ⟨s', List.mem_cons_of_mem _ hs', he⟩
    unfold log at hv
    split at hv
    next who r _ =>
      rcases List.mem_cons.mp hv with rfl | hv
      · exact ⟨s, List.mem_cons_self .., rfl⟩
      · exact later hv
    next => exact later hv

/-- While a key is held, nobody takes its slot. -/
theorem log_held {steps : List (Step ι)} {m : Replay.Memory} {v : Visit ι} {claims : Claims}
    {expires : Nat} (hs : InOrder steps)
    (hheld : m.expiry? (Replay.key claims.jti) = some expires) (hv : v ∈ g.log steps m)
    (hc : g.Bears v claims) (h : v.TookSlot) : expires ≤ v.instant := by
  induction steps generalizing m with
  | nil => cases hv
  | cons s steps ih =>
    obtain ⟨hfirst, hs⟩ := List.pairwise_cons.mp hs
    rcases Nat.lt_or_ge s.instant expires with ht | ht
    · -- The key is still held after this step, so the claim is about the steps that are
      -- left, unless the visit is this very step: then it finds the key live.
      have hheld' := step_held (g := g) hheld ht
      unfold log at hv
      split at hv
      next who r _ =>
        rcases List.mem_cons.mp hv with rfl | hv
        · obtain ⟨-, hdead, -⟩ := answer_tookSlot hc h
          rw [Replay.Memory.isLive_iff.mpr ⟨expires, hheld, ht⟩] at hdead
          cases hdead
        · exact ih hs hheld' hv
      next => exact ih hs hheld' hv
    · obtain ⟨s', hs', he⟩ := log_instant hv
      rcases List.mem_cons.mp hs' with rfl | hs'
      · omega
      · have := hfirst s' hs'
        omega

/-- Two visits that take the slot of one identifier are a lifetime apart. -/
theorem log_spaced {steps : List (Step ι)} (hs : InOrder steps) (m : Replay.Memory) :
    (g.log steps m).Pairwise fun a b => ∀ ca cb, g.Bears a ca → g.Bears b cb →
    ca.jti = cb.jti →
      a.TookSlot → b.TookSlot → a.instant + g.lifetime a.who ≤ b.instant := by
  induction steps generalizing m with
  | nil => exact List.Pairwise.nil
  | cons s steps ih =>
    obtain ⟨-, hs⟩ := List.pairwise_cons.mp hs
    unfold log
    split
    next who r hact =>
      refine List.pairwise_cons.mpr ⟨?_, ih hs _⟩
      intro b hb ca cb hca hcb hjti ha hbt
      have hstore : (g.answer who s.instant r m).2 =
          m.write (Replay.key ca.jti) (s.instant + g.lifetime who) :=
            (answer_tookSlot hca ha).2.2.2
      have hheld : (g.step s m).expiry? (Replay.key cb.jti) =
          some (s.instant + g.lifetime who) := by
        rw [step_verify hact, hstore, ← hjti]
        exact Replay.Memory.expiry?_write_self ..
      exact log_held hs hheld hb hcb hbt
    next => exact ih hs _

end Group

end Proof

end Possession
