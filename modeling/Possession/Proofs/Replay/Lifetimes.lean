import Possession.Proofs.Replay.Memory

/-!
# How long a key is kept

Whoever registers a key, or inserts it, is promised that the store in memory remembers it
for a span of time. This file says which promises are kept, over any further operations on
any keys:

> `kept_iff_not_shortened`: a key is remembered at every instant of its lifetime exactly if
> each later registration of the same key lasts at least as long.

One entry holds one instant of expiry, and a registration writes it whatever it finds. So a
key is kept past an operation for one of two reasons (`apply_kept`): the operation does not
write, because it looks, cleans up, or finds the key live; or it is a registration, and then
all depends on its own lifetime. If all lifetimes are equal, no registration ends before an
earlier one, and every promise is kept (`kept_of_one_span`).
-/

namespace Possession.Replay.Memory

/-- What is done to a store. -/
inductive Operation where
  | call (event : Event)
  | clean
deriving DecidableEq

/-- An operation at an instant. -/
structure Step where
  instant : Nat
  operation : Operation
deriving DecidableEq

/-- The store after a step. -/
def Step.apply (s : Step) (m : Memory) : Memory :=
  match s.operation with
  | .call (.contains key) => ((store s.instant).contains key m).run.2
  | .call (.register key ttl) => ((store s.instant).register key ttl m).run.2
  | .call (.insertIfAbsent key ttl) => ((store s.instant).insertIfAbsent key ttl m).run.2
  | .clean => m.clean s.instant

/-- The store after some steps, one after the other. -/
def after (steps : List Step) (m : Memory) : Memory := steps.foldl (fun m s => s.apply m) m

/-- Instants never go back, and do not begin before a given one. -/
def InOrder (start : Nat) (steps : List Step) : Prop :=
  steps.Pairwise (fun a b => a.instant ≤ b.instant) ∧ ∀ s ∈ steps, start ≤ s.instant

/-- A key is given a lifetime: a registration succeeds, or an insertion finds that the key
is new. -/
def Promises (now : Nat) (key : String) (ttl : Duration) (m m' : Memory) : Prop :=
  ((store now).register key ttl m).run = (.ok (), m') ∨
    ((store now).insertIfAbsent key ttl m).run = (.ok true, m')

/-- A key is remembered: it is found, and no insertion takes it for a new one. -/
def Remembers (m : Memory) (now : Nat) (key : String) : Prop :=
  ((store now).contains key m).run.1 = .ok true ∧
    ∀ ttl, ((store now).insertIfAbsent key ttl m).run.1 ≠ .ok true

/-- A key is remembered at every instant from a start to a deadline, whatever steps have
been taken by then. -/
def KeptThrough (m : Memory) (steps : List Step) (key : String) (start deadline : Nat) :
    Prop :=
  ∀ before t, before <+: steps → (∀ s ∈ before, s.instant ≤ t) → start ≤ t → t < deadline →
    (after before m).Remembers t key

/-- A step registers a key for a lifetime that is over before an instant. -/
def Step.Shortens (s : Step) (key : String) (deadline : Nat) : Prop :=
  match s.operation with
  | .call (.register other span) => other = key ∧ s.instant + span.nanos < deadline
  | _ => False

instance (key : String) (deadline : Nat) : (s : Step) → Decidable (s.Shortens key deadline)
  | ⟨t, .call (.register other span)⟩ =>
    inferInstanceAs (Decidable (other = key ∧ t + span.nanos < deadline))
  | ⟨_, .call (.contains _)⟩ | ⟨_, .call (.insertIfAbsent _ _)⟩ | ⟨_, .clean⟩ => isFalse id

theorem shortens_iff {s : Step} {key : String} {deadline : Nat} : s.Shortens key deadline ↔
    ∃ span, s.operation = .call (.register key span) ∧
    s.instant + span.nanos < deadline := by
  unfold Step.Shortens
  split
  next other span hop =>
    simp only [hop, Operation.call.injEq, Event.register.injEq]
    constructor
    · rintro ⟨rfl, hshort⟩
      exact ⟨span, ⟨rfl, rfl⟩, hshort⟩
    · rintro ⟨_, ⟨rfl, rfl⟩, hshort⟩
      exact ⟨rfl, hshort⟩
  next hop =>
    refine ⟨False.elim, ?_⟩
    rintro ⟨span, h, -⟩
    exact hop key span h

theorem after_cons (s : Step) (steps : List Step) (m : Memory) :
    after (s :: steps) m = after steps (s.apply m) := rfl

theorem after_concat (steps : List Step) (s : Step) (m : Memory) :
    after (steps ++ [s]) m = s.apply (after steps m) := List.foldl_concat ..

/-! ## What the operations of the store come to -/

theorem run_register (now : Nat) (key : String) (ttl : Duration) (m : Memory) :
    ((store now).register key ttl m).run =
      match expiry now ttl with
      | .error e => (.error e, m)
      | .ok expires => (.ok (), m.write key expires) := by
  unfold store
  dsimp only
  cases expiry now ttl <;> rfl

theorem run_insertIfAbsent (now : Nat) (key : String) (ttl : Duration) (m : Memory) :
    ((store now).insertIfAbsent key ttl m).run =
      match expiry now ttl with
      | .error e => (.error e, m)
      | .ok expires =>
        if m.isLive now key = true then (.ok false, m)
        else (.ok true, m.write key expires) := by
  unfold store
  dsimp only
  cases expiry now ttl with
  | error e => rfl
  | ok expires => cases m.isLive now key <;> rfl

/-- A key is remembered exactly while it is live. -/
theorem remembers_iff {m : Memory} {now : Nat} {key : String} :
    m.Remembers now key ↔ m.isLive now key = true := by
  constructor
  · intro h
    exact Except.ok.inj h.1
  · intro hlive
    refine ⟨congrArg Except.ok hlive, fun ttl => ?_⟩
    rw [run_insertIfAbsent]
    cases expiry now ttl with
    | error e => exact nofun
    | ok expires =>
      dsimp only
      rw [if_pos hlive]
      exact nofun

/-- A promise is an entry that expires when the lifetime is over, at an instant that the
clock can show. -/
theorem Promises.expiry? {now : Nat} {key : String} {ttl : Duration} {m m' : Memory}
    (h : Promises now key ttl m m') :
    m'.expiry? key = some (now + ttl.nanos) ∧ now + ttl.nanos < clockEnd := by
  have hwritten : ∃ expires, expiry now ttl = .ok expires ∧ m' = m.write key expires := by
    rcases h with h | h
    · rw [run_register] at h
      cases hexpiry : expiry now ttl with
      | error e =>
        rw [hexpiry] at h
        cases h
      | ok expires =>
        rw [hexpiry] at h
        cases h
        exact ⟨expires, rfl, rfl⟩
    · rw [run_insertIfAbsent] at h
      cases hexpiry : expiry now ttl with
      | error e =>
        rw [hexpiry] at h
        cases h
      | ok expires =>
        rw [hexpiry] at h
        dsimp only at h
        split at h
        · cases h
        · cases h
          exact ⟨expires, rfl, rfl⟩
  obtain ⟨expires, hexpiry, rfl⟩ := hwritten
  obtain ⟨rfl, hend⟩ := expiry_eq_ok_iff.mp hexpiry
  exact ⟨expiry?_write_self .., hend⟩

/-! ## One step -/

variable {m : Memory} {key : String} {deadline : Nat}

/-- A write keeps a key past a deadline if it writes another key, or expires no earlier. -/
theorem write_kept {other : String} {expires written : Nat}
    (hkey : m.expiry? key = some expires) (hlate : deadline ≤ expires)
    (h : other = key → deadline ≤ written) :
    ∃ e, (m.write other written).expiry? key = some e ∧ deadline ≤ e := by
  by_cases hsame : other = key
  · subst hsame
    exact ⟨written, expiry?_write_self .., h rfl⟩
  · exact ⟨expires, (expiry?_write_ne written (Ne.symm hsame)).trans hkey, hlate⟩

/-- A key that expires at a deadline or later still does after any step before it, if the
step does not register it for less. -/
theorem apply_kept {s : Step} (hlong : ¬ s.Shortens key deadline)
    (hs : s.instant < deadline)
    (h : ∃ expires, m.expiry? key = some expires ∧ deadline ≤ expires) :
    ∃ expires, (s.apply m).expiry? key = some expires ∧ deadline ≤ expires := by
  obtain ⟨expires, hkey, hlate⟩ := h
  unfold Step.apply
  split
  next other _ => exact ⟨expires, hkey, hlate⟩
  next other span hop =>
    rw [run_register]
    cases hexpiry : expiry s.instant span with
    | error e => exact ⟨expires, hkey, hlate⟩
    | ok written =>
      obtain ⟨rfl, -⟩ := expiry_eq_ok_iff.mp hexpiry
      refine write_kept hkey hlate fun hsame => ?_
      subst hsame
      exact Nat.not_lt.mp fun hshort => hlong (shortens_iff.mpr ⟨span, hop, hshort⟩)
  next other span _ =>
    rw [run_insertIfAbsent]
    cases expiry s.instant span with
    | error e => exact ⟨expires, hkey, hlate⟩
    | ok written =>
      dsimp only
      split
      next => exact ⟨expires, hkey, hlate⟩
      next hdead =>
        -- the key itself is live, so it is another key that is inserted
        refine write_kept hkey hlate fun hsame => ?_
        subst hsame
        exact absurd (isLive_iff.mpr ⟨expires, hkey, by omega⟩) hdead
  next =>
    exact ⟨expires, expiry?_clean.mpr ⟨hkey, by omega⟩, hlate⟩

/-! ## Many steps -/

/-- What no step shortens lives until its deadline. -/
theorem after_kept {steps : List Step} (hlong : ∀ s ∈ steps, ¬ s.Shortens key deadline)
    (hs : ∀ s ∈ steps, s.instant < deadline)
    (h : ∃ expires, m.expiry? key = some expires ∧ deadline ≤ expires) :
    ∃ expires, (after steps m).expiry? key = some expires ∧ deadline ≤ expires := by
  induction steps generalizing m with
  | nil => exact h
  | cons s steps ih =>
    rw [after_cons]
    exact ih (fun s' hs' => hlong s' (List.mem_cons_of_mem _ hs'))
      (fun s' hs' => hs s' (List.mem_cons_of_mem _ hs'))
      (apply_kept (hlong s (List.mem_cons_self ..)) (hs s (List.mem_cons_self ..)) h)

/-- What a step shortens is not remembered when the shorter lifetime is over. -/
theorem not_remembers_of_shortens {s : Step} (h : s.Shortens key deadline)
    (hend : deadline < clockEnd) (m : Memory) :
    ∃ t, s.instant ≤ t ∧ t < deadline ∧ ¬ (s.apply m).Remembers t key := by
  obtain ⟨span, hop, hshort⟩ := shortens_iff.mp h
  refine ⟨s.instant + span.nanos, Nat.le_add_right .., hshort, ?_⟩
  have happly : s.apply m = m.write key (s.instant + span.nanos) := by
    unfold Step.apply
    rw [hop]
    dsimp only
    rw [run_register, expiry_eq_ok (by omega)]
  rw [remembers_iff, happly, isLive_write_self]
  simp

/-- A promise outlasts all steps that do not shorten it. -/
theorem Promises.remembers {now : Nat} {ttl : Duration} {m' : Memory}
    (h : Promises now key ttl m m') {steps : List Step}
    (hlong : ∀ s ∈ steps, ¬ s.Shortens key (now + ttl.nanos)) {t : Nat}
    (ht : ∀ s ∈ steps, s.instant ≤ t) (hlt : t < now + ttl.nanos) :
    (after steps m').Remembers t key := by
  have hstart : ∃ expires, m'.expiry? key = some expires ∧ now + ttl.nanos ≤ expires :=
    ⟨_, h.expiry?.1, Nat.le_refl _⟩
  obtain ⟨expires, hkey, hlate⟩ :=
    after_kept hlong (fun s hs => Nat.lt_of_le_of_lt (ht s hs) hlt) hstart
  exact remembers_iff.mpr (isLive_iff.mpr ⟨expires, hkey, by omega⟩)

/-- If all registrations are for one and the same span, every promise of it is kept. -/
theorem kept_of_one_span {now : Nat} {ttl : Duration} {m' : Memory}
    (h : Promises now key ttl m m') {steps : List Step} (hsteps : InOrder now steps)
    (hspan : ∀ s ∈ steps, ∀ other span, s.operation = .call (.register other span) →
      span = ttl)
    {t : Nat} (ht : ∀ s ∈ steps, s.instant ≤ t) (hlt : t < now + ttl.nanos) :
    (after steps m').Remembers t key := by
  refine h.remembers (fun s hs hshort => ?_) ht hlt
  obtain ⟨span, hop, hshort⟩ := shortens_iff.mp hshort
  rw [hspan s hs key span hop] at hshort
  have hfrom := hsteps.2 s hs
  omega

/-- **Promises.** A key that is given a lifetime is remembered at every instant of it,
whatever has been done by then, exactly if no registration of the same key in between ends
before it. -/
theorem kept_iff_not_shortened {now : Nat} {ttl : Duration} {m' : Memory}
    (h : Promises now key ttl m m') {steps : List Step} (hsteps : InOrder now steps) :
    m'.KeptThrough steps key now (now + ttl.nanos) ↔
      ∀ s ∈ steps, ¬ s.Shortens key (now + ttl.nanos) := by
  obtain ⟨horder, hfrom⟩ := hsteps
  constructor
  · intro hkept s hs hshort
    obtain ⟨before, later, rfl⟩ := List.append_of_mem hs
    have hfirst : before ++ [s] <+: before ++ s :: later := ⟨later, by simp⟩
    -- the key is looked for when the shorter lifetime is over, with nothing done since
    obtain ⟨t, hst, htlt, hforgotten⟩ :=
      not_remembers_of_shortens hshort h.expiry?.2 (after before m')
    have hpast : ∀ s' ∈ before ++ [s], s'.instant ≤ t := by
      intro s' hs'
      rcases List.mem_append.mp hs' with hs' | hs'
      · have hle := (List.pairwise_append.mp horder).2.2 s' hs' s (List.mem_cons_self ..)
        omega
      · cases List.mem_singleton.mp hs'
        exact hst
    have hstart : now ≤ t := Nat.le_trans (hfrom s hs) hst
    rw [← after_concat] at hforgotten
    exact hforgotten (hkept _ t hfirst hpast hstart htlt)
  · intro hlong before t hbefore hpast _ hlt
    exact h.remembers (fun s hs => hlong s (hbefore.subset hs)) hpast hlt

/-- A key is kept through a clean-up, an insertion that is refused, and registrations of
this key and of another; a last one, for a second, is too short. -/
theorem kept_until_shortened :
    let longer : List Step := [⟨1, .clean⟩, ⟨2, .call (.insertIfAbsent "k" (.ofSeconds 1))⟩,
      ⟨3, .call (.register "k" (.ofSeconds 60))⟩, ⟨4, .call (.register "other" ⟨0⟩)⟩]
    let shorter : List Step := longer ++ [⟨5, .call (.register "k" (.ofSeconds 1))⟩]
    ∃ m, Promises 0 "k" (.ofSeconds 60) empty m ∧ InOrder 0 longer ∧ InOrder 0 shorter ∧
      m.KeptThrough longer "k" 0 (0 + (Duration.ofSeconds 60).nanos) ∧
      ¬ m.KeptThrough shorter "k" 0 (0 + (Duration.ofSeconds 60).nanos) := by
  intro longer shorter
  have hpromise : Promises 0 "k" (.ofSeconds 60) empty (empty.write "k" 60000000000) :=
    Or.inl rfl
  have hlonger : InOrder 0 longer := by simp [longer, InOrder]
  have hshorter : InOrder 0 shorter := by simp [shorter, longer, InOrder]
  refine ⟨_, hpromise, hlonger, hshorter, ?_, ?_⟩
  · exact (kept_iff_not_shortened hpromise hlonger).mpr (by decide)
  · intro hkept
    exact absurd ((kept_iff_not_shortened hpromise hshorter).mp hkept) (by decide)

/-- A key that is registered for a minute, and a second later for no time at all, is
forgotten at once: it is not found, and it is inserted as a new one. -/
theorem second_registration_shortens :
    ∃ m m', Promises 0 "k" (.ofSeconds 60) empty m ∧
      ((store 1000000000).register "k" ⟨0⟩ m).run = (.ok (), m') ∧
      1000000000 < 0 + (Duration.ofSeconds 60).nanos ∧
      ((store 1000000000).contains "k" m').run.1 = .ok false ∧
      ((store 1000000000).insertIfAbsent "k" (.ofSeconds 60) m').run.1 = .ok true :=
  ⟨_, _, Or.inl rfl, rfl, by decide, rfl, rfl⟩

end Possession.Replay.Memory
