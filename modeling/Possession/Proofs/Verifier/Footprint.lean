import Possession.Proofs.Verifier.Checks

/-!
# What a verification leaves behind

A verification writes in one place only, and only once every check of the proof itself has
passed. This file says so of the store as a whole, and of the calls that are made on it. To
see the calls, the store is replaced by one that writes them down (`Verifier.journaled`);
this changes neither an answer nor a state, over any store and in either mode:

> `verify_journaled`: the calls of a verification are none if the proof fails by itself, and
> otherwise those that use up its replay key;
> `verification_footprint`: over a store in memory, a failure before the store makes no
> call, a replay and a failure of the store leave every entry as it was, and a confirmation
> or a mismatch of the verifier's own has given the replay key of the proof, which was
> absent or had expired, a whole new lifetime, and has changed nothing else.

The failures in between matter most. In the mode of two calls the clock may turn out to be
unable to show the end of the lifetime only after the key has been looked up, and a mismatch
with the access token or the key is found only after the slot has been taken.
-/

namespace Possession

namespace Replay.Call

variable {σ τ α : Type}

/-- A call on a part of a larger state ends as it would by itself. -/
theorem run_lift (f : σ → τ) (c : Call σ α) : (c.lift f).run = (c.run.1, f c.run.2) := by
  induction c with
  | done r s => rfl
  | wait d s next ih => exact ih

theorem runWithin_lift (f : σ → τ) (c : Call σ α) (limit : Nat) :
    (c.lift f).runWithin limit = ((c.runWithin limit).1, f (c.runWithin limit).2) := by
  induction c generalizing limit with
  | done r s => rfl
  | wait d s next ih =>
    unfold lift runWithin
    split
    · rfl
    · exact ih (limit - d)

end Replay.Call

/-- The causes with which the checks of a proof by itself fail. -/
def Error.BlamesProof : Error → Prop
  | .argument _ | .format _ | .authentication _ | .validation _ _ => True
  | _ => False

/-- The causes with which using up a replay key fails. -/
def Error.BlamesSlot : Error → Prop
  | .replay _ | .storage _ => True
  | _ => False

namespace Proof

/-! ## Calls written down -/

namespace Verifier

variable {σ : Type}

/-- The verifier over a store that writes down each call before it makes it. -/
def journaled (v : Verifier σ) : Verifier (σ × List Replay.Event) :=
  ⟨v.parser, v.store.journaled, v.clock, v.settings⟩

/-- The calls that use up a key: a key that is found is not registered. -/
def calls (v : Verifier σ) (key : String) (s : σ) : List Replay.Event :=
  match v.settings.mode with
  | .lookThenRegister =>
    match (v.call (v.store.contains key s)).1 with
    | .ok false => [.contains key, .register key v.settings.ttl]
    | _ => [.contains key]
  | .insertIfAbsent => [.insertIfAbsent key v.settings.ttl]

variable {v : Verifier σ}

/-- Using up a key takes a call in any case. -/
theorem append_calls_ne (v : Verifier σ) (key : String) (s : σ)
    (journal : List Replay.Event) : journal ++ v.calls key s ≠ journal := by
  intro h
  have hnone : v.calls key s = [] := List.append_right_eq_self.mp h
  unfold calls at hnone
  split at hnone
  · split at hnone <;> cases hnone
  · cases hnone

/-- Writing a call down changes neither its answer nor the store. -/
theorem call_journaled {α : Type} (v : Verifier σ) (c : Replay.Call σ α)
    (event : Replay.Event) (journal : List Replay.Event) :
    v.journaled.call (c.lift fun s => (s, journal ++ [event])) =
      ((v.call c).1, (v.call c).2, journal ++ [event]) := by
  have hsettings : v.journaled.settings = v.settings := rfl
  unfold call
  rw [hsettings]
  cases v.settings.timeout with
  | none =>
    dsimp only
    rw [Replay.Call.run_lift]
  | some limit =>
    dsimp only
    rw [Replay.Call.runWithin_lift]

theorem useKey_journaled (v : Verifier σ) (key : String) (s : σ)
    (journal : List Replay.Event) : v.journaled.useKey key (s, journal) =
      ((v.useKey key s).1, (v.useKey key s).2, journal ++ v.calls key s) := by
  have hcontains :
    ∀ s journal, v.journaled.call (v.journaled.store.contains key (s, journal)) =
      ((v.call (v.store.contains key s)).1, (v.call (v.store.contains key s)).2,
        journal ++ [.contains key]) :=
    fun s => v.call_journaled (v.store.contains key s) (.contains key)
  have hregister : ∀ s journal,
      v.journaled.call (v.journaled.store.register key v.settings.ttl (s, journal)) =
        ((v.call (v.store.register key v.settings.ttl s)).1,
          (v.call (v.store.register key v.settings.ttl s)).2,
          journal ++ [.register key v.settings.ttl]) :=
    fun s => v.call_journaled (v.store.register key v.settings.ttl s)
      (.register key v.settings.ttl)
  have hinsert : v.journaled.call
      (v.journaled.store.insertIfAbsent key v.settings.ttl (s, journal)) =
        ((v.call (v.store.insertIfAbsent key v.settings.ttl s)).1,
          (v.call (v.store.insertIfAbsent key v.settings.ttl s)).2,
          journal ++ [.insertIfAbsent key v.settings.ttl]) :=
    v.call_journaled (v.store.insertIfAbsent key v.settings.ttl s)
      (.insertIfAbsent key v.settings.ttl) journal
  have hsettings : v.journaled.settings = v.settings := rfl
  unfold useKey calls
  rw [hsettings]
  cases v.settings.mode with
  | insertIfAbsent => exact hinsert
  | lookThenRegister =>
    dsimp only
    rw [hcontains]
    cases hlook : v.call (v.store.contains key s) with
    | mk answer s' =>
      cases answer with
      | error e => rfl
      | ok found =>
        cases found with
        | true => rfl
        | false =>
          dsimp only
          rw [hregister, List.append_assoc]
          rfl

/-- The calls of a verification, with its answer and its state. -/
theorem verify_journaled (v : Verifier σ) (D : Web.Url.DomainReader)
    (method url proof : String) (x : Expectation) (s : σ) (journal : List Replay.Event) :
    v.journaled.verify D method url proof x (s, journal) =
      ((v.verify D method url proof x s).1, (v.verify D method url proof x s).2,
        journal ++ match v.examine D method url proof with
          | .error _ => []
          | .ok (_, claims) => v.calls (Replay.key claims.jti) s) := by
  have hexamine : v.journaled.examine D method url proof = v.examine D method url proof :=
    rfl
  unfold verify
  rw [hexamine]
  cases v.examine D method url proof with
  | error f =>
    dsimp only
    rw [List.append_nil]
  | ok passed =>
    obtain ⟨key, claims⟩ := passed
    dsimp only
    unfold consume
    dsimp only
    rw [useKey_journaled]
    cases v.useKey (Replay.key claims.jti) s with
    | mk answer s' =>
      cases answer with
      | error e => rfl
      | ok new => cases new <;> rfl

end Verifier

/-! ## The footprint -/

/-- A key gets a new lifetime at an instant: it was absent or had expired, it expires when
the lifetime is over, and it is the one key of which the store says something else than
before. -/
structure SlotTaken (t : Nat) (ttl : Duration) (key : String)
    (before after : Replay.Memory) : Prop where
  free : ∀ expires, before.expiry? key = some expires → expires ≤ t
  expires : after.expiry? key = some (t + ttl.nanos)
  changes : ∀ other, after.expiry? other ≠ before.expiry? other ↔ other = key

/-- Writing a key that is not live takes its slot, if the lifetime is not over at once. -/
theorem slotTaken_write {t : Nat} {ttl : Duration} {key : String} {m : Replay.Memory}
    (hfree : m.isLive t key = false) (httl : 0 < ttl.nanos) :
    SlotTaken t ttl key m (m.write key (t + ttl.nanos)) := by
  have hdead : ∀ expires, m.expiry? key = some expires → expires ≤ t := by
    intro expires he
    by_contra hlater
    rw [Replay.Memory.isLive_iff.mpr ⟨expires, he, Nat.lt_of_not_le hlater⟩] at hfree
    cases hfree
  refine ⟨hdead, Replay.Memory.expiry?_write_self .., ?_⟩
  intro other
  constructor
  · intro hchanged
    by_contra hne
    exact hchanged (Replay.Memory.expiry?_write_ne _ hne)
  · intro hsame
    subst hsame
    rw [Replay.Memory.expiry?_write_self]
    -- the instant that was written before, if there was one, has come already
    intro heq
    have := hdead _ heq.symm
    omega

/-- The slot of the replay key that a proof carries has been taken. -/
def Took (v : Verifier Replay.Memory) (t : Nat) (r : Request) (m m' : Replay.Memory) :
    Prop :=
  ∃ claims, v.parser.Carries r.proof claims ∧
    SlotTaken t v.settings.ttl (Replay.key claims.jti) m m'

/-- What an answer of a verification says of the store in memory before and after it, and of
the calls that were made on it. -/
structure Footprint (v : Verifier Replay.Memory) (t : Nat) (D : Web.Url.DomainReader)
    (r : Request) (m : Replay.Memory) (journal : List Replay.Event)
    (answer : Checked Confirmation) (m' : Replay.Memory) (journal' : List Replay.Event) :
    Prop where
  /-- A call is made exactly if the proof passes by itself. -/
  silent : journal' = journal ↔ ∃ f, v.examine D r.method r.url r.proof = .error f
  /-- If it does not, that is the answer, and the store is as before. -/
  before : ∀ f, v.examine D r.method r.url r.proof = .error f → answer = .error f ∧ m' = m
  /-- This is so for every answer that blames the proof, or is none. -/
  proof : ∀ f, answer = .error f → (f = .overflow ∨ ∃ e, f = .refused e ∧ e.BlamesProof) →
    journal' = journal ∧ m' = m
  /-- It is so whenever the clock fails. -/
  clock : ∀ e, v.clock.now = .error e → journal' = journal ∧ m' = m
  /-- A replay and a failure of the store leave all entries as they were. -/
  slot : ∀ e, answer = .error (.refused e) → e.BlamesSlot → m' = m
  /-- A confirmation is given after the slot has been taken. -/
  confirmed : ∀ c, answer = .ok c → Took v t r m m'
  /-- So is a mismatch, unless the clock or the parser gave it in place of the time or the
  claims. -/
  mismatched : ∀ reason, answer = .error (.refused (.binding reason)) →
    v.clock.now = .error (.binding reason) ∨
      (∃ envelope key, v.parser r.proof = .ok envelope ∧ envelope.key = some key ∧
        envelope.claims key = .error (.binding reason)) ∨
      Took v t r m m'

namespace Footprint

variable {v : Verifier Replay.Memory} {t : Nat} {D : Web.Url.DomainReader} {r : Request}
  {m m' : Replay.Memory} {journal journal' : List Replay.Event}
  {answer : Checked Confirmation}

/-- The footprint of a proof that fails by itself. -/
theorem of_failed {f : Failure} (hex : v.examine D r.method r.url r.proof = .error f) :
    Footprint v t D r m journal (.error f) m journal where
  silent := ⟨fun _ => ⟨f, hex⟩, fun _ => rfl⟩
  before f' hex' := by
    cases hex.symm.trans hex'
    exact ⟨rfl, rfl⟩
  proof _ _ _ := ⟨rfl, rfl⟩
  clock _ _ := ⟨rfl, rfl⟩
  slot _ _ _ := rfl
  confirmed := nofun
  mismatched reason h := by
    cases h
    exact (Verifier.examine_eq_binding hex).imp_right Or.inl

section Passed

variable {key : Key} {claims : Claims}
  (hex : v.examine D r.method r.url r.proof = .ok (key, claims))
  (hcalls : journal' ≠ journal)

include hex hcalls

/-- The footprint of a proof that passes by itself, from what is left to be said of the
slot. -/
theorem of_passed (hproof : ∀ e, answer = .error (.refused e) → ¬ e.BlamesProof)
    (hanswer : answer ≠ .error .overflow)
    (hslot : ∀ e, answer = .error (.refused e) → e.BlamesSlot → m' = m)
    (htaken : TakesSlot answer → SlotTaken t v.settings.ttl (Replay.key claims.jti) m m') :
    Footprint v t D r m journal answer m' journal' where
  silent := by
    refine ⟨fun h => absurd h hcalls, ?_⟩
    rintro ⟨f, hf⟩
    cases hex.symm.trans hf
  before f hf := nomatch hex.symm.trans hf
  proof := by
    rintro f hf (rfl | ⟨e, rfl, he⟩)
    · exact absurd hf hanswer
    · exact absurd he (hproof e hf)
  clock e he := by
    obtain ⟨-, -, now, -, -, -, -, -, -, -, -, hnow, -⟩ := Verifier.examine_eq_ok_iff.mp hex
    cases hnow.symm.trans he
  slot := hslot
  confirmed c hc := ⟨claims, Verifier.carries_of_examine hex, htaken (Or.inl ⟨c, hc⟩)⟩
  mismatched reason h :=
    Or.inr (Or.inr ⟨claims, Verifier.carries_of_examine hex, htaken (Or.inr ⟨reason, h⟩)⟩)

/-- The footprint of a proof that does not get the slot. -/
theorem of_slot {e : Error} (he : e.BlamesSlot) :
    Footprint v t D r m journal (.error (.refused e)) m journal' := by
  refine of_passed hex hcalls ?_ nofun (fun _ _ _ => rfl) ?_
  · rintro e' h hproof
    cases h
    cases e <;> first | exact he.elim | exact hproof.elim
  · rintro (⟨_, h⟩ | ⟨reason, h⟩)
    · cases h
    · cases h
      exact he.elim

/-- The footprint of a proof that gets it. -/
theorem of_taken (hanswer : TakesSlot answer)
    (htaken : SlotTaken t v.settings.ttl (Replay.key claims.jti) m m') :
    Footprint v t D r m journal answer m' journal' := by
  refine of_passed hex hcalls ?_ ?_ ?_ fun _ => htaken
  all_goals rcases hanswer with ⟨c, rfl⟩ | ⟨reason, rfl⟩
  · exact nofun
  · rintro e h hproof
    cases h
    exact hproof
  · exact nofun
  · exact nofun
  · exact nofun
  · rintro e h hslot
    cases h
    exact hslot.elim

end Passed

end Footprint

namespace Verifier

variable {v : Verifier Replay.Memory} {t : Nat}

/-- Valid settings remember a key for a while. -/
theorem nanos_ttl_pos (hvalid : v.settings.validate = .ok ()) :
    0 < v.settings.ttl.nanos := by
  obtain ⟨-, hwide, -⟩ := v.settings.validate_eq_ok_iff.mp hvalid
  rw [Settings.nanos_ttl]
  unfold Duration.perSecond
  omega

/-- **The footprint of a verification.** For every state of a store in memory, either mode,
every parser and clock and every request: the answer tells whether calls were made on the
store, and which entry they have changed. The calls are seen on the store that writes them
down, with the same answer and state. -/
theorem verification_footprint (hstore : v.store = Replay.Memory.store t)
    (hvalid : v.settings.validate = .ok ()) (D : Web.Url.DomainReader) (r : Request)
    (m : Replay.Memory) (journal : List Replay.Event) :
    ∃ answer m' journal',
      v.verify D r.method r.url r.proof r.expectation m = (answer, m') ∧
        v.journaled.verify D r.method r.url r.proof r.expectation (m, journal) =
          (answer, m', journal') ∧
        Footprint v t D r m journal answer m' journal' := by
  refine ⟨(v.verify D r.method r.url r.proof r.expectation m).1, _, _, Prod.mk.eta.symm,
    verify_journaled .., ?_⟩
  rcases verify_cases hstore D r.method r.url r.proof r.expectation m with
    ⟨key, claims, hex, hfree, -, hverify⟩ | ⟨f, hverify, hwhy⟩
  · rw [hverify, hex]
    refine .of_taken hex (v.append_calls_ne _ _ _) ?_
      (slotTaken_write hfree (nanos_ttl_pos hvalid))
    cases hconfirm : confirm r.expectation key claims with
    | ok c => exact Or.inl ⟨c, rfl⟩
    | error e =>
      obtain ⟨reason, rfl⟩ := confirm_error hconfirm
      exact Or.inr ⟨reason, rfl⟩
  · rw [hverify]
    cases hex : v.examine D r.method r.url r.proof with
    | error f' =>
      have hsame : v.verify D r.method r.url r.proof r.expectation m = (.error f', m) := by
        unfold verify
        rw [hex]
      cases hverify.symm.trans hsame
      dsimp only
      rw [List.append_nil]
      exact .of_failed hex
    | ok passed =>
      obtain ⟨key, claims⟩ := passed
      rcases hwhy with hfailed | ⟨_, rfl⟩ | ⟨_, rfl⟩
      · cases hex.symm.trans hfailed
      · exact .of_slot hex (v.append_calls_ne _ _ _) trivial
      · exact .of_slot hex (v.append_calls_ne _ _ _) trivial

/-- A sample proof takes the slot of an entry that expires at this instant, and of no
other. -/
theorem proof_takes_expired_slot :
    let v := sampleVerifier (.seconds 0) 15
    let r := sampleRequest
    let m := (Replay.Memory.empty.write "other" 1).write (Replay.key "j") 0
    v.store = Replay.Memory.store 0 ∧ v.settings.validate = .ok () ∧
      ∃ c m' journal',
      v.journaled.verify some r.method r.url r.proof r.expectation (m, []) =
          (.ok c, m', journal') ∧
        Footprint v 0 some r m [] (.ok c) m' journal' ∧ Took v 0 r m m' := by
  intro v r m
  have hvalid : v.settings.validate = .ok () := validate_sampleVerifier ..
  have hex : v.examine some r.method r.url r.proof = .ok (sampleKey, sampleClaims 15) := by
    rw [Check.examine_of_passesBefore (sampleVerifier_passesBefore 0 15 m) rfl
      (sampleVerifier_vouches _ _ r.proof)]
    rfl
  have hconfirm :
    confirm r.expectation sampleKey (sampleClaims 15) = .ok ⟨sampleKey.thumbprint⟩ := by
    simp [confirm, r, sampleRequest]
  have hverify := verify_eq (t := 0) (v := v) (m := m) rfl hex
    (Replay.Memory.isLive_write_self ..) (by decide) r.expectation
  rw [hconfirm] at hverify
  obtain ⟨answer, m', journal', hverified, hjournaled, hprint⟩ :=
    verification_footprint (t := 0) (v := v) rfl hvalid some r m []
  obtain rfl : answer = .ok ⟨sampleKey.thumbprint⟩ :=
    (Prod.mk.inj (hverified.symm.trans hverify)).1
  exact ⟨rfl, hvalid, _, m', journal', hjournaled, hprint, hprint.confirmed _ rfl⟩

end Verifier

end Proof

end Possession
