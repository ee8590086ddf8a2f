import Possession.Proofs.Replay.Contention
import Possession.Proofs.Verifier.Checks

/-!
# A reply that is lost

A verifier that inserts refuses a proof as a replay when the store tells it that the key was
there. This file asks who has put it there:

> `refusal_is_foreign_iff`: an insertion that is answered with no has found a key of
> somebody else, which was there from the beginning or was written by another call, exactly
> if it has not found its own.

It finds its own after a reply was lost. The write took place, the attempt failed, and the
next attempt finds the key (`fresh_proof_is_refused`). For all other keys the answer is
right. Both cannot be the case, since a key is written only when it is not there, and then
it is live for as long as it was written for; this needs that time does not go back.
-/

namespace Possession

/-- What a call on the store gives, it gives in time. -/
theorem Proof.Verifier.call_fst_eq_ok_iff {σ α : Type} {v : Proof.Verifier σ}
    {c : Replay.Call σ α} {a : α} : (v.call c).1 = .ok a ↔
      c.run.1 = .ok a ∧ ∀ limit, v.settings.timeout = some limit →
      c.waits ≤ limit.nanos := by
  constructor
  · intro h
    obtain ⟨hrun, hlimit⟩ := call_eq_ok_iff.mp (Prod.ext h rfl)
    exact ⟨congrArg Prod.fst hrun, hlimit⟩
  · rintro ⟨hrun, hlimit⟩
    exact congrArg Prod.fst (call_eq_ok_iff.mpr ⟨Prod.ext hrun rfl, hlimit⟩)

namespace Replay.Redis

open Proof (Verifier)

section Keys

variable {κ : Type}

/-- The key that an attempt finds is not of the same call: it was there at first, or another
call has written it. -/
def Foreign (first : Server) (earlier : List (Attempt κ)) (a : Attempt κ) (key : String) :
    Prop :=
  first.has a.instant key = true ∨ ∃ b ∈ earlier, b.thread ≠ a.thread ∧ b.Live a.instant key

/-- The key that an attempt finds is of the same call, which was not told that it had
written it. -/
def Own (earlier : List (Attempt κ)) (a : Attempt κ) (key : String) : Prop :=
  ∃ b ∈ earlier, b.thread = a.thread ∧ (∃ reason, b.fate = .unheard reason) ∧
    b.Live a.instant key

/-- A thread has heard in some attempt that a key was there, and that was a key of somebody
else's exactly if it was not its own. -/
def Scene.Refused (s : Scene κ) (first : Server) (i : κ) (key : String) : Prop :=
  ∃ earlier a later, s.journal = earlier ++ a :: later ∧ a.thread = i ∧ a.fate = .heard ∧
    a.before.has a.instant key = true ∧ (Foreign first earlier a key ↔ ¬ Own earlier a key)

end Keys

section Runs

variable {κ : Type} [DecidableEq κ] {task : κ → Task} {first : Server} {s : Scene κ} {i : κ}

/-- An insertion that is answered with no has found the key, and no attempt before that was
heard. -/
theorem Ledger.found (h : Ledger task first s) {service key : String} {span : Duration}
    (htask : task i = .insert service key span)
    (hno : s.progress i = .answered (.ok false)) :
    ∃ earlier a later, s.journal = earlier ++ a :: later ∧ a.thread = i ∧ a.fate = .heard ∧
      a.before.has a.instant (entryKey service key) = true ∧
      ∀ b ∈ earlier, b.thread = i → b.fate ≠ .heard := by
  have htracks := h.tracks i
  rw [hno] at htracks
  obtain ⟨failed, last, hattempts, hfailed, hheard, hfound⟩ := Settled.found htracks
  obtain ⟨front, back, hjournal, rfl, hback⟩ := List.filter_eq_append_iff.mp hattempts
  obtain ⟨between, later, rfl, hothers, hthread, -⟩ := List.filter_eq_cons_iff.mp hback
  refine ⟨front ++ between, last, later, by simp [hjournal], of_decide_eq_true hthread,
    hheard, ?_, ?_⟩
  · rw [htask] at hfound
    simpa [Task.verdict, Task.entry] using hfound
  · intro b hb hi
    rcases List.mem_append.mp hb with hb | hb
    · exact hfailed b (List.mem_filter.mpr ⟨hb, decide_eq_true hi⟩)
    · exact absurd (decide_eq_true hi) (hothers b hb)

/-- What an attempt finds was there at first, or is of one of the calls, and not both. -/
theorem Ledger.foreign_iff (h : Ledger task first s)
    (horder : s.journal.Pairwise fun a b => a.instant ≤ b.instant)
    {earlier later : List (Attempt κ)}
    {a : Attempt κ} {key : String} (hjournal : s.journal = earlier ++ a :: later)
    (hfound : a.before.has a.instant key = true)
    (hfailed : ∀ b ∈ earlier, b.thread = a.thread → b.fate ≠ .heard) :
    Foreign first earlier a key ↔ ¬ Own earlier a key := by
  rw [hjournal] at horder
  have hpast : ∀ b ∈ earlier, b.instant ≤ a.instant :=
    fun b hb => (List.pairwise_append.mp horder).2.2 b hb a (List.mem_cons_self ..)
  have hmem : ∀ b ∈ earlier, b ∈ s.journal := by
    intro b hb
    rw [hjournal]
    exact List.mem_append_left _ hb
  constructor
  · rintro hforeign ⟨b, hb, hsame, -, m, hwrote, hlive⟩
    have hle := hpast b hb
    rcases hforeign with hfirst | ⟨c, hc, hother, n, hwrites, hstill⟩
    · -- a key that was there at first was there when the call wrote it
      obtain ⟨before, after, hsplit⟩ := List.append_of_mem (hmem b hb)
      have hthere := (h.seen before b after hsplit b.instant key).mpr
        (Or.inl (Server.has_of_le hle hfirst))
      rw [hwrote.2.2] at hthere
      cases hthere
    · -- two keys are not live at once
      have hle' := hpast c hc
      have hne : b ≠ c := by
        rintro rfl
        exact hother hsame
      rcases h.apart (hmem b hb) (hmem c hc) hne hwrote hwrites with hapart | hapart
      · omega
      · omega
  · intro hnot
    rcases (h.seen earlier a later hjournal a.instant key).mp hfound with
      hfirst | ⟨b, hb, hlive⟩
    · exact Or.inl hfirst
    · refine Or.inr ⟨b, hb, ?_, hlive⟩
      intro hsame
      refine hnot ⟨b, hb, hsame, ?_, hlive⟩
      obtain ⟨m, ⟨-, hruns, -⟩, -⟩ := hlive
      cases hfate : b.fate with
      | unsent reason =>
        rw [hfate] at hruns
        cases hruns
      | unheard reason => exact ⟨reason, rfl⟩
      | heard => exact absurd hfate (hfailed b hb hsame)

/-- A key that was free is found by the attempt that follows a lost reply, if that comes
before it expires. -/
theorem insert_after_lost_reply {service key reason : String} {span : Duration}
    {t₀ t₁ : Nat} {turns : List (Turn κ)}
    (hfree : s.server.has t₀ (entryKey service key) = false)
    (hsoon : t₁ < t₀ + expireSeconds span * Duration.perSecond) :
    ((store (World.link task i) service).insertIfAbsent key span
      ⟨s, ⟨t₀, i, .unheard reason⟩ :: ⟨t₁, i, .heard⟩ :: turns⟩).run.1 = .ok false := by
  let command := Command.setNewFor (entryKey service key) (expireSeconds span)
  let lost : Turn κ := ⟨t₀, i, .unheard reason⟩
  let next : Turn κ := ⟨t₁, i, .heard⟩
  let after := (Scene.link lost command s).2
  have hserver :
    after.server = s.server.put t₀ (entryKey service key) (expireSeconds span) := by
    simp [after, lost, command, Scene.link, Server.link, Server.execute, Fate.runs, hfree]
  have hthere : after.server.has t₁ (entryKey service key) = true := by
    rw [hserver]
    exact Server.has_put_self.mpr hsoon
  have hreply : (Scene.link next command after).1 = .ok .nothing := by
    simp [next, command, Scene.link, Server.link, Server.execute, Fate.failure?, hthere]
  show (tryCommand (World.link task i) command readWritten 2 1
    ⟨s, lost :: next :: turns⟩).run.1 = _
  rw [run_tryCommand, World.link_self (show lost.thread = i from rfl)]
  show (tryCommand (World.link task i) command readWritten 1 2
    ⟨after, next :: turns⟩).run.1 = _
  rw [run_tryCommand, World.link_self (show next.thread = i from rfl), hreply]
  rfl

end Runs

/-! ## What a verifier makes of it -/

/-- A proof that passes the first gate is refused as a replay, by a verifier that inserts,
exactly if the insertion is answered with no in time. -/
theorem verify_eq_replay_iff {σ : Type} {v : Verifier σ} {D : Web.Url.DomainReader}
    {method url proof k : String} {x : Proof.Expectation} {s : σ} {passed : Proof.Key}
    {claims : Proof.Claims} (hmode : v.settings.mode = .insertIfAbsent)
    (hex : v.examine D method url proof = .ok (passed, claims)) :
    (v.verify D method url proof x s).1 = .error (.refused (.replay k)) ↔
      Replay.key claims.jti = k ∧
      (v.store.insertIfAbsent (Replay.key claims.jti) v.settings.ttl s).run.1 = .ok false ∧
      ∀ limit, v.settings.timeout = some limit →
        (v.store.insertIfAbsent (Replay.key claims.jti) v.settings.ttl s).waits ≤
          limit.nanos := by
  have huse : v.useKey (Replay.key claims.jti) s =
      v.call (v.store.insertIfAbsent (Replay.key claims.jti) v.settings.ttl s) := by
    unfold Verifier.useKey
    rw [hmode]
  rw [← Verifier.call_fst_eq_ok_iff]
  unfold Verifier.verify
  rw [hex]
  unfold Verifier.consume
  dsimp only
  rw [huse]
  cases hcall :
    v.call (v.store.insertIfAbsent (Replay.key claims.jti) v.settings.ttl s) with
  | mk answer s' =>
    cases answer with
    | error e =>
      obtain ⟨reason, rfl⟩ := Verifier.call_eq_error hcall
      simp
    | ok new =>
      cases new with
      | false => simp
      | true =>
        -- the key is used up, and what is compared after that fails as a mismatch
        cases hconfirm : Proof.confirm x passed claims with
        | ok c => simp [Proof.Checked.ofResult, Except.mapError]
        | error e =>
          obtain ⟨reason, rfl⟩ := Proof.confirm_error hconfirm
          simp [Proof.Checked.ofResult, Except.mapError]

/-- **Who has written the key.** An insertion over a connection that can fail is answered
with no, or a verifier that makes this insertion refuses a proof as a replay. Then some
attempt of the call has heard that the key was there, and it was somebody else's exactly if
it was not one that an earlier attempt of the same call had written, whose reply was
lost. -/
theorem refusal_is_foreign_iff {κ : Type} [DecidableEq κ] (task : κ → Task) (first : Server)
    {turns : List (Turn κ)} (hturns : InTurn turns) {i : κ} {service key : String}
    {span : Duration} (htask : task i = .insert service key span) :
    let s := run task turns (.start κ first)
    let S := store (World.link task i) service
    ((S.insertIfAbsent key span ⟨.start κ first, turns⟩).run.1 = .ok false →
      s.Refused first i (entryKey service key)) ∧
    ∀ (v : Verifier (World κ)) (D : Web.Url.DomainReader) (r : Proof.Request)
      (passed : Proof.Key) (claims : Proof.Claims) (k : String),
      v.store = S → v.settings.mode = .insertIfAbsent → v.settings.ttl = span →
      v.examine D r.method r.url r.proof = .ok (passed, claims) →
      Replay.key claims.jti = key →
      (v.verify D r.method r.url r.proof r.expectation ⟨.start κ first, turns⟩).1 =
        .error (.refused (.replay k)) →
      s.Refused first i (entryKey service key) := by
  intro s S
  have refused : (S.insertIfAbsent key span ⟨.start κ first, turns⟩).run.1 = .ok false →
      s.Refused first i (entryKey service key) := by
    intro hno
    have hledger : Ledger task first s := run_ledger (ledger_start task first) turns
    have hanswer : s.progress i = .answered (.ok false) := by
      refine answered_of_ok task i turns first ?_
      rw [htask]
      exact hno
    obtain ⟨earlier, a, later, hjournal, rfl, hheard, hfound, hfailed⟩ :=
      hledger.found htask hanswer
    exact ⟨earlier, a, later, hjournal, rfl, hheard, hfound,
      hledger.foreign_iff (journal_inTurn hturns task first) hjournal hfound hfailed⟩
  refine ⟨refused, ?_⟩
  intro v D r passed claims k hstore hmode hspan hex hkey hreplay
  obtain ⟨-, hno, -⟩ := (verify_eq_replay_iff hmode hex).mp hreplay
  rw [hstore, hkey, hspan] at hno
  exact refused hno

/-! ## A sample -/

/-- The proof of the sample, at the only caller of a server. -/
def loneTask : Unit → Task := fun _ =>
  .insert defaultService (Replay.key "j") (Proof.Settings.ttl {})

/-- A verifier that inserts, and reads every text as the sample proof. -/
def loneVerifier : Verifier (World Unit) where
  parser _ :=
    .ok ⟨some Proof.proofType, some Proof.sampleKey, fun _ => .ok (Proof.sampleClaims 0)⟩
  store := store (World.link loneTask ()) defaultService
  clock := .seconds 0
  settings := { mode := .insertIfAbsent }

/-- The reply to its first attempt is lost. The second is made after the wait. -/
def loneTurns : List (Turn Unit) := [⟨0, (), .unheard "reset"⟩, ⟨100000000, (), .heard⟩]

theorem examine_loneVerifier :
    loneVerifier.examine some "GET" "http://h/" "p" =
      .ok (Proof.sampleKey, Proof.sampleClaims 0) :=
  Verifier.examine_eq_ok_iff.mpr ⟨_, _, _, Proof.target_sampleRequest,
    Proof.isBlank_sampleRequest, rfl, rfl, rfl, rfl, rfl, rfl, rfl, rfl⟩

theorem insert_loneVerifier :
    (loneVerifier.store.insertIfAbsent (Replay.key "j") loneVerifier.settings.ttl
      ⟨.start Unit ⟨[]⟩, loneTurns⟩).run.1 = .ok false :=
  insert_after_lost_reply rfl (by decide)

theorem verify_loneVerifier :
    (loneVerifier.verify some "GET" "http://h/" "p" {} ⟨.start Unit ⟨[]⟩, loneTurns⟩).1 =
      .error (.refused (.replay (Replay.key "j"))) :=
  (verify_eq_replay_iff rfl examine_loneVerifier).mpr ⟨rfl, insert_loneVerifier, nofun⟩

/-- A proof that is submitted once, to the only caller of a server without keys, is refused
as a replay: the reply to the attempt that wrote the key is lost. -/
theorem fresh_proof_is_refused :
    (loneVerifier.store.insertIfAbsent (Replay.key "j") loneVerifier.settings.ttl
        ⟨.start Unit ⟨[]⟩, loneTurns⟩).run.1 = .ok false ∧
      (loneVerifier.verify some "GET" "http://h/" "p" {} ⟨.start Unit ⟨[]⟩, loneTurns⟩).1 =
        .error (.refused (.replay (Replay.key "j"))) ∧
      ∀ (earlier : List (Attempt Unit)) (a : Attempt Unit),
        ¬ Foreign ⟨[]⟩ earlier a (entryKey defaultService (Replay.key "j")) := by
  refine ⟨insert_loneVerifier, verify_loneVerifier, ?_⟩
  rintro earlier a (hfirst | ⟨b, -, hother, -⟩)
  · cases hfirst
  · exact hother rfl

/-- So the key that it finds is its own. -/
theorem fresh_proof_finds_its_own_key :
    InTurn loneTurns ∧
      (run loneTask loneTurns (.start Unit ⟨[]⟩)).Refused ⟨[]⟩ ()
        (entryKey defaultService (Replay.key "j")) := by
  have hturns : InTurn loneTurns := by simp [InTurn, loneTurns]
  have h := refusal_is_foreign_iff loneTask ⟨[]⟩ hturns (i := ()) rfl
  exact ⟨hturns,
    h.2 loneVerifier some Proof.sampleRequest _ _ _ rfl rfl rfl examine_loneVerifier rfl
    verify_loneVerifier⟩

end Replay.Redis

end Possession
