import Possession.Proofs.Replay.Schedule

/-!
# Calls that contend for a key

An insertion is told that its key was new if its own write took effect, and no other call
may be told the same of the same key. This has to hold when replies are lost, so that a call
writes and does not know it, and whatever attempts of others come between two of its own:

> `one_winner`: in every schedule, an insertion that tells its caller that the key was new
> has written it, and two calls write one key only when the lifetime that the first has
> given to it is over; a call makes at most `maxAttempts` attempts, the first that is heard
> decides, and it fails if none is.

The server carries out one command at a time, and a conditional write takes place only if
the key is not there. `Known` says what this makes of any number of attempts: the server has
a key exactly until the last write of it expires, so that nobody writes it before
(`Known.apart`). What a single call does is followed by `Tracks`. A turn keeps both, and
this is `turn_ledger`.
-/

namespace Possession.Replay.Redis

namespace Attempt

variable {κ : Type}

/-- The attempt wrote a key for a number of seconds. -/
def Wrote (a : Attempt κ) (key : String) (seconds : Nat) : Prop :=
  a.command = .setNewFor key seconds ∧ a.fate.runs = true ∧
    a.before.has a.instant key = false

/-- The attempt wrote a key that is there up to some later instant. -/
def Live (a : Attempt κ) (t : Nat) (key : String) : Prop :=
  ∃ seconds, a.Wrote key seconds ∧ t < a.instant + seconds * Duration.perSecond

end Attempt

/-- How an answer comes about. All attempts but the last have failed. If that one was heard,
the answer is whether the key was there, in the terms of the task, and otherwise there were
as many attempts as there may be. -/
def Settled {κ : Type} (task : Task) (attempts : List (Attempt κ)) (answer : Result Bool) :
    Prop :=
  ∃ earlier last, attempts = earlier ++ [last] ∧ attempts.length ≤ maxAttempts ∧
    (∀ a ∈ earlier, a.fate ≠ .heard) ∧
    match last.fate.failure? with
    | none => answer = .ok (task.verdict (last.before.has last.instant task.entry))
    | some reason => attempts.length = maxAttempts ∧ answer = .error (failure reason)

/-! ## The server -/

namespace Server

variable {s : Server} {now t : Nat} {key other : String} {seconds : Nat}

theorem has_iff :
    s.has t key = true ↔ ∃ expires, (key, expires) ∈ s.keys ∧ t < expires := by
  unfold has
  simp only [List.any_eq_true, Bool.and_eq_true, beq_iff_eq, decide_eq_true_eq, Prod.exists]
  constructor
  · rintro ⟨_, expires, hmem, rfl, ht⟩
    exact ⟨expires, hmem, ht⟩
  · rintro ⟨expires, hmem, ht⟩
    exact ⟨key, expires, hmem, rfl, ht⟩

/-- A key that is there at an instant is there before it. -/
theorem has_of_le (hle : now ≤ t) (h : s.has t key = true) : s.has now key = true := by
  obtain ⟨expires, hmem, ht⟩ := has_iff.mp h
  exact has_iff.mpr ⟨expires, hmem, Nat.lt_of_le_of_lt hle ht⟩

theorem has_put_self : (s.put now key seconds).has t key = true ↔
    t < now + seconds * Duration.perSecond := by
  rw [has_iff]
  unfold put
  simp

theorem has_put_ne (h : other ≠ key) :
    (s.put now key seconds).has t other = true ↔ s.has t other = true := by
  rw [has_iff, has_iff]
  unfold put
  simp [h]

end Server

section Attempts

variable {κ : Type} {a : Attempt κ}

/-- What an attempt wrote is there up to the end of its lifetime, and nothing else is. -/
theorem Attempt.Wrote.live_iff {key other : String} {seconds t : Nat}
    (h : a.Wrote key seconds) :
    a.Live t other ↔ key = other ∧ t < a.instant + seconds * Duration.perSecond := by
  constructor
  · rintro ⟨seconds', ⟨hset, -, -⟩, ht⟩
    cases h.1.symm.trans hset
    exact ⟨rfl, ht⟩
  · rintro ⟨rfl, ht⟩
    exact ⟨seconds, h, ht⟩

/-- An attempt that does not write without a condition writes a key that is not there, or
nothing. -/
theorem Attempt.link_cases (h : ∀ key seconds, a.command ≠ .setFor key seconds) :
    (∃ key seconds, a.Wrote key seconds ∧
      (Server.link a.instant a.fate a.command a.before).2 =
        a.before.put a.instant key seconds) ∨
    (∀ key seconds, ¬ a.Wrote key seconds) ∧
      (Server.link a.instant a.fate a.command a.before).2 = a.before := by
  unfold Wrote Server.link
  cases hcommand : a.command with
  | setFor key seconds => exact absurd hcommand (h key seconds)
  | ping => simp [Server.execute]
  | contains key => simp [Server.execute]
  | setNewFor key seconds =>
    cases hruns : a.fate.runs with
    | false => simp
    | true =>
      cases hfound : a.before.has a.instant key with
      | true => simp [Server.execute, hfound]
      | false =>
        exact Or.inl ⟨key, seconds, ⟨rfl, rfl, hfound⟩, by simp [Server.execute, hfound]⟩

end Attempts

/-! ## What the attempts leave behind -/

section Ledger

variable {κ : Type} {first : Server} {journal : List (Attempt κ)} {a b : Attempt κ}

/-- The server has the keys that it had at first, and those that attempts have written, each
until it expires, and no others. -/
def Known (first : Server) (journal : List (Attempt κ)) (server : Server) : Prop :=
  ∀ t key, server.has t key = true ↔ first.has t key = true ∨ ∃ a ∈ journal, a.Live t key

/-- One more attempt. -/
theorem Known.concat (h : Known first journal a.before)
    (hcommand : ∀ key seconds, a.command ≠ .setFor key seconds) :
    Known first (journal ++ [a]) (Server.link a.instant a.fate a.command a.before).2 := by
  intro t other
  have hsplit : (∃ b ∈ journal ++ [a], b.Live t other) ↔
      (∃ b ∈ journal, b.Live t other) ∨ a.Live t other := by
    simp [or_and_right, exists_or]
  rw [hsplit, ← or_assoc, ← h t other]
  rcases Attempt.link_cases hcommand with ⟨key, seconds, hwrote, hafter⟩ | ⟨hnot, hafter⟩
  · rw [hafter, hwrote.live_iff]
    by_cases hkey : other = key
    · subst hkey
      rw [Server.has_put_self]
      constructor
      · intro ht
        exact Or.inr ⟨rfl, ht⟩
      · rintro (hbefore | ⟨-, ht⟩)
        · -- what was still there at a later instant would have been there now
          by_contra hlate
          have hnow : a.before.has a.instant other = true :=
            Server.has_of_le (by omega) hbefore
          rw [hwrote.2.2] at hnow
          cases hnow
        · exact ht
    · rw [Server.has_put_ne hkey]
      constructor
      · exact Or.inl
      · rintro (hbefore | ⟨rfl, -⟩)
        · exact hbefore
        · exact absurd rfl hkey
  · rw [hafter]
    constructor
    · exact Or.inl
    · rintro (hbefore | ⟨seconds, hwrote, -⟩)
      · exact hbefore
      · exact absurd hwrote (hnot other seconds)

/-- A key is written only after an attempt that wrote it before has expired. -/
theorem Known.apart (h : Known first journal b.before) (ha : a ∈ journal) {key : String}
    {m n : Nat} (hwrote : a.Wrote key m) (hwrites : b.Wrote key n) :
    a.instant + m * Duration.perSecond ≤ b.instant := by
  by_contra hlate
  have hthere := (h b.instant key).mpr (Or.inr ⟨a, ha, m, hwrote, by omega⟩)
  rw [hwrites.2.2] at hthere
  cases hthere

/-- How far a call has come by its attempts. -/
def Tracks (task : Task) (attempts : List (Attempt κ)) : Progress → Prop
  | .trying left attempt =>
    attempts.length + 1 = attempt ∧ left + attempt = maxAttempts ∧ ∀ a ∈ attempts,
      a.fate ≠ .heard
  | .answered answer => Settled task attempts answer

/-- One more attempt of the same call. -/
theorem tracks_outcome {task : Task} {attempts : List (Attempt κ)} {left attempt : Nat}
    (h : Tracks task attempts (.trying left attempt)) (a : Attempt κ) :
    Tracks task (attempts ++ [a]) (task.outcome a.toTurn left attempt a.before) := by
  obtain ⟨hlength, hleft, hfailed⟩ := h
  have hmax : (attempts ++ [a]).length = attempt := by simpa using hlength
  unfold Task.outcome
  cases hfate : a.fate.failure? with
  | none =>
    refine ⟨attempts, a, rfl, by omega, hfailed, ?_⟩
    rw [hfate]
  | some reason =>
    cases left with
    | zero =>
      refine ⟨attempts, a, rfl, by omega, hfailed, ?_⟩
      rw [hfate]
      exact ⟨by omega, rfl⟩
    | succ left =>
      refine ⟨by omega, by omega, ?_⟩
      intro b hb
      rcases List.mem_append.mp hb with hb | hb
      · exact hfailed b hb
      · cases List.mem_singleton.mp hb
        intro hheard
        cases hfate.symm.trans (Fate.failure?_eq_none.mpr hheard)

variable [DecidableEq κ] {task : κ → Task}

/-- What holds after any number of turns. -/
structure Ledger (task : κ → Task) (first : Server) (s : Scene κ) : Prop where
  /-- Every attempt sends the command of its task. -/
  sent : ∀ a ∈ s.journal, a.command = (task a.thread).command
  /-- Every call has come as far as its attempts have brought it. -/
  tracks : ∀ i, Tracks (task i) (s.attempts i) (s.progress i)
  /-- The server knows what it was told, -/
  known : Known first s.journal s.server
  /-- and so it did before each attempt. -/
  seen : ∀ earlier a later, s.journal = earlier ++ a :: later → Known first earlier a.before

theorem ledger_start (task : κ → Task) (first : Server) :
    Ledger task first (.start κ first) where
  sent := by simp [Scene.start]
  tracks i := ⟨rfl, rfl, by simp [Scene.start, Scene.attempts]⟩
  known := by simp [Known, Scene.start]
  seen := by simp [Scene.start]

theorem Task.command_ne_setFor (task : Task) (key : String) (seconds : Nat) :
    task.command ≠ .setFor key seconds := by
  cases task <;> exact nofun

/-- A turn keeps all of it. -/
theorem turn_ledger {s : Scene κ} (h : Ledger task first s) (e : Turn κ) :
    Ledger task first (turn task e s) := by
  cases hprogress : s.progress e.thread with
  | answered answer =>
    rw [turn_answered hprogress]
    exact h
  | trying left attempt =>
    have hjournal : (turn task e s).journal = _ := journal_turn hprogress
    constructor
    case sent =>
      intro a ha
      rw [hjournal] at ha
      rcases List.mem_append.mp ha with ha | ha
      · exact h.sent a ha
      · cases List.mem_singleton.mp ha
        rfl
    case tracks =>
      intro i
      by_cases hi : i = e.thread
      · subst hi
        have htracks := h.tracks e.thread
        rw [hprogress] at htracks
        rw [attempts_turn_self hprogress, turn_trying hprogress, Scene.progress_set_self]
        exact tracks_outcome htracks ⟨e, _, s.server⟩
      · rw [(turn_ne hi).1, (turn_ne hi).2]
        exact h.tracks i
    case known =>
      rw [hjournal, turn_trying hprogress]
      exact h.known.concat (Task.command_ne_setFor _)
    case seen =>
      intro earlier a later hsplit
      rw [hjournal] at hsplit
      rcases List.eq_nil_or_concat later with rfl | ⟨later, last, rfl⟩
      · -- this is the attempt that has just been made
        obtain ⟨rfl, hlast⟩ := List.append_inj' hsplit rfl
        cases hlast
        exact h.known
      · rw [List.concat_eq_append, ← List.cons_append, ← List.append_assoc] at hsplit
        exact h.seen _ _ _ (List.append_inj' hsplit rfl).1

theorem run_ledger {s : Scene κ} (h : Ledger task first s) (turns : List (Turn κ)) :
    Ledger task first (run task turns s) := by
  induction turns generalizing s with
  | nil => exact h
  | cons e turns ih => exact ih (turn_ledger h e)

/-- A thread that has made an insertion writes its key, in every attempt that is carried out
and finds it free. -/
theorem Ledger.wrote {s : Scene κ} (h : Ledger task first s) {i : κ} {service key : String}
    {span : Duration} (htask : task i = .insert service key span) {a : Attempt κ}
    (ha : a ∈ s.attempts i) (hruns : a.fate.runs = true)
    (hfree : a.before.has a.instant (entryKey service key) = false) :
    a.Wrote (entryKey service key) (expireSeconds span) := by
  obtain ⟨hmem, hthread⟩ := List.mem_filter.mp ha
  refine ⟨?_, hruns, hfree⟩
  rw [h.sent a hmem, of_decide_eq_true hthread, htask]
  rfl

/-- Two attempts that write one key are a lifetime apart. -/
theorem Ledger.apart {s : Scene κ} (h : Ledger task first s) {a b : Attempt κ}
    (ha : a ∈ s.journal) (hb : b ∈ s.journal) (hne : a ≠ b) {key : String} {m n : Nat}
    (hwrote : a.Wrote key m) (hwrites : b.Wrote key n) :
    a.instant + m * Duration.perSecond ≤ b.instant ∨
    b.instant + n * Duration.perSecond ≤ a.instant := by
  obtain ⟨earlier, later, hsplit⟩ := List.append_of_mem hb
  rw [hsplit] at ha
  rcases List.mem_append.mp ha with ha | ha
  · exact Or.inl ((h.seen earlier b later hsplit).apart ha hwrote hwrites)
  · obtain ⟨between, later, rfl⟩ :=
      List.append_of_mem ((List.mem_cons.mp ha).resolve_left hne)
    have hseen := h.seen (earlier ++ b :: between) a later (by rw [hsplit]; simp)
    exact Or.inr (hseen.apart (by simp) hwrites hwrote)

end Ledger

/-! ## What a call answers -/

section Answers

variable {κ : Type} {task : Task} {attempts : List (Attempt κ)} {answer : Result Bool}

/-- A call makes an attempt, and no more than it may. -/
theorem Settled.length (h : Settled task attempts answer) :
    1 ≤ attempts.length ∧ attempts.length ≤ maxAttempts := by
  obtain ⟨earlier, last, rfl, hmax, -⟩ := h
  exact ⟨by simp, hmax⟩

/-- A call is answered exactly if one of its attempts is heard, and otherwise it fails. -/
theorem Settled.failed_iff (h : Settled task attempts answer) :
    (∃ reason, answer = .error (.storage reason)) ↔
      attempts.length = maxAttempts ∧ ∀ a ∈ attempts, a.fate ≠ .heard := by
  obtain ⟨earlier, last, rfl, -, hfailed, hlast⟩ := h
  cases hfate : last.fate.failure? with
  | none =>
    rw [hfate] at hlast
    rw [hlast]
    constructor
    · rintro ⟨_, h⟩
      cases h
    · rintro ⟨-, h⟩
      exact absurd (Fate.failure?_eq_none.mp hfate) (h last (by simp))
  | some reason =>
    rw [hfate] at hlast
    obtain ⟨hlength, rfl⟩ := hlast
    refine ⟨fun _ => ⟨hlength, ?_⟩, fun _ => ⟨_, rfl⟩⟩
    intro a ha
    rcases List.mem_append.mp ha with ha | ha
    · exact hfailed a ha
    · cases List.mem_singleton.mp ha
      intro hheard
      cases hfate.symm.trans (Fate.failure?_eq_none.mpr hheard)

/-- A yes or a no is what the last attempt has found. -/
theorem Settled.found {b : Bool} (h : Settled task attempts (.ok b)) :
    ∃ earlier last, attempts = earlier ++ [last] ∧ (∀ a ∈ earlier, a.fate ≠ .heard) ∧
      last.fate = .heard ∧ b = task.verdict (last.before.has last.instant task.entry) := by
  obtain ⟨earlier, last, hattempts, -, hfailed, hlast⟩ := h
  cases hfate : last.fate.failure? with
  | none =>
    rw [hfate] at hlast
    exact ⟨earlier, last, hattempts, hfailed, Fate.failure?_eq_none.mp hfate,
      Except.ok.inj hlast⟩
  | some reason =>
    rw [hfate] at hlast
    cases hlast.2

end Answers

/-! ## The result -/

section Winners

variable {κ : Type} [DecidableEq κ]

/-- **One winner.** Any calls of any threads meet at a server, in any order, and any of
their attempts may fail, before or after the command is carried out. An insertion that is
answered with yes has written its key. What two threads write under one name they write a
lifetime apart. A call that is answered has made at least one attempt and at most
`maxAttempts`; the first that was heard has decided, and if there was none the answer is a
failure. With enough turns a call is answered, with what the call on the store gives. -/
theorem one_winner (task : κ → Task) (first : Server) (turns : List (Turn κ)) :
    let s := run task turns (.start κ first)
    (∀ i service key span, task i = .insert service key span →
      s.progress i = .answered (.ok true) →
      ∃ a ∈ s.attempts i, a.Wrote (entryKey service key) (expireSeconds span)) ∧
    (∀ i j, i ≠ j → ∀ a ∈ s.attempts i, ∀ b ∈ s.attempts j, ∀ key m n, a.Wrote key m →
      b.Wrote key n →
      a.instant + m * Duration.perSecond ≤ b.instant ∨
      b.instant + n * Duration.perSecond ≤ a.instant) ∧
    (∀ i answer, s.progress i = .answered answer → Settled (task i) (s.attempts i) answer ∧
      1 ≤ (s.attempts i).length ∧ (s.attempts i).length ≤ maxAttempts ∧
      ((∃ reason, answer = .error (.storage reason)) ↔
        (s.attempts i).length = maxAttempts ∧ ∀ a ∈ s.attempts i, a.fate ≠ .heard)) ∧
    ∀ i, maxAttempts ≤ (turns.filter (·.thread = i)).length → s.progress i = .answered
      ((task i).call (World.link task i) ⟨.start κ first, turns⟩).run.1 := by
  intro s
  have hledger : Ledger task first s := run_ledger (ledger_start task first) turns
  have settled : ∀ i answer, s.progress i = .answered answer →
    Settled (task i) (s.attempts i) answer := by
    intro i answer hanswer
    have htracks := hledger.tracks i
    rw [hanswer] at htracks
    exact htracks
  refine ⟨?_, ?_, ?_, fun i hturns => answered_of_turns task i turns first hturns⟩
  · intro i service key span htask hyes
    obtain ⟨earlier, last, hattempts, -, hheard, hfound⟩ := (settled i _ hyes).found
    have hlast : last ∈ s.attempts i := by simp [hattempts]
    rw [htask] at hfound
    have hfree : last.before.has last.instant (entryKey service key) = false := by
      simpa [Task.verdict, Task.entry] using hfound
    exact ⟨last, hlast, hledger.wrote htask hlast (by rw [hheard]; rfl) hfree⟩
  · intro i j hne a ha b hb key m n hwrote hwrites
    obtain ⟨ha, hi⟩ := List.mem_filter.mp ha
    obtain ⟨hb, hj⟩ := List.mem_filter.mp hb
    refine hledger.apart ha hb ?_ hwrote hwrites
    rintro rfl
    exact hne ((of_decide_eq_true hi).symm.trans (of_decide_eq_true hj))
  · intro i answer hanswer
    have h := settled i answer hanswer
    exact ⟨h, h.length.1, h.length.2, h.failed_iff⟩

/-- Two insertions of a key for a second, of which one cannot reach the server until the
other's key has expired. Both are answered with yes. A look in between is never heard, and
fails. -/
theorem second_winner_after_expiry :
    let task : Fin 3 → Task :=
      fun i => if i = 2 then .look "s" "k" else .insert "s" "k" (.ofSeconds 1)
    let turns : List (Turn (Fin 3)) :=
      [⟨0, 1, .unsent "reset"⟩, ⟨1, 0, .heard⟩, ⟨2, 2, .unheard "reset"⟩,
        ⟨3, 1, .unsent "reset"⟩, ⟨4, 2, .unheard "reset"⟩, ⟨5, 2, .unheard "reset"⟩,
        ⟨1000000001, 1, .heard⟩]
    let s := run task turns (.start (Fin 3) ⟨[]⟩)
    s.progress 0 = .answered (.ok true) ∧ s.progress 1 = .answered (.ok true) ∧
      s.progress 2 = .answered (.error (failure "reset")) ∧
      (∃ a ∈ s.attempts 0, a.Wrote "s:dpop:replay:k" 1) ∧
      (∃ a ∈ s.attempts 1, a.Wrote "s:dpop:replay:k" 1) ∧
      Settled (task 2) (s.attempts 2) (.error (failure "reset")) := by
  intro task turns s
  have h := one_winner task ⟨[]⟩ turns
  have hfirst : s.progress 0 = .answered (.ok true) := by rfl
  have hsecond : s.progress 1 = .answered (.ok true) := by rfl
  have hlook : s.progress 2 = .answered (.error (failure "reset")) := by rfl
  exact ⟨hfirst, hsecond, hlook, h.1 0 _ _ _ rfl hfirst, h.1 1 _ _ _ rfl hsecond,
    (h.2.2.1 2 _ hlook).1⟩

end Winners

end Possession.Replay.Redis
