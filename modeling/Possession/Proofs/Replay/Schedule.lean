import Mathlib.Logic.Function.Basic
import Possession.Replay.Redis

/-!
# Calls over connections that fail

Callers ask one server for keys at the same time, and any attempt of any of them may fail:
before the command reaches the server, or after it has been carried out, so that only the
reply is lost. A caller cannot tell these apart, and sends the command again. Here a call is
a thread, and a schedule says whose next attempt it is, when it takes place, and what
becomes of it. A turn makes one attempt, up to the wait that follows it (`turn`); all
attempts are written down, with what the server had before.

A call on the store, on the other hand, is made over one connection from its beginning to
its end. The connection of a thread among others is `World.link`: at each attempt it waits
for the thread's turn, and the others have theirs. Both are the same:

> `run_call_start`: a thread is answered what its call on the store gives over its
> connection, unless there are not enough turns for that.
-/

namespace Possession.Replay.Redis

/-! ## Attempts -/

/-- What becomes of an attempt. -/
inductive Fate where
  /-- The command does not reach the server. -/
  | unsent (reason : String)
  /-- The command is carried out, and the reply is lost. -/
  | unheard (reason : String)
  | heard
deriving Repr, DecidableEq

/-- Whether the command is carried out. -/
def Fate.runs : Fate → Bool
  | unsent _ => false
  | unheard _ | heard => true

/-- Why there is no reply. -/
def Fate.failure? : Fate → Option String
  | unsent reason | unheard reason => some reason
  | heard => none

theorem Fate.failure?_eq_none {fate : Fate} : fate.failure? = none ↔ fate = .heard := by
  cases fate <;> simp [failure?]

/-- A connection over which one attempt is made. -/
def Server.link (now : Nat) (fate : Fate) : Link Server := fun command s =>
  let (reply, after) := s.execute now command
  (match fate.failure? with
    | none => .ok reply
    | some reason => .error reason,
   if fate.runs then after else s)

/-- What a caller asks of a store. -/
inductive Task where
  | insert (service key : String) (span : Duration)
  | look (service key : String)
deriving Repr, DecidableEq

namespace Task

/-- The full name of the key. -/
def entry : Task → String
  | insert service key _ | look service key => entryKey service key

/-- The command that is sent in each attempt. -/
def command : Task → Command
  | insert service key span => .setNewFor (entryKey service key) (expireSeconds span)
  | look service key => .contains (entryKey service key)

/-- How a reply to it is read. -/
def read : Task → Reply → Except String Bool
  | insert .. => readWritten
  | look .. => readCount

/-- What is answered, if the key was there or was not. -/
def verdict (found : Bool) : Task → Bool
  | insert .. => !found
  | look .. => found

/-- The call on the store. -/
def call {σ : Type} (link : Link σ) (s : σ) : Task → Call σ Bool
  | insert service key span => (store link service).insertIfAbsent key span s
  | look service key => (store link service).contains key s

theorem call_eq {σ : Type} (link : Link σ) (task : Task) (s : σ) :
    task.call link s = tryCommand link task.command task.read (maxAttempts - 1) 1 s := by
  cases task <;> rfl

end Task

/-- How far a call has come. -/
inductive Progress where
  /-- Attempts can be made after the next one, and which one it is. -/
  | trying (left attempt : Nat)
  | answered (answer : Result Bool)

/-- The next attempt of a call: what it does up to the next wait. -/
def Task.advance {σ : Type} (link : Link σ) (left attempt : Nat) (s : σ) (task : Task) :
    Progress × σ :=
  match tryCommand link task.command task.read left attempt s with
  | .done answer s => (.answered answer, s)
  | .wait _ s _ => (.trying (left - 1) (attempt + 1), s)

/-! ## Schedules -/

/-- Whose attempt it is, when it takes place, and what becomes of it. -/
structure Turn (κ : Type) where
  instant : Nat
  thread : κ
  fate : Fate

/-- An attempt that has been made, and the keys that the server had before it. -/
structure Attempt (κ : Type) extends Turn κ where
  command : Command
  before : Server

/-- How far each thread has come, the server, and all attempts so far. -/
structure Scene (κ : Type) where
  progress : κ → Progress
  server : Server
  journal : List (Attempt κ)

namespace Scene

variable {κ : Type}

/-- All threads at their beginning. -/
def start (κ : Type) (first : Server) : Scene κ :=
  ⟨fun _ => .trying (maxAttempts - 1) 1, first, []⟩

/-- The connection of a thread on its turn. -/
def link (e : Turn κ) : Link (Scene κ) := fun command s =>
  let (reply, after) := Server.link e.instant e.fate command s.server
  (reply, { s with server := after, journal := s.journal ++ [⟨e, command, s.server⟩] })

variable [DecidableEq κ]

/-- The same scene, with a thread elsewhere in its call. -/
def set (s : Scene κ) (i : κ) (p : Progress) : Scene κ :=
  { s with progress := Function.update s.progress i p }

/-- The attempts of a thread. -/
def attempts (s : Scene κ) (i : κ) : List (Attempt κ) := s.journal.filter (·.thread = i)

theorem progress_set_self (s : Scene κ) (i : κ) (p : Progress) :
    (s.set i p).progress i = p :=
  Function.update_self ..

theorem progress_set_ne (s : Scene κ) {i j : κ} (h : j ≠ i) (p : Progress) :
    (s.set i p).progress j = s.progress j :=
  Function.update_of_ne h ..

theorem set_self (s : Scene κ) (i : κ) : s.set i (s.progress i) = s := by
  unfold set
  rw [Function.update_eq_self]

end Scene

section Definitions

variable {κ : Type} [DecidableEq κ] (task : κ → Task)

/-- One turn. A call that is over does nothing. -/
def turn (e : Turn κ) (s : Scene κ) : Scene κ :=
  match s.progress e.thread with
  | .answered _ => s
  | .trying left attempt =>
    let (p, s) := (task e.thread).advance (Scene.link e) left attempt s
    s.set e.thread p

/-- All turns of a schedule. -/
def run (turns : List (Turn κ)) (s : Scene κ) : Scene κ :=
  turns.foldl (fun s e => turn task e s) s

theorem run_cons (e : Turn κ) (turns : List (Turn κ)) (s : Scene κ) :
    run task (e :: turns) s = run task turns (turn task e s) := rfl

end Definitions

/-- Time does not go back. -/
def InTurn {κ : Type} (turns : List (Turn κ)) : Prop :=
  turns.Pairwise fun a b => a.instant ≤ b.instant

/-! ## One turn -/

section Turns

variable {κ : Type} {e : Turn κ} {s : Scene κ} {left attempt : Nat}

/-- What a task reads in the reply to its command. -/
theorem Task.read_link (task : Task) (now : Nat) (fate : Fate) (s : Server) :
    (Server.link now fate task.command s).1.bind task.read =
      match fate.failure? with
      | none => .ok (task.verdict (s.has now task.entry))
      | some reason => .error reason := by
  cases fate with
  | unsent reason => rfl
  | unheard reason => rfl
  | heard =>
    show ((Except.ok (s.execute now task.command).1).bind task.read : Except String Bool) =
      .ok _
    cases task with
    | insert service key span =>
      unfold command entry Server.execute
      dsimp only
      cases s.has now (entryKey service key) <;> rfl
    | look service key =>
      unfold command entry Server.execute
      dsimp only
      cases s.has now (entryKey service key) <;> rfl

/-- How far an attempt brings a call. -/
def Task.outcome (e : Turn κ) (left attempt : Nat) (before : Server) (task : Task) :
    Progress :=
  match e.fate.failure? with
  | none => .answered (.ok (task.verdict (before.has e.instant task.entry)))
  | some reason =>
    match left with
    | 0 => .answered (.error (failure reason))
    | left + 1 => .trying left (attempt + 1)

theorem Task.advance_link (task : Task) (e : Turn κ) (left attempt : Nat) (s : Scene κ) :
    task.advance (Scene.link e) left attempt s =
      (task.outcome e left attempt s.server, (Scene.link e task.command s).2) := by
  have hread : ((Scene.link e task.command s).1.bind task.read : Except String Bool) = _ :=
    task.read_link e.instant e.fate s.server
  unfold advance outcome
  cases hfate : e.fate.failure? with
  | none =>
    rw [hfate] at hread
    unfold tryCommand
    simp only [hread]
  | some reason =>
    rw [hfate] at hread
    unfold tryCommand
    simp only [hread]
    cases left <;> rfl

variable [DecidableEq κ] {task : κ → Task} {i : κ}

theorem turn_answered {answer : Result Bool} (h : s.progress e.thread = .answered answer) :
    turn task e s = s := by
  unfold turn
  rw [h]

theorem turn_trying (h : s.progress e.thread = .trying left attempt) :
    turn task e s = (Scene.link e (task e.thread).command s).2.set e.thread
      ((task e.thread).outcome e left attempt s.server) := by
  unfold turn
  rw [h]
  dsimp only
  rw [Task.advance_link]

theorem journal_turn (h : s.progress e.thread = .trying left attempt) :
    (turn task e s).journal = s.journal ++ [⟨e, (task e.thread).command, s.server⟩] := by
  rw [turn_trying h]
  rfl

theorem attempts_turn_self (h : s.progress e.thread = .trying left attempt) :
    (turn task e s).attempts e.thread =
      s.attempts e.thread ++ [⟨e, (task e.thread).command, s.server⟩] := by
  unfold Scene.attempts
  rw [journal_turn h, List.filter_append]
  simp

/-- A turn of one thread leaves the others where they are. -/
theorem turn_ne (hi : i ≠ e.thread) :
    (turn task e s).attempts i = s.attempts i ∧
    (turn task e s).progress i = s.progress i := by
  cases hprogress : s.progress e.thread with
  | answered answer =>
    rw [turn_answered hprogress]
    exact ⟨rfl, rfl⟩
  | trying left attempt =>
    constructor
    · unfold Scene.attempts
      rw [journal_turn hprogress, List.filter_append]
      simp [Ne.symm hi]
    · rw [turn_trying hprogress, Scene.progress_set_ne _ hi]
      rfl

/-- Attempts are made on turns, in their order. -/
theorem run_journal (task : κ → Task) (turns : List (Turn κ)) (s : Scene κ) :
    ∃ made, made.Sublist turns ∧
      (run task turns s).journal.map (·.toTurn) = s.journal.map (·.toTurn) ++ made := by
  induction turns generalizing s with
  | nil => exact ⟨[], List.Sublist.slnil, by simp [run]⟩
  | cons e turns ih =>
    obtain ⟨made, hsub, hmade⟩ := ih (turn task e s)
    rw [run_cons, hmade]
    cases hprogress : s.progress e.thread with
    | answered answer =>
      rw [turn_answered hprogress]
      exact ⟨made, hsub.cons e, rfl⟩
    | trying left attempt =>
      rw [journal_turn hprogress]
      exact ⟨e :: made, hsub.cons_cons e, by simp⟩

theorem journal_inTurn {turns : List (Turn κ)} (h : InTurn turns) (task : κ → Task)
    (first : Server) :
    (run task turns (.start κ first)).journal.Pairwise
      fun a b => a.instant ≤ b.instant := by
  obtain ⟨made, hsub, hmade⟩ := run_journal task turns (.start κ first)
  rw [show (Scene.start κ first).journal = [] from rfl, List.map_nil,
    List.nil_append] at hmade
  have hordered : InTurn made := h.sublist hsub
  rw [← hmade] at hordered
  unfold InTurn at hordered
  rwa [List.pairwise_map] at hordered

end Turns

/-! ## Calls on the store -/

/-- A scene, and the turns that are still to come. -/
structure World (κ : Type) where
  scene : Scene κ
  turns : List (Turn κ)

section Worlds

variable {κ : Type} [DecidableEq κ] (task : κ → Task) (i : κ)

/-- Waits for a thread's turn, while the others have theirs, and makes the attempt. -/
def World.serve (command : Command) : List (Turn κ) → Scene κ →
    Except String Reply × World κ
  | [], s => (.error "no connection", ⟨s, []⟩)
  | e :: turns, s =>
    if e.thread = i then
      let (reply, s) := Scene.link e command s
      (reply, ⟨s, turns⟩)
    else World.serve command turns (turn task e s)

/-- The connection of a thread among others. -/
def World.link : Link (World κ) :=
  fun command w => World.serve task i command w.turns w.scene

end Worlds

section Calls

variable {κ : Type} [DecidableEq κ] {task : κ → Task} {i : κ} {s : Scene κ}

/-- The attempts of a thread do not depend on how far it has come. -/
theorem Scene.link_set (e : Turn κ) (command : Command) (s : Scene κ) (p q : Progress) :
    (link e command (s.set i p)).2.set i q = (link e command s).2.set i q := by
  unfold link set
  rw [Function.update_idem]

/-- Neither do the turns of the others. -/
theorem turn_set {e : Turn κ} (h : e.thread ≠ i) (s : Scene κ) (p : Progress) :
    turn task e (s.set i p) = (turn task e s).set i p := by
  have hsame := s.progress_set_ne h p
  cases hprogress : s.progress e.thread with
  | answered answer =>
    rw [turn_answered hprogress, turn_answered (hsame.trans hprogress)]
  | trying left attempt =>
    rw [turn_trying hprogress, turn_trying (hsame.trans hprogress)]
    unfold Scene.link Scene.set
    rw [Function.update_comm h]

/-- An answer is final. -/
theorem turn_final {answer : Result Bool} (h : s.progress i = .answered answer)
    (e : Turn κ) : (turn task e s).progress i = .answered answer := by
  by_cases hi : i = e.thread
  · subst hi
    rw [turn_answered h]
    exact h
  · rw [(turn_ne hi).2]
    exact h

theorem run_final {answer : Result Bool} (h : s.progress i = .answered answer)
    (turns : List (Turn κ)) : (run task turns s).progress i = .answered answer := by
  induction turns generalizing s with
  | nil => exact h
  | cons e turns ih => exact ih (turn_final h e)

/-- A call up to its first wait, and the rest of it. -/
theorem run_tryCommand {σ α : Type} (link : Link σ) (command : Command)
    (read : Reply → Except String α) (left attempt : Nat) (s : σ) :
    (tryCommand link command read left attempt s).run =
      match (link command s).1.bind read with
      | .ok a => (.ok a, (link command s).2)
      | .error e =>
        match left with
        | 0 => (.error (failure e), (link command s).2)
        | left + 1 =>
          (tryCommand link command read left (attempt + 1) (link command s).2).run := by
  conv => left; unfold tryCommand
  dsimp only
  cases (link command s).1.bind read with
  | ok a => rfl
  | error e => cases left <;> rfl

/-- Without turns no call is answered. -/
theorem run_tryCommand_nil (read : Reply → Except String Bool) (command : Command)
    (left attempt : Nat) (s : Scene κ) : ∃ e,
    (tryCommand (World.link task i) command read left attempt ⟨s, []⟩).run.1 =
      .error e := by
  induction left generalizing attempt with
  | zero =>
    rw [run_tryCommand]
    exact ⟨_, rfl⟩
  | succ left ih =>
    rw [run_tryCommand]
    exact ih (attempt + 1)

theorem World.link_self {e : Turn κ} (h : e.thread = i) (command : Command)
    (turns : List (Turn κ)) (s : Scene κ) : World.link task i command ⟨s, e :: turns⟩ =
      ((Scene.link e command s).1, ⟨(Scene.link e command s).2, turns⟩) := if_pos h

theorem World.link_other {e : Turn κ} (h : e.thread ≠ i) (command : Command)
    (turns : List (Turn κ)) (s : Scene κ) : World.link task i command ⟨s, e :: turns⟩ =
      World.link task i command ⟨turn task e s, turns⟩ := if_neg h

/-- A thread is answered what the call on the store gives over its connection, unless there
are not enough turns for that. -/
theorem run_call (task : κ → Task) (i : κ) (turns : List (Turn κ)) (left attempt : Nat)
    (s : Scene κ) :
    (run task turns (s.set i (.trying left attempt))).progress i =
        .answered (tryCommand (World.link task i) (task i).command (task i).read left attempt
          ⟨s, turns⟩).run.1 ∨
      (turns.filter (·.thread = i)).length ≤ left ∧
        ∃ e, (tryCommand (World.link task i) (task i).command (task i).read left attempt
          ⟨s, turns⟩).run.1 = .error e := by
  induction turns generalizing left attempt s with
  | nil => exact Or.inr ⟨Nat.zero_le _, run_tryCommand_nil ..⟩
  | cons e turns ih =>
    rw [run_cons]
    by_cases hi : e.thread = i
    · subst hi
      -- it is the thread's own turn: the attempt is heard, or it was the last one, or there
      -- are others
      have hread :
        (Scene.link e (task e.thread).command s).1.bind (task e.thread).read = _ :=
        (task e.thread).read_link e.instant e.fate s.server
      rw [turn_trying (s.progress_set_self ..), Scene.link_set, run_tryCommand,
        World.link_self rfl, hread]
      unfold Task.outcome
      dsimp only
      cases e.fate.failure? with
      | none => exact Or.inl (run_final (Scene.progress_set_self ..) turns)
      | some reason =>
        cases left with
        | zero => exact Or.inl (run_final (Scene.progress_set_self ..) turns)
        | succ left =>
          rcases ih left (attempt + 1) (Scene.link e (task e.thread).command s).2 with
            h | ⟨hfew, h⟩
          · exact Or.inl h
          · exact Or.inr ⟨by simpa using hfew, h⟩
    · -- the call is still at its first attempt when the other has had its turn
      rw [turn_set hi, run_tryCommand, World.link_other hi, ← run_tryCommand,
        List.filter_cons_of_neg (by simpa using hi)]
      exact ih left attempt (turn task e s)

section Start

variable (task : κ → Task) (i : κ) (turns : List (Turn κ)) (first : Server)

theorem run_call_start :
    (run task turns (.start κ first)).progress i = .answered
        ((task i).call (World.link task i) ⟨.start κ first, turns⟩).run.1 ∨
      (turns.filter (·.thread = i)).length ≤ maxAttempts - 1 ∧
        ∃ e, ((task i).call (World.link task i) ⟨.start κ first, turns⟩).run.1 =
          .error e := by
  have hstart :
    (Scene.start κ first).set i (.trying (maxAttempts - 1) 1) = .start κ first :=
    Scene.set_self _ i
  have hcall := run_call task i turns (maxAttempts - 1) 1 (.start κ first)
  rwa [hstart, ← Task.call_eq] at hcall

/-- A thread with as many turns as a call may have attempts is answered what the call on the
store gives. -/
theorem answered_of_turns (hturns : maxAttempts ≤ (turns.filter (·.thread = i)).length) :
    (run task turns (.start κ first)).progress i = .answered
      ((task i).call (World.link task i) ⟨.start κ first, turns⟩).run.1 := by
  rcases run_call_start task i turns first with h | ⟨hfew, -⟩
  · exact h
  · unfold maxAttempts at hfew hturns
    omega

/-- So is a thread whose call on the store gives a yes or a no, however many turns it
has. -/
theorem answered_of_ok {b : Bool}
    (h : ((task i).call (World.link task i) ⟨.start κ first, turns⟩).run.1 = .ok b) :
    (run task turns (.start κ first)).progress i = .answered (.ok b) := by
  rcases run_call_start task i turns first with hanswer | ⟨-, e, herror⟩
  · rw [hanswer, h]
  · cases h.symm.trans herror

end Start

end Calls

end Possession.Replay.Redis
