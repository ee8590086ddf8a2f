import Mathlib.Data.List.Induction
import Possession.Proofs.Replay.Lifetimes

/-!
# The last write decides

A store in memory keeps entries that have long expired, until somebody cleans up. Nobody who
calls it needs to know that. This file says what a run of queries comes to:

> `last_write_decides`: a key is found exactly if the last write of it is still running, it
> is inserted exactly if it is not found, a failure changes nothing, a clean-up removes the
> keys that would not be found and counts them, and no call can tell whether there was a
> clean-up before it.

Of an entry only one thing is ever seen, whether its instant is still to come. So the proofs
compare stores by the keys that are live from some instant on:

> `Alike`: two stores have the same live keys from an instant on.

A clean-up leaves a store like itself (`clean_alike`), and like stores stay alike under one
query and answer a call with one voice (`apply_alike`, `answer_eq`); along a run in order
this gives `calls_log`. For the history of a key, what a query writes is named (`write?`):
apart from clean-ups it is all that a query does to a store (`apply_eq`). A key that is
written is live for as long as the write says, any other is as live as it was
(`isLive_apply_of_write?`, `isLive_apply_of_write?_ne`).
-/

namespace Possession.Replay.Memory

/-- What a store may be asked: an operation, how many keys it holds, or whether it holds
none. -/
inductive Query where
  | operation (o : Operation)
  | size
  | isEmpty
deriving DecidableEq

/-- A query at an instant. -/
structure Inquiry where
  instant : Nat
  query : Query
deriving DecidableEq

/-- What a query is answered with. -/
inductive Outcome where
  | told (r : Result Bool)
  | done (r : Result Unit)
  | counted (n : Nat)

/-- A query has failed. -/
def Outcome.Failed : Outcome → Prop
  | told r => ∃ e, r = .error e
  | done r => ∃ e, r = .error e
  | counted _ => False

/-- A query is a call of one of the three operations on keys. -/
def Query.isCall : Query → Bool
  | operation (.call _) => true
  | _ => false

/-- A query is a clean-up. -/
def Query.isClean : Query → Bool
  | operation .clean => true
  | _ => false

theorem Query.isClean_iff {q : Query} : q.isClean = true ↔ q = .operation .clean := by
  cases q with
  | operation o => cases o <;> simp [isClean]
  | size => simp [isClean]
  | isEmpty => simp [isClean]

namespace Inquiry

/-- The answer to a query. A clean-up tells how many keys it has removed. -/
def answer (q : Inquiry) (m : Memory) : Outcome :=
  match q.query with
  | .operation (.call (.contains key)) => .told ((store q.instant).contains key m).run.1
  | .operation (.call (.register key ttl)) =>
    .done ((store q.instant).register key ttl m).run.1
  | .operation (.call (.insertIfAbsent key ttl)) =>
    .told ((store q.instant).insertIfAbsent key ttl m).run.1
  | .operation .clean => .counted (m.size - (m.clean q.instant).size)
  | .size => .counted m.size
  | .isEmpty => .told (.ok (decide (m.size = 0)))

/-- What a query writes: a key, for a span of time. -/
def write? (q : Inquiry) (m : Memory) : Option (String × Duration) :=
  match q.query with
  | .operation (.call (.register key ttl)) =>
    if q.instant + ttl.nanos < clockEnd then some (key, ttl) else none
  | .operation (.call (.insertIfAbsent key ttl)) =>
    if q.instant + ttl.nanos < clockEnd ∧ m.isLive q.instant key = false then some (key, ttl)
    else none
  | _ => none

/-- The store after a query. -/
def apply (q : Inquiry) (m : Memory) : Memory :=
  match q.query with
  | .operation o => Step.apply ⟨q.instant, o⟩ m
  | .size | .isEmpty => m

end Inquiry

/-- A query with its answer. -/
abbrev Visit := Inquiry × Outcome

/-- A visit has written a key for a span of time: it has registered it, or inserted it as a
new one. -/
def Visit.Wrote (v : Visit) (key : String) (ttl : Duration) : Prop :=
  v.1.query = .operation (.call (.register key ttl)) ∧ v.2 = .done (.ok ()) ∨
    v.1.query = .operation (.call (.insertIfAbsent key ttl)) ∧ v.2 = .told (.ok true)

/-- The store after a run of queries. -/
def final (steps : List Inquiry) (m : Memory) : Memory :=
  steps.foldl (fun m q => q.apply m) m

/-- A run of queries with their answers. -/
def log : List Inquiry → Memory → List Visit
  | [], _ => []
  | q :: steps, m => (q, q.answer m) :: log steps (q.apply m)

/-- Instants never go back. -/
def Ascending (steps : List Inquiry) : Prop :=
  steps.Pairwise fun a b => a.instant ≤ b.instant

/-- The last write of a key in a log was at an instant, for a span of time. -/
def LastWrite (visits : List Visit) (key : String) (s : Nat) (ttl : Duration) : Prop :=
  ∃ before v later, visits = before ++ v :: later ∧ v.Wrote key ttl ∧ v.1.instant = s ∧
    ∀ w ∈ later, ∀ span, ¬ Visit.Wrote w key span

/-- A run without its clean-ups. -/
def withoutCleans (steps : List Inquiry) : List Inquiry :=
  steps.filter fun q => !q.query.isClean

/-- The calls of a log, with their answers. -/
def calls (visits : List Visit) : List Visit := visits.filter fun v => v.1.query.isCall

/-- The keys that a store holds and would not be found. -/
def denied (m : Memory) (t : Nat) : List String :=
  (m.entries.map (·.1)).filter fun key => ((store t).contains key m).run.1 matches .ok false

/-- What is promised of one query, on a store that has answered others before. -/
structure Inquiry.Lawful (q : Inquiry) (visits : List Visit) (m : Memory) : Prop where
  found : ∀ key, q.query = .operation (.call (.contains key)) →
    (q.answer m = .told (.ok true) ↔
      ∃ s ttl, LastWrite visits key s ttl ∧ q.instant < s + ttl.nanos)
  inserted : ∀ key ttl, q.query = .operation (.call (.insertIfAbsent key ttl)) →
    q.instant + ttl.nanos < clockEnd →
    (q.answer m = .told (.ok true) ↔ ((store q.instant).contains key m).run.1 = .ok false)
  failed : (q.answer m).Failed → q.apply m = m
  cleaned : q.query = .operation .clean →
    q.answer m = .counted (m.denied q.instant).length ∧
    (q.apply m).entries = m.entries.filter fun e => e.1 ∉ m.denied q.instant

/-! ## Stores with the same live keys -/

/-- Two stores have the same live keys from an instant on. -/
def Alike (now : Nat) (a b : Memory) : Prop :=
  ∀ key t, now ≤ t → a.isLive t key = b.isLive t key

variable {m a b c : Memory} {now t : Nat} {key : String}

theorem Alike.refl (now : Nat) (m : Memory) : Alike now m m := fun _ _ _ => rfl

theorem Alike.trans (hab : Alike now a b) (hbc : Alike now b c) : Alike now a c :=
  fun key t ht => (hab key t ht).trans (hbc key t ht)

theorem Alike.symm (h : Alike now a b) : Alike now b a := fun key t ht => (h key t ht).symm

theorem Alike.mono (h : Alike now a b) (ht : now ≤ t) : Alike t a b :=
  fun key u hu => h key u (Nat.le_trans ht hu)

/-- A write makes no other key live. -/
theorem isLive_write_ne {other : String} (expires : Nat) (h : key ≠ other) :
    (m.write other expires).isLive t key = m.isLive t key := by
  unfold isLive
  rw [expiry?_write_ne expires h]

/-- Stores that are alike are alike after the same write. -/
theorem Alike.write (h : Alike now a b) (other : String) (expires : Nat) :
    Alike now (a.write other expires) (b.write other expires) := by
  intro key t ht
  by_cases hsame : key = other
  · subst hsame
    rw [isLive_write_self, isLive_write_self]
  · rw [isLive_write_ne expires hsame, isLive_write_ne expires hsame]
    exact h key t ht

/-- A clean-up leaves a store with the same live keys. -/
theorem clean_alike (now : Nat) (m : Memory) : Alike now (m.clean now) m := by
  intro key t ht
  rw [Bool.eq_iff_iff, isLive_iff, isLive_iff]
  constructor
  · intro h
    obtain ⟨expires, hkey, hlt⟩ := h
    exact ⟨expires, (expiry?_clean.mp hkey).1, hlt⟩
  · intro h
    obtain ⟨expires, hkey, hlt⟩ := h
    exact ⟨expires, expiry?_clean.mpr ⟨hkey, Nat.lt_of_le_of_lt ht hlt⟩, hlt⟩

/-! ## One query -/

/-- A visit has written what its query writes. -/
theorem wrote_iff {q : Inquiry} {ttl : Duration} :
    Visit.Wrote (q, q.answer m) key ttl ↔ q.write? m = some (key, ttl) := by
  obtain ⟨t, query⟩ := q
  cases query with
  | size => simp [Visit.Wrote, Inquiry.write?]
  | isEmpty => simp [Visit.Wrote, Inquiry.write?]
  | operation o =>
    cases o with
    | clean => simp [Visit.Wrote, Inquiry.write?]
    | call event =>
      cases event with
      | contains other => simp [Visit.Wrote, Inquiry.write?]
      | register other span =>
        by_cases hend : t + span.nanos < clockEnd
        · simp [Visit.Wrote, Inquiry.write?, Inquiry.answer, run_register,
            expiry_eq_ok hend, hend]
        · have hover := expiry_eq_error (Nat.not_lt.mp hend)
          simp [Visit.Wrote, Inquiry.write?, Inquiry.answer, run_register, hover, hend]
      | insertIfAbsent other span =>
        by_cases hend : t + span.nanos < clockEnd
        · cases hlive : m.isLive t other <;>
            simp [Visit.Wrote, Inquiry.write?, Inquiry.answer, run_insertIfAbsent,
              expiry_eq_ok hend, hend, hlive]
        · have hover := expiry_eq_error (Nat.not_lt.mp hend)
          simp [Visit.Wrote, Inquiry.write?, Inquiry.answer, run_insertIfAbsent,
            hover, hend]

/-- A query that is no clean-up writes what it writes, and changes nothing else. -/
theorem apply_eq {q : Inquiry} (h : q.query ≠ .operation .clean) (m : Memory) :
    q.apply m = match q.write? m with
      | some (key, ttl) => m.write key (q.instant + ttl.nanos)
      | none => m := by
  obtain ⟨t, query⟩ := q
  cases query with
  | size => rfl
  | isEmpty => rfl
  | operation o =>
    cases o with
    | clean => exact absurd rfl h
    | call event =>
      cases event with
      | contains other => rfl
      | register other span =>
        show ((store t).register other span m).run.2 = _
        by_cases hend : t + span.nanos < clockEnd
        · simp [Inquiry.write?, run_register, expiry_eq_ok hend, hend]
        · simp [Inquiry.write?, run_register, expiry_eq_error (Nat.not_lt.mp hend), hend]
      | insertIfAbsent other span =>
        show ((store t).insertIfAbsent other span m).run.2 = _
        by_cases hend : t + span.nanos < clockEnd
        · cases hlive : m.isLive t other <;>
            simp [Inquiry.write?, run_insertIfAbsent, expiry_eq_ok hend, hend, hlive]
        · simp [Inquiry.write?, run_insertIfAbsent,
            expiry_eq_error (Nat.not_lt.mp hend), hend]

theorem apply_of_clean {q : Inquiry} (h : q.query = .operation .clean) (m : Memory) :
    q.apply m = m.clean q.instant := by
  unfold Inquiry.apply
  rw [h]
  rfl

/-- Stores that are alike have the same written into them. -/
theorem write?_eq {q : Inquiry} (h : Alike q.instant a b) : q.write? a = q.write? b := by
  unfold Inquiry.write?
  split
  next => rfl
  next other _ _ => rw [h other q.instant (Nat.le_refl _)]
  next => rfl

/-- A query of stores that are alike leaves them alike. -/
theorem apply_alike {q : Inquiry} (h : Alike q.instant a b) :
    Alike q.instant (q.apply a) (q.apply b) := by
  by_cases hclean : q.query = .operation .clean
  · rw [apply_of_clean hclean, apply_of_clean hclean]
    exact ((clean_alike q.instant a).trans h).trans (clean_alike q.instant b).symm
  · rw [apply_eq hclean, apply_eq hclean, write?_eq h]
    cases q.write? b with
    | none => exact h
    | some written => exact h.write written.1 _

/-- Stores that are alike answer a call in the same way. -/
theorem answer_eq {q : Inquiry} (hcall : q.query.isCall = true) (h : Alike q.instant a b) :
    q.answer a = q.answer b := by
  obtain ⟨t, query⟩ := q
  cases query with
  | size => cases hcall
  | isEmpty => cases hcall
  | operation o =>
    cases o with
    | clean => cases hcall
    | call event =>
      have hlive := fun key => h key t (Nat.le_refl _)
      cases event with
      | contains key => exact congrArg (fun live => Outcome.told (.ok live)) (hlive key)
      | register key ttl =>
        show Outcome.done _ = Outcome.done _
        rw [run_register, run_register]
        cases expiry t ttl <;> rfl
      | insertIfAbsent key ttl =>
        show Outcome.told _ = Outcome.told _
        rw [run_insertIfAbsent, run_insertIfAbsent, hlive key]
        cases expiry t ttl with
        | error e => rfl
        | ok expires => cases b.isLive t key <;> rfl

/-- A query that fails has written nothing. -/
theorem apply_of_failed {q : Inquiry} (h : (q.answer m).Failed) : q.apply m = m := by
  have hclean : q.query ≠ .operation .clean := by
    intro hq
    unfold Inquiry.answer at h
    rw [hq] at h
    exact h
  rw [apply_eq hclean]
  cases hwrite : q.write? m with
  | none => rfl
  | some written =>
    exfalso
    have hwrote : Visit.Wrote (q, q.answer m) written.1 written.2 := wrote_iff.mpr hwrite
    rcases hwrote with ⟨-, hdone⟩ | ⟨-, htold⟩
    · change q.answer m = .done (.ok ()) at hdone
      rw [hdone] at h
      obtain ⟨e, he⟩ := h
      cases he
    · change q.answer m = .told (.ok true) at htold
      rw [htold] at h
      obtain ⟨e, he⟩ := h
      cases he

/-- What is to be inserted for a lifetime that the clock can show is new exactly if it is
not live. -/
theorem insertIfAbsent_eq_true_iff {ttl : Duration} (hend : t + ttl.nanos < clockEnd) :
    ((store t).insertIfAbsent key ttl m).run.1 = .ok true ↔ m.isLive t key = false := by
  rw [run_insertIfAbsent, expiry_eq_ok hend]
  cases m.isLive t key <;> simp

/-! ## Clean-ups -/

/-- An entry is found exactly if its instant is still to come. -/
theorem isLive_of_mem {e : String × Nat} (he : e ∈ m.entries) (t : Nat) :
    m.isLive t e.1 = decide (t < e.2) := by
  unfold isLive
  rw [expiry?_eq_some_iff.mpr he]
  rfl

theorem denied_eq (m : Memory) (t : Nat) :
    m.denied t = (m.entries.map (·.1)).filter fun key => !m.isLive t key := by
  refine List.filter_congr fun key _ => ?_
  show ((.ok (m.isLive t key) : Result Bool) matches .ok false) = _
  cases m.isLive t key <;> rfl

theorem mem_denied_iff {e : String × Nat} (he : e ∈ m.entries) :
    e.1 ∈ m.denied t ↔ m.isLive t e.1 = false := by
  rw [denied_eq, List.mem_filter, Bool.not_eq_true']
  exact and_iff_right (List.mem_map_of_mem he)

/-- A clean-up removes just the entries that would not be found. -/
theorem entries_clean (m : Memory) (t : Nat) :
    (m.clean t).entries = m.entries.filter fun e => e.1 ∉ m.denied t := by
  refine List.filter_congr fun e he => ?_
  simp only [mem_denied_iff he, isLive_of_mem he, decide_eq_false_iff_not, not_not]

/-- What a clean-up removes is what would not be found. -/
theorem size_sub_size_clean (m : Memory) (t : Nat) :
    m.size - (m.clean t).size = (m.denied t).length := by
  have hkept : (m.clean t).entries = m.entries.filter fun e => m.isLive t e.1 :=
    List.filter_congr fun e he => (isLive_of_mem he t).symm
  have hdenied :
    (m.denied t).length = (m.entries.filter fun e => !m.isLive t e.1).length := by
    rw [denied_eq, List.filter_map, List.length_map]
    rfl
  -- what is kept and what is denied make up the whole
  have hboth := List.length_eq_length_filter_add (l := m.entries) fun e => m.isLive t e.1
  unfold size
  rw [hkept, hdenied]
  omega

/-! ## The history of a key -/

/-- A key that has been written is live until its time is over. -/
theorem isLive_apply_of_write? {q : Inquiry} {ttl : Duration}
    (h : q.write? m = some (key, ttl)) (t : Nat) :
    (q.apply m).isLive t key = decide (t < q.instant + ttl.nanos) := by
  have hclean : q.query ≠ .operation .clean := by
    intro hq
    unfold Inquiry.write? at h
    rw [hq] at h
    cases h
  rw [apply_eq hclean, h]
  exact isLive_write_self ..

/-- A key that has not been written is as live as it was. -/
theorem isLive_apply_of_write?_ne {q : Inquiry} (h : ∀ ttl, q.write? m ≠ some (key, ttl))
    (ht : q.instant ≤ t) : (q.apply m).isLive t key = m.isLive t key := by
  by_cases hclean : q.query = .operation .clean
  · rw [apply_of_clean hclean]
    exact clean_alike q.instant m key t ht
  · rw [apply_eq hclean]
    cases hwrite : q.write? m with
    | none => rfl
    | some written =>
      refine isLive_write_ne _ fun hsame => ?_
      subst hsame
      exact h written.2 hwrite

/-- The last visit of a log decides about the last write of a key, if it writes the key. -/
theorem lastWrite_concat_iff {visits : List Visit} {v : Visit} {s : Nat} {ttl : Duration} :
    LastWrite (visits ++ [v]) key s ttl ↔ v.Wrote key ttl ∧ v.1.instant = s ∨
      (∀ span, ¬ v.Wrote key span) ∧ LastWrite visits key s ttl := by
  constructor
  · rintro ⟨before, w, later, hsplit, hwrote, hinstant, hnone⟩
    -- the split is at the last visit, or the last visit is among the later ones
    rcases List.eq_nil_or_concat' later with rfl | ⟨rest, u, rfl⟩
    · obtain ⟨-, hlast⟩ := List.append_inj' hsplit rfl
      cases hlast
      exact Or.inl ⟨hwrote, hinstant⟩
    · rw [← List.cons_append, ← List.append_assoc] at hsplit
      obtain ⟨hvisits, hlast⟩ := List.append_inj' hsplit rfl
      cases hlast
      exact Or.inr ⟨hnone v (by simp),
        before, w, rest, hvisits, hwrote, hinstant, fun x hx => hnone x (by simp [hx])⟩
  · rintro (⟨hwrote, hinstant⟩ | ⟨hnot, before, w, later, rfl, hwrote, hinstant, hnone⟩)
    · exact ⟨visits, v, [], rfl, hwrote, hinstant, nofun⟩
    · refine ⟨before, w, later ++ [v], by simp, hwrote, hinstant, fun x hx => ?_⟩
      rcases List.mem_append.mp hx with hx | hx
      · exact hnone x hx
      · cases List.mem_singleton.mp hx
        exact hnot

theorem final_concat (steps : List Inquiry) (q : Inquiry) (m : Memory) :
    final (steps ++ [q]) m = q.apply (final steps m) := List.foldl_concat ..

theorem log_concat (steps : List Inquiry) (q : Inquiry) (m : Memory) :
    log (steps ++ [q]) m = log steps m ++ [(q, q.answer (final steps m))] := by
  induction steps generalizing m with
  | nil => rfl
  | cons p steps ih =>
    show (p, p.answer m) :: log (steps ++ [q]) (p.apply m) = _
    rw [ih]
    rfl

/-- A key is live exactly if its last write is still running, whatever has been asked in the
meantime. -/
theorem isLive_iff_lastWrite {steps : List Inquiry} (ht : ∀ q ∈ steps, q.instant ≤ t) :
    (final steps empty).isLive t key = true ↔
      ∃ s ttl, LastWrite (log steps empty) key s ttl ∧ t < s + ttl.nanos := by
  -- the last query of the run is the one that may have written the key
  induction steps using List.reverseRecOn with
  | nil =>
    constructor
    · intro h
      cases h
    · rintro ⟨s, ttl, ⟨before, v, later, hsplit, -⟩, -⟩
      exact absurd hsplit (by simp [log])
  | append_singleton steps q ih =>
    have hbefore := ih fun p hp => ht p (List.mem_append_left _ hp)
    rw [final_concat, log_concat]
    simp only [lastWrite_concat_iff, wrote_iff]
    by_cases hwrite : ∃ span, q.write? (final steps empty) = some (key, span)
    · obtain ⟨span, hwrite⟩ := hwrite
      rw [isLive_apply_of_write? hwrite, decide_eq_true_iff]
      constructor
      · intro hlt
        exact ⟨q.instant, span, Or.inl ⟨hwrite, rfl⟩, hlt⟩
      · rintro ⟨s, ttl, ⟨hwrite', rfl⟩ | ⟨hnot, -⟩, hlt⟩
        · cases hwrite.symm.trans hwrite'
          exact hlt
        · exact absurd hwrite (hnot span)
    · have hnot : ∀ span, q.write? (final steps empty) ≠ some (key, span) :=
        fun span h => hwrite ⟨span, h⟩
      rw [isLive_apply_of_write?_ne hnot (ht q (by simp)), hbefore]
      simp [hnot]

/-! ## Runs with and without clean-ups -/

/-- The calls of a run are answered as they would be without any clean-up, on stores that
are alike at the start. -/
theorem calls_log {steps : List Inquiry} (hsteps : Ascending steps)
    (hnow : ∀ q ∈ steps, now ≤ q.instant) (h : Alike now a b) :
    calls (log steps a) = calls (log (withoutCleans steps) b) := by
  induction steps generalizing a b now with
  | nil => rfl
  | cons q steps ih =>
    obtain ⟨hfirst, hsteps⟩ := List.pairwise_cons.mp hsteps
    have hq : Alike q.instant a b := h.mono (hnow q (List.mem_cons_self ..))
    -- a clean-up is made on one side only, and leaves that store like the other
    cases hclean : q.query.isClean with
    | true =>
      have hquery : q.query = .operation .clean := Query.isClean_iff.mp hclean
      have herased : withoutCleans (q :: steps) = withoutCleans steps := by
        simp [withoutCleans, hclean]
      have hdropped : calls (log (q :: steps) a) = calls (log steps (q.apply a)) := by
        simp [log, calls, hquery, Query.isCall]
      rw [herased, hdropped, apply_of_clean hquery]
      exact ih hsteps hfirst ((clean_alike q.instant a).trans hq)
    | false =>
      have hkept : withoutCleans (q :: steps) = q :: withoutCleans steps := by
        simp [withoutCleans, hclean]
      have hrest := ih hsteps hfirst (apply_alike hq)
      rw [hkept]
      cases hcall : q.query.isCall with
      | true => simpa [log, calls, hcall, answer_eq hcall hq] using hrest
      | false => simpa [log, calls, hcall] using hrest

/-! ## The whole -/

/-- Every query of a run that begins with an empty store is answered as promised. -/
theorem lawful_of_ascending {before later : List Inquiry} {q : Inquiry}
    (h : Ascending (before ++ q :: later)) :
    q.Lawful (log before empty) (final before empty) := by
  have hpast : ∀ p ∈ before, p.instant ≤ q.instant := fun p hp =>
    (List.pairwise_append.mp h).2.2 p hp q (List.mem_cons_self ..)
  obtain ⟨t, query⟩ := q
  refine ⟨?_, ?_, apply_of_failed, ?_⟩
  · rintro key rfl
    rw [← isLive_iff_lastWrite hpast]
    show Outcome.told (.ok _) = .told (.ok true) ↔ _
    simp
  · rintro key ttl rfl hend
    show Outcome.told _ = .told (.ok true) ↔ _
    rw [Outcome.told.injEq, insertIfAbsent_eq_true_iff hend]
    exact Except.ok.injEq _ _ ▸ Iff.rfl
  · rintro rfl
    exact ⟨congrArg Outcome.counted (size_sub_size_clean _ t), entries_clean _ t⟩

/-- **The last write decides.** In a run of queries at instants that never go back, every
query is answered as promised, and the calls are answered as in any other run that differs
from it in clean-ups only. -/
theorem last_write_decides {steps : List Inquiry} (hsteps : Ascending steps) :
    (∀ before q later, steps = before ++ q :: later →
        q.Lawful (log before empty) (final before empty)) ∧
      ∀ others, Ascending others → withoutCleans others = withoutCleans steps →
        calls (log others empty) = calls (log steps empty) := by
  constructor
  · rintro before q later rfl
    exact lawful_of_ascending hsteps
  · intro others hothers hsame
    have hfrom : ∀ {run : List Inquiry}, ∀ q ∈ run, 0 ≤ q.instant :=
      fun _ _ => Nat.zero_le _
    rw [calls_log hothers hfrom (Alike.refl 0 empty),
      calls_log hsteps hfrom (Alike.refl 0 empty), hsame]

/-- Of two keys one expires at once. Cleaned up or not, the other is found and this one is
inserted again; the clean-up removes one key, and only how many keys there are tells the two
runs apart. -/
theorem cleaned_run_answers_alike :
    let registered : List Inquiry :=
      [⟨0, .operation (.call (.register "k" (.ofSeconds 60)))⟩,
      ⟨0, .operation (.call (.register "gone" ⟨0⟩))⟩]
    let asked : List Inquiry := [⟨5, .size⟩, ⟨6, .operation (.call (.contains "k"))⟩,
      ⟨6, .operation (.call (.insertIfAbsent "gone" (.ofSeconds 1)))⟩]
    let cleaned : List Inquiry := registered ++ ⟨5, .operation .clean⟩ :: asked
    let kept : List Inquiry := registered ++ asked
    Ascending cleaned ∧ Ascending kept ∧ withoutCleans kept = withoutCleans cleaned ∧
      calls (log kept empty) = calls (log cleaned empty) ∧
      (Inquiry.mk 5 .size).answer (final registered empty) = .counted 2 ∧
      (Inquiry.mk 5 .size).answer (final (registered ++ [⟨5, .operation .clean⟩]) empty) =
        .counted 1 ∧
      (Inquiry.mk 5 (.operation .clean)).Lawful (log registered empty)
        (final registered empty) ∧
      (final registered empty).denied 5 = ["gone"] := by
  intro registered asked cleaned kept
  have hcleaned : Ascending cleaned := by simp [cleaned, registered, asked, Ascending]
  have hkept : Ascending kept := by simp [kept, registered, asked, Ascending]
  have hlaws := last_write_decides hcleaned
  exact ⟨hcleaned, hkept, rfl, hlaws.2 kept hkept rfl, rfl, rfl,
    hlaws.1 registered _ asked rfl, rfl⟩

end Possession.Replay.Memory
