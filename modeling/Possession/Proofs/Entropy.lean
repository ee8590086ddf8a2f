import Possession.Entropy
import Possession.Proofs.Bytes

/-!
# Drawing from a script

A script is a source of octets that are known before they are drawn. Here it is drawn from
any number of times, each time any number of octets, and some of these draws ask for more
than is left:

> `script_serves_prefix`: the octets that are given, one draw after the other, are the
> script from its beginning, as far as the draws that succeed reach; a draw succeeds exactly
> if as many octets are left as it asks for; and one that fails might as well not have been
> made: the draws behind it answer what they would have answered without it.

The argument is where the source stands between two draws: it holds the script without the
octets that have been given, and these are as many as the draws so far that succeed have
asked for (`remains_script`). A log of draws is taken apart at any of them into the draws
before, this one, and the draws behind (`split_log`).
-/

namespace Possession.Entropy

/-- A draw that has taken place. -/
structure Drawing where
  size : Nat
  before : Entropy
  answer : Result (Octets size)
  after : Entropy

/-- The octets that a draw has given. -/
def Drawing.octets? (d : Drawing) : Option Bytes := d.answer.toOption.map Octets.bytes

/-- A draw of `n` octets from a source, with all that is to be known of it. -/
def drawing (e : Entropy) (n : Nat) : Drawing := ⟨n, e, (e.draw n).1, (e.draw n).2⟩

/-- Draws of so many octets each, one after the other. -/
def log : Entropy → List Nat → List Drawing
  | _, [] => []
  | e, n :: sizes => e.drawing n :: (e.drawing n).after.log sizes

/-- What draws leave of a source. -/
def remains : Entropy → List Nat → Entropy
  | e, [] => e
  | e, n :: sizes => (e.drawing n).after.remains sizes

/-- The octets that are given in draws, in their order. -/
def given (ds : List Drawing) : Bytes := (ds.filterMap Drawing.octets?).flatten

/-- How many octets the draws that succeed have asked for. -/
def taken (ds : List Drawing) : Nat :=
  ((ds.filter fun d => d.octets?.isSome).map Drawing.size).sum

/-! ## Logs -/

section Logs

variable {e : Entropy} {sizes : List Nat} {earlier later : List Drawing} {d : Drawing}

theorem log_append (e : Entropy) (front back : List Nat) :
    e.log (front ++ back) = e.log front ++ (e.remains front).log back := by
  induction front generalizing e with
  | nil => rfl
  | cons n front ih =>
    rw [List.cons_append, log, ih]
    rfl

/-- A draw in a log comes from what the draws before it have left, and the draws behind it
from what it leaves. -/
theorem split_log (h : e.log sizes = earlier ++ d :: later) :
    ∃ front n back, sizes = front ++ n :: back ∧
    earlier = e.log front ∧ d = (e.remains front).drawing n ∧ later = d.after.log back := by
  induction earlier generalizing e sizes with
  | nil =>
    -- it is the first draw of all
    cases sizes with
    | nil => cases h
    | cons n back =>
      obtain ⟨hd, hlater⟩ := List.cons.inj h
      exact ⟨[], n, back, rfl, rfl, hd.symm, hd ▸ hlater.symm⟩
  | cons first earlier ih =>
    cases sizes with
    | nil => cases h
    | cons m sizes =>
      obtain ⟨rfl, htail⟩ := List.cons.inj h
      obtain ⟨front, n, back, rfl, rfl, hd, hlater⟩ := ih htail
      exact ⟨m :: front, n, back, rfl, rfl, hd, hlater⟩

theorem map_size_log (e : Entropy) (sizes : List Nat) :
    (e.log sizes).map Drawing.size = sizes := by
  induction sizes generalizing e with
  | nil => rfl
  | cons n sizes ih =>
    rw [log, List.map_cons, ih]
    rfl

theorem length_log (e : Entropy) (sizes : List Nat) :
    (e.log sizes).length = sizes.length := by
  rw [← List.length_map (f := Drawing.size), map_size_log]

/-- If a draw leaves its source as it is, the others are what they are without it. -/
theorem log_eraseIdx (h : e.log sizes = earlier ++ d :: later)
    (hkept : d.after = d.before) :
    e.log (sizes.eraseIdx earlier.length) = earlier ++ later := by
  obtain ⟨front, n, back, rfl, rfl, rfl, rfl⟩ := split_log h
  rw [length_log, List.eraseIdx_append_of_length_le (Nat.le_refl _), Nat.sub_self,
    List.eraseIdx_cons_zero, log_append, hkept]
  rfl

end Logs

/-! ## Draws from a script -/

section Script

variable {left : Bytes} {n : Nat}

theorem drawing_of_le (h : n ≤ left.length) :
    (script left).drawing n = ⟨n, script left, .ok (.fit n left),
      script (left.drop n)⟩ := by
  unfold drawing
  rw [draw_script_of_le h]

theorem drawing_of_lt (h : left.length < n) :
    (script left).drawing n = ⟨n, script left, .error (shortage n left.length),
      script left⟩ := by
  unfold drawing
  rw [draw_script_of_lt h]

/-- Where a script stands: the octets that have been given are gone from it, and no
others. -/
theorem remains_script (octets : Bytes) (sizes : List Nat) :
    taken ((script octets).log sizes) ≤ octets.length ∧
      given ((script octets).log sizes) = octets.take (taken ((script octets).log sizes)) ∧
      (script octets).remains sizes =
        script (octets.drop (taken ((script octets).log sizes))) := by
  induction sizes generalizing octets with
  | nil => exact ⟨Nat.zero_le _, rfl, rfl⟩
  | cons n sizes ih =>
    rw [log, remains]
    rcases Nat.lt_or_ge octets.length n with hshort | henough
    · -- nothing is given and nothing is gone
      rw [drawing_of_lt hshort]
      exact ih octets
    · obtain ⟨hle, hgiven, hremains⟩ := ih (octets.drop n)
      rw [drawing_of_le henough]
      have htaken : ∀ ds,
        taken (⟨n, script octets, .ok (.fit n octets), script (octets.drop n)⟩ :: ds) =
          n + taken ds := fun ds => rfl
      have hgives : ∀ ds,
        given (⟨n, script octets, .ok (.fit n octets), script (octets.drop n)⟩ :: ds) =
          octets.take n ++ given ds := by
        intro ds
        rw [← Octets.bytes_fit_of_le henough]
        rfl
      rw [htaken, hgives]
      dsimp only
      rw [List.length_drop] at hle
      refine ⟨by omega, ?_, ?_⟩
      · rw [hgiven, List.take_add]
      · rw [hremains, List.drop_drop]

/-- Each draw finds the script without what was given before it. -/
theorem drawing_of_log {octets : Bytes} {sizes : List Nat} {earlier later : List Drawing}
    {d : Drawing} (h : (script octets).log sizes = earlier ++ d :: later) :
    ∃ n, d = (script (octets.drop (taken earlier))).drawing n := by
  obtain ⟨front, n, back, -, rfl, rfl, -⟩ := split_log h
  obtain ⟨-, -, hremains⟩ := remains_script octets front
  exact ⟨n, by rw [hremains]⟩

end Script

/-- What is promised of draws from a script. -/
structure ServesPrefix (octets : Bytes) (sizes : List Nat) : Prop where
  /-- All draws are made, in their order. -/
  made : ((script octets).log sizes).map Drawing.size = sizes
  /-- The octets that are given are as many as the draws that succeed ask for, and the
  script begins with them. -/
  prefixed : taken ((script octets).log sizes) ≤ octets.length ∧
    given ((script octets).log sizes) = octets.take (taken ((script octets).log sizes))
  /-- A draw succeeds if as many octets are left as it asks for. -/
  succeeds : ∀ earlier d later, (script octets).log sizes = earlier ++ d :: later →
    ((∃ o, d.answer = .ok o) ↔ d.size ≤ octets.length - taken earlier)
  /-- A draw that fails says how many were wanted and how many are left; it leaves the
  source as it is, and without it the draws before and behind it are the same. -/
  fails : ∀ earlier d later, (script octets).log sizes = earlier ++ d :: later →
    (∀ o, d.answer ≠ .ok o) →
    d.answer = .error (shortage d.size (octets.length - taken earlier)) ∧
    d.after = d.before ∧
      (script octets).log (sizes.eraseIdx earlier.length) = earlier ++ later

/-- **A script serves what it begins with, and a draw that fails takes nothing.** For every
script and every sequence of draws from it, whatever they ask for: the draws that succeed
give the script from its beginning, each draw succeeds exactly if there is enough left, and
the others take no part. -/
theorem script_serves_prefix (octets : Bytes) (sizes : List Nat) :
    ServesPrefix octets sizes := by
  obtain ⟨hle, hgiven, -⟩ := remains_script octets sizes
  refine ⟨map_size_log _ _, ⟨hle, hgiven⟩, ?_, ?_⟩
  · intro earlier d later h
    obtain ⟨n, rfl⟩ := drawing_of_log h
    rw [← List.length_drop]
    -- what was given before does not matter any more
    generalize octets.drop (taken earlier) = left
    rcases Nat.lt_or_ge left.length n with hshort | henough
    · rw [drawing_of_lt hshort]
      exact iff_of_false nofun (Nat.not_le_of_lt hshort)
    · rw [drawing_of_le henough]
      exact iff_of_true ⟨_, rfl⟩ henough
  · intro earlier d later h hfails
    have hwithout := log_eraseIdx h
    obtain ⟨n, rfl⟩ := drawing_of_log h
    rw [← List.length_drop]
    generalize octets.drop (taken earlier) = left at hfails hwithout ⊢
    rcases Nat.lt_or_ge left.length n with hshort | henough
    · rw [drawing_of_lt hshort] at hwithout ⊢
      exact ⟨rfl, rfl, hwithout rfl⟩
    · rw [drawing_of_le henough] at hfails
      exact absurd rfl (hfails _)

/-- Of four octets three are drawn, then two, which fails, and then one: the fourth. -/
example : given ((script [1, 2, 3, 4]).log [3, 2, 1]) = [1, 2, 3, 4] ∧
    ((script [1, 2, 3, 4]).log [3, 2, 1]).map Drawing.octets? =
      [some [1, 2, 3], none, some [4]] := by
  decide

end Possession.Entropy
