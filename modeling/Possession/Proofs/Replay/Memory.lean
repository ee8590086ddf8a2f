import Mathlib.Data.List.Nodup
import Possession.Replay.Memory

/-!
# The store in memory, key by key

`Replay.Memory` keeps a list of entries and a proof that no key occurs twice. Everything
else in this library looks at a store through one function only, `Memory.expiry?`: the
instant at which a key expires, or nothing. This file says what each operation does to that
view:

> `expiry?_eq_some_iff`: the view is the list, because no key occurs twice;
> `expiry?_write_self`, `expiry?_write_ne`: a write changes one key;
> `expiry?_clean`: a clean-up forgets exactly the keys whose instant has come.

A key is live at an instant if it expires later (`isLive_iff`), and a write succeeds if the
clock can show the instant at which its lifetime ends (`expiry_eq_ok_iff`).
-/

namespace Possession.Replay.Memory

/-- A store says of a key what its list of entries says: a second entry for the key would
have to be the first one again. -/
theorem expiry?_eq_some_iff {m : Memory} {key : String} {expires : Nat} :
    m.expiry? key = some expires ↔ (key, expires) ∈ m.entries := by
  unfold expiry?
  rw [Option.map_eq_some_iff]
  constructor
  · intro h
    obtain ⟨⟨k, e⟩, hfind, rfl⟩ := h
    have hk : k = key := by simpa using List.find?_some hfind
    subst hk
    exact List.mem_of_find?_eq_some hfind
  · intro hmem
    obtain ⟨found, hfind⟩ : ∃ found, m.entries.find? (·.1 == key) = some found := by
      rw [← Option.isSome_iff_exists, List.find?_isSome]
      exact ⟨(key, expires), hmem, beq_self_eq_true key⟩
    have hk : found.1 = key := by simpa using List.find?_some hfind
    have hsame : found = (key, expires) :=
      List.inj_on_of_nodup_map m.nodup (List.mem_of_find?_eq_some hfind) hmem hk
    exact ⟨found, hfind, by rw [hsame]⟩

/-! ## What the operations change -/

@[simp] theorem expiry?_write_self (m : Memory) (key : String) (expires : Nat) :
    (m.write key expires).expiry? key = some expires := by
  rw [expiry?_eq_some_iff]
  exact List.mem_cons_self ..

/-- A write touches no other key. -/
theorem expiry?_write_ne {m : Memory} {key other : String} (expires : Nat)
    (h : other ≠ key) : (m.write key expires).expiry? other = m.expiry? other := by
  apply Option.ext
  intro e
  rw [expiry?_eq_some_iff, expiry?_eq_some_iff]
  show (other, e) ∈ (key, expires) :: m.entries.filter (·.1 ≠ key) ↔ _
  rw [List.mem_cons, List.mem_filter]
  constructor
  · intro hmem
    rcases hmem with he | ⟨he, -⟩
    · exact absurd (congrArg Prod.fst he) h
    · exact he
  · intro he
    exact Or.inr ⟨he, by simpa using h⟩

/-- A clean-up keeps exactly the keys that expire later. -/
theorem expiry?_clean {m : Memory} {now : Nat} {key : String} {expires : Nat} :
    (m.clean now).expiry? key = some expires ↔
      m.expiry? key = some expires ∧ now < expires := by
  rw [expiry?_eq_some_iff, expiry?_eq_some_iff]
  show (key, expires) ∈ m.entries.filter (now < ·.2) ↔ _
  rw [List.mem_filter, decide_eq_true_iff]

/-- A key is live at an instant if it expires later. -/
theorem isLive_iff {m : Memory} {now : Nat} {key : String} :
    m.isLive now key = true ↔ ∃ expires, m.expiry? key = some expires ∧ now < expires := by
  unfold isLive
  rw [Option.any_eq_true]
  simp only [decide_eq_true_eq]

/-- A key that was just written is live until its instant comes. -/
theorem isLive_write_self (m : Memory) (now : Nat) (key : String) (expires : Nat) :
    (m.write key expires).isLive now key = decide (now < expires) := by
  unfold isLive
  rw [expiry?_write_self]
  rfl

/-! ## Lifetimes -/

/-- A lifetime is refused exactly if the clock cannot show the instant at which it ends. -/
theorem expiry_eq_ok_iff {now expires : Nat} {ttl : Duration} :
    expiry now ttl = .ok expires ↔ expires = now + ttl.nanos ∧ expires < clockEnd := by
  unfold expiry
  split
  next h =>
    constructor
    · intro he
      cases he
      exact ⟨rfl, h⟩
    · intro h
      obtain ⟨rfl, -⟩ := h
      rfl
  next h =>
    constructor
    · intro he
      cases he
    · intro h
      obtain ⟨rfl, hlt⟩ := h
      exact absurd hlt h

/-- A lifetime that is refused is a failure of the store. -/
theorem expiry_eq_error {now : Nat} {ttl : Duration} (h : clockEnd ≤ now + ttl.nanos) :
    expiry now ttl =
      .error (.storage ("Replay TTL " ++ ttl.text ++ " is out of range")) := by
  unfold expiry
  rw [if_neg (Nat.not_lt.mpr h)]

/-- A lifetime that is not refused ends its own length later. -/
theorem expiry_eq_ok {now : Nat} {ttl : Duration} (h : now + ttl.nanos < clockEnd) :
    expiry now ttl = .ok (now + ttl.nanos) :=
  expiry_eq_ok_iff.mpr ⟨rfl, h⟩

end Possession.Replay.Memory
