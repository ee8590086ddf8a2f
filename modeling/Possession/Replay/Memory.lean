import Possession.Replay.Store

/-!
# A replay store in memory

Each key is kept with the instant at which it expires, in nanoseconds since the start of the
machine's clock. An operation happens at one instant and takes no time. Expired keys count
as absent; they stay until the next clean-up or until they are written again.
-/

namespace Possession.Replay

/-- The keys of a store, each with the instant of its expiry. No key is listed twice, so a
write replaces what was known of a key. -/
structure Memory where
  entries : List (String × Nat)
  nodup : (entries.map (·.1)).Nodup

namespace Memory

def empty : Memory := ⟨[], List.nodup_nil⟩

/-- The first instant that the clock cannot show: instants are signed 64-bit counts of
seconds, with nanoseconds beside them. -/
def clockEnd : Nat := 9223372036854775808 * Duration.perSecond

/-- When a key written at an instant expires. A lifetime that would end beyond the clock is
refused, not cut. -/
def expiry (now : Nat) (ttl : Duration) : Result Nat :=
  if now + ttl.nanos < clockEnd then .ok (now + ttl.nanos)
  else .error (.storage ("Replay TTL " ++ ttl.text ++ " is out of range"))

def expiry? (m : Memory) (key : String) : Option Nat :=
  (m.entries.find? (·.1 == key)).map (·.2)

/-- Whether a key is there and has not expired. A key that expires at this very instant is
gone. -/
def isLive (m : Memory) (now : Nat) (key : String) : Bool := (m.expiry? key).any (now < ·)

/-- Writes a key. The new expiry stands even if it is the earlier one. -/
def write (m : Memory) (key : String) (expires : Nat) : Memory where
  entries := (key, expires) :: m.entries.filter (·.1 ≠ key)
  nodup := by
    simp only [List.map_cons, List.nodup_cons]
    refine ⟨by simp, ?_⟩
    exact m.nodup.sublist (List.filter_sublist.map _)

def size (m : Memory) : Nat := m.entries.length

def clean (m : Memory) (now : Nat) : Memory where
  entries := m.entries.filter (now < ·.2)
  nodup := m.nodup.sublist (List.filter_sublist.map _)

/-- The store at an instant. Each of its operations takes no time and is one step, an
insertion too. -/
def store (now : Nat) : Store Memory where
  contains key m := .done (.ok (m.isLive now key)) m
  register key ttl m :=
    match expiry now ttl with
    | .error e => .done (.error e) m
    | .ok t => .done (.ok ()) (m.write key t)
  insertIfAbsent key ttl m :=
    match expiry now ttl with
    | .error e => .done (.error e) m
    | .ok t =>
      if m.isLive now key then .done (.ok false) m else .done (.ok true) (m.write key t)

end Memory

end Possession.Replay
