import Possession.Error
import Possession.Duration

/-!
# Replay stores

A replay store remembers keys for a while. A call on a store takes time: it is a finite
course of waits, with the state of the store during each, and a result at the end. A caller
with a deadline leaves a call whose waits add up to more, and the store is then left in the
state of the wait in which the deadline passed. A store that cannot insert atomically gets
an insertion from its other two operations, which is their succession.
-/

namespace Possession.Replay

/-- The course of a call that ends with an `α`, on a store with states `σ`. The state is
given for each wait, because a caller may leave there. -/
inductive Call (σ α : Type) where
  | done (result : Result α) (state : σ)
  | wait (nanos : Nat) (state : σ) (next : Call σ α)

namespace Call

variable {σ τ α β : Type}

def andThen (c : Call σ α) (f : α → σ → Call σ β) : Call σ β :=
  match c with
  | done (.ok a) s => f a s
  | done (.error e) s => done (.error e) s
  | wait d s next => wait d s (next.andThen f)

/-- The same course on a store that contains this one. -/
def lift (f : σ → τ) : Call σ α → Call τ α
  | done r s => done r (f s)
  | wait d s next => wait d (f s) (next.lift f)

def run : Call σ α → Result α × σ
  | done r s => (r, s)
  | wait _ _ next => next.run

/-- The outcome within a number of nanoseconds; nothing if they do not suffice. A wait that
takes exactly as long as is left is still waited for. -/
def runWithin (limit : Nat) : Call σ α → Option (Result α) × σ
  | done r s => (some r, s)
  | wait d s next => if limit < d then (none, s) else next.runWithin (limit - d)

end Call

structure Store (σ : Type) where
  /-- Whether a key is remembered. -/
  contains : (key : String) → σ → Call σ Bool
  /-- Remembers a key for at least a span of time. -/
  register : (key : String) → Duration → σ → Call σ Unit
  /-- Remembers a key unless it is remembered already, and tells whether it was new. -/
  insertIfAbsent : (key : String) → Duration → σ → Call σ Bool

namespace Store

variable {σ : Type}

/-- Insertion by looking and then registering. It is not atomic: two of them at a time can
both find the key absent. -/
def lookThenRegister (S : Store σ) (key : String) (ttl : Duration) (s : σ) : Call σ Bool :=
  (S.contains key s).andThen fun found s =>
    if found then .done (.ok false) s
    else (S.register key ttl s).andThen fun _ s => .done (.ok true) s

def plain (S : Store σ) : Store σ := { S with insertIfAbsent := S.lookThenRegister }

end Store

inductive Event where
  | contains (key : String)
  | register (key : String) (ttl : Duration)
  | insertIfAbsent (key : String) (ttl : Duration)
deriving Repr, DecidableEq

/-- A store that writes down each call before it makes it. Leaving the journal out gives
back the store, so what a verifier asks of it can be read off without changing what it
does. -/
def Store.journaled {σ : Type} (S : Store σ) : Store (σ × List Event) where
  contains key s := (S.contains key s.1).lift (·, s.2 ++ [.contains key])
  register key ttl s := (S.register key ttl s.1).lift (·, s.2 ++ [.register key ttl])
  insertIfAbsent key ttl s :=
    (S.insertIfAbsent key ttl s.1).lift (·, s.2 ++ [.insertIfAbsent key ttl])

end Possession.Replay
