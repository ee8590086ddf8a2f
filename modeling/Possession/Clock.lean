import Possession.Error

/-!
# Clocks

Times are signed 64-bit counts of seconds or milliseconds since the epoch. A clock is a
value with three behaviours: it is set to a second, to a millisecond, or it fails.
-/

namespace Possession

/-- The 64-bit integer nearest to a number. Differences and products of times stop at the
ends of the range instead of running over it, so that no pair of times makes an old proof
look new. -/
def Int64.clamp (n : Int) : Int64 :=
  if n < Int64.minValue.toInt then Int64.minValue
  else if n > Int64.maxValue.toInt then Int64.maxValue
  else Int64.ofInt n

def Int64.subClamped (a b : Int64) : Int64 := clamp (a.toInt - b.toInt)

def Int64.mulClamped (a b : Int64) : Int64 := clamp (a.toInt * b.toInt)

/-- A source of the current time. A failing clock stands for a system whose time lies before
the epoch. -/
inductive Clock where
  | seconds (now : Int64)
  | millis (now : Int64)
  | failing (cause : Error)
deriving Repr, DecidableEq

namespace Clock

/-- The current second. Milliseconds are rounded down, before the epoch as well as after
it. -/
def now : Clock → Result Int64
  | seconds t => .ok t
  | millis t => .ok (Int64.ofInt (t.toInt.fdiv 1000))
  | failing e => .error e

/-- The current millisecond. A clock of whole seconds answers the start of its second, or
the end of the range. -/
def nowMillis : Clock → Result Int64
  | seconds t => .ok (Int64.mulClamped t 1000)
  | millis t => .ok t
  | failing e => .error e

/-- Moves a clock of whole seconds, around the end of the range; the others do not move. -/
def advance (secs : Int64) : Clock → Clock
  | seconds t => seconds (t + secs)
  | c => c

end Clock

end Possession
