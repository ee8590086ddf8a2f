/-!
# Durations

Spans of time in whole nanoseconds, and their text in the largest unit that leaves a whole
part.
-/

namespace Possession

structure Duration where
  nanos : Nat
deriving Repr, DecidableEq, Inhabited

namespace Duration

def perSecond : Nat := 1000000000

def ofSeconds (n : Nat) : Duration := ⟨n * perSecond⟩

def ofMillis (n : Nat) : Duration := ⟨n * 1000000⟩

def seconds (d : Duration) : Nat := d.nanos / perSecond

/-- Nanoseconds beyond the whole seconds. -/
def subNanos (d : Duration) : Nat := d.nanos % perSecond

/-- Digits behind the point for a remainder of a power of ten, without zeros at the end. -/
def fraction (digits rest : Nat) : List Char :=
  let ds := Nat.toDigits 10 rest
  let padded := List.replicate (digits - ds.length) '0' ++ ds
  let shown := (padded.reverse.dropWhile (· = '0')).reverse
  if shown.isEmpty then [] else '.' :: shown

/-- The text of a span in units of `10 ^ digits` nanoseconds. -/
def inUnit (digits : Nat) (name : String) (nanos : Nat) : String :=
  String.ofList
    (Nat.toDigits 10 (nanos / Nat.pow 10 digits) ++
      fraction digits (nanos % Nat.pow 10 digits)) ++ name

/-- The text of a span, as the messages about deadlines and lifetimes show it: in the
largest unit that leaves a whole part, with as many digits behind the point as are
needed. -/
def text (d : Duration) : String :=
  if d.nanos ≥ perSecond then inUnit 9 "s" d.nanos
  else if d.nanos ≥ 1000000 then inUnit 6 "ms" d.nanos
  else if d.nanos ≥ 1000 then inUnit 3 "µs" d.nanos
  else inUnit 0 "ns" d.nanos

end Duration

end Possession
