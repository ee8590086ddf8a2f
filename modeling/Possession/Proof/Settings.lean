import Possession.Clock
import Possession.Config.Decode
import Possession.Duration
import Possession.Replay.Mode

/-!
# Settings of a verifier

A proof is fresh while its age stays within a window on either side of the present. Its
replay key has to be remembered for longer than the window is wide as a whole, or a proof
could be used again while it is fresh; `Settings.validate` sees to that.
-/

namespace Possession.Proof

structure Settings where
  /-- Seconds by which a proof may be older or younger than the present. -/
  windowSecs : UInt64 := 15
  /-- Seconds for which a replay key is remembered. -/
  ttlSecs : UInt64 := 60
  /-- Milliseconds that a call on the replay store may take. -/
  timeoutMillis : Option UInt64 := none
  /-- How a replay key is used up. -/
  mode : Replay.Mode := .lookThenRegister
deriving Repr, DecidableEq, Inhabited

/-- A product that stops at the end of the range. Twice a window that is too large is then
the largest word, which no lifetime exceeds, and such settings are refused. -/
def UInt64.mulClamped (a b : UInt64) : UInt64 := 
  UInt64.ofNat (min (a.toNat * b.toNat) Decimal.maxWord)

namespace Settings

/-- Whether the settings fit together. A key has to be remembered for strictly longer than
twice the window: a proof may be a window ahead of the clock when it is used, and is fresh
until it is a window behind. -/
def validate (s : Settings) : Result Unit :=
  if s.windowSecs = 0 then .error (.configuration "freshness_window_secs must be positive")
  else if s.ttlSecs ≤ UInt64.mulClamped s.windowSecs 2 then
    .error (.configuration ("replay_ttl_secs (" ++ toString s.ttlSecs.toNat ++
      ") must exceed twice the freshness window (" ++ toString s.windowSecs.toNat ++ ")"))
  else if s.timeoutMillis = some 0 then
    .error (.configuration "store_timeout_ms must be positive when set")
  else .ok ()

/-- The window in signed seconds, as the age of a proof is compared with it. Settings that
pass the check have a window that is in range anyway. -/
def window (s : Settings) : Int64 := Int64.clamp s.windowSecs.toNat

def ttl (s : Settings) : Duration := .ofSeconds s.ttlSecs.toNat

def timeout (s : Settings) : Option Duration :=
  s.timeoutMillis.map fun n => .ofMillis n.toNat

def toJson (s : Settings) : Json :=
  .obj [("freshness_window_secs", .int s.windowSecs.toNat),
    ("replay_ttl_secs", .int s.ttlSecs.toNat),
    ("store_timeout_ms", (s.timeoutMillis.map fun n => Json.int n.toNat).getD .null),
    ("replay_mode", .str s.mode.name)]

open Json in
/-- Settings read from named members; what is absent keeps its default. -/
def ofMembers (members : List (String × Json)) : Decoded Settings := do
  let standard : Settings := {}
  let windowSecs ← field "freshness_window_secs" decodeUInt64 members
  let mode ← field "replay_mode" Replay.Mode.ofJson members
  let ttlSecs ← field "replay_ttl_secs" decodeUInt64 members
  let timeoutMillis ← field "store_timeout_ms" (decodeOption decodeUInt64) members
  return ⟨windowSecs.getD standard.windowSecs, ttlSecs.getD standard.ttlSecs,
    timeoutMillis.getD standard.timeoutMillis, mode.getD standard.mode⟩

open Json in
/-- Settings read from a list; what is absent keeps its default. -/
def ofItems (items : List Json) : Decoded Settings := do
  let standard : Settings := {}
  let windowSecs ← itemD 0 standard.windowSecs decodeUInt64 items
  let ttlSecs ← itemD 1 standard.ttlSecs decodeUInt64 items
  let timeoutMillis ← itemD 2 standard.timeoutMillis (decodeOption decodeUInt64) items
  let mode ← itemD 3 standard.mode Replay.Mode.ofJson items
  return ⟨windowSecs, ttlSecs, timeoutMillis, mode⟩

def ofJson : Json → Json.Decoded Settings :=
  Json.decodeRecord "DpopConfig" 4 ofMembers fun _ => ofItems

open Config in
/-- The settings in a configuration; what is absent keeps its default. -/
def ofConfig (root : Value) : Except Mismatch Settings := do
  let standard : Settings := {}
  let windowSecs ← field "freshness_window_secs" decodeUInt64 root
  let mode ← field "replay_mode" (decodeName "ReplayMode" Replay.Mode.named) root
  let ttlSecs ← field "replay_ttl_secs" decodeUInt64 root
  let timeoutMillis ← field "store_timeout_ms" (decodeOption decodeUInt64) root
  return ⟨windowSecs.getD standard.windowSecs, ttlSecs.getD standard.ttlSecs,
    timeoutMillis.getD standard.timeoutMillis, mode.getD standard.mode⟩

end Settings

end Possession.Proof
