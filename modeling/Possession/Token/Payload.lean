import Possession.Entropy
import Possession.Clock

/-!
# Token payloads

A payload is sixteen octets. The two generating sources write them as UUIDs: wholly random
ones, and ones that begin with the time in milliseconds so that later payloads sort after
earlier ones. A source is a value; it draws from a stream of its own or from the stream of
its caller.
-/

namespace Possession.Token

abbrev Payload := Octets 16

namespace Payload

def set (p : Payload) (i : Nat) (b : UInt8) : Payload :=
  ⟨p.bytes.set i b, by simp [p.length_eq]⟩

def get (p : Payload) (i : Nat) : UInt8 := p.bytes.getD i 0

/-- Marks a payload as a UUID of a version, in the standard variant. Six of its 128 bits are
overwritten, and these are then the same in all payloads of a source. -/
def stamp (version : UInt8) (p : Payload) : Payload :=
  -- the version is the high half of octet 6, the variant the two high bits of octet 8
  (p.set 6 ((p.get 6 &&& (0x0f : UInt8)) ||| (version <<< 4))).set 8
    ((p.get 8 &&& (0x3f : UInt8)) ||| 0x80)

def random (bytes : Octets 16) : Payload := stamp 4 bytes

/-- A UUID that begins with the low 48 bits of a time in milliseconds. The higher bits of
the time are lost, so that the order is kept only among times that have none. -/
def timeOrdered (millis : Nat) (bytes : Octets 10) : Payload :=
  stamp 7 ((Octets.ofNat 6 millis).append bytes)

def version (p : Payload) : Nat := (p.get 6).toNat / 16

def uuid (p : Payload) : String :=
  let part (i n : Nat) := Bytes.hex ((p.bytes.drop i).take n)
  part 0 4 ++ "-" ++ part 4 2 ++ "-" ++ part 6 2 ++ "-" ++ part 8 2 ++ "-" ++ part 10 6

end Payload

/-- The stream that a payload source draws from. A source with a stream of its own leaves
that of its caller alone; one without draws where the nonces are drawn too. -/
inductive Stream where
  | own (entropy : Entropy)
  | shared
deriving Repr, BEq

inductive PayloadSource where
  | fixed (payload : Payload)
  | failing (cause : Error)
  | random (stream : Stream)
  | timeOrdered (stream : Stream)
deriving Repr

/-- What a draw leaves behind: its result, the source, and the caller's stream. -/
structure Draw (α : Type) where
  result : Result α
  source : PayloadSource
  entropy : Entropy

namespace PayloadSource

/-- Draws `n` octets from a stream; `rebuild` makes the source that goes on with the
rest. -/
def drawFrom (n : Nat) (rebuild : Stream → PayloadSource) (entropy : Entropy) :
    Stream → Draw (Octets n)
  | .own e => let (r, e) := e.draw n; ⟨r, rebuild (.own e), entropy⟩
  | .shared => let (r, e) := entropy.draw n; ⟨r, rebuild .shared, e⟩

/-- The milliseconds that a time-ordered payload begins with. A time before the epoch is
refused; one that is too large for 48 bits is not. -/
def timestamp (clock : Clock) : Result Nat :=
  match clock.nowMillis with
  | .error e => .error (.source e.message)
  | .ok t =>
    if t.toInt < 0 then
      .error (.source ("Timestamp " ++ toString t.toInt ++ "ms out of range for UUIDv7"))
    else .ok t.toInt.toNat

/-- The next payload. A time-ordered source asks the clock before it draws. -/
def next (clock : Clock) (entropy : Entropy) : PayloadSource → Draw Payload
  | fixed p => ⟨.ok p, fixed p, entropy⟩
  | failing e => ⟨.error e, failing e, entropy⟩
  | random s =>
    let d := drawFrom 16 random entropy s
    ⟨d.result.map Payload.random, d.source, d.entropy⟩
  | timeOrdered s =>
    match timestamp clock with
    | .error e => ⟨.error e, timeOrdered s, entropy⟩
    | .ok millis =>
      let d := drawFrom 10 timeOrdered entropy s
      ⟨d.result.map (Payload.timeOrdered millis), d.source, d.entropy⟩

end PayloadSource

end Possession.Token
