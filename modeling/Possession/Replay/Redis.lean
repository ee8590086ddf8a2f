import Possession.Replay.Store
import Possession.Web.Url
import Possession.Web.Idna

/-!
# A replay store on a Redis server

Keys are written with an expiry in whole seconds, at least one, rounded up. Each operation
is one command, tried at most three times, with a longer wait before each new attempt. What
a server answers to a command is a parameter, so that it may fail before or after a command
takes effect.
-/

namespace Possession.Replay.Redis

def defaultService : String := "tessera"

/-- How often a command is tried, the first time included. -/
def maxAttempts : Nat := 3

/-- A command, with the full name of its key. Only the second way of writing is conditional
on the key being absent. -/
inductive Command where
  | ping
  | contains (key : String)
  | setFor (key : String) (seconds : Nat)
  | setNewFor (key : String) (seconds : Nat)
deriving Repr, DecidableEq

def Command.words : Command → List String
  | ping => ["PING"]
  | contains key => ["EXISTS", key]
  | setFor key seconds => ["SETEX", key, toString seconds, "1"]
  | setNewFor key seconds => ["SET", key, "1", "NX", "EX", toString seconds]

inductive Reply where
  | nothing
  | integer (n : Int)
  | status (text : String)
deriving Repr, DecidableEq

/-- A connection to a server: the reply to a command, or why there is none. That there is
none does not tell whether the command took effect. -/
abbrev Link (σ : Type) := Command → σ → Except String Reply × σ

/-- The expiry of a key that is to live for a span of time. A server takes whole seconds and
no zero, so the span is rounded up and is at least one; it stops at the largest word. -/
def expireSeconds (ttl : Duration) : Nat :=
  max 1 (min Decimal.maxWord (ttl.seconds + if 0 < ttl.subNanos then 1 else 0))

def entryKey (service key : String) : String := service ++ ":dpop:replay:" ++ key

def failure (reason : String) : Error := .storage ("Redis operation failed: " ++ reason)

/-- The wait after an attempt, which grows with each. -/
def pause (attempt : Nat) : Duration := .ofMillis (100 * attempt)

/-- Tries a command until it is answered, at most `left + 1` times. A new attempt does not
know of those before it: a conditional write whose reply was lost may find the key that it
has written itself. -/
def tryCommand {σ α : Type} (link : Link σ) (command : Command)
    (read : Reply → Except String α) : (left attempt : Nat) → σ → Call σ α
  | left, attempt, s =>
    let (reply, s) := link command s
    match reply.bind read with
    | .ok a => .done (.ok a) s
    | .error e =>
      -- the server may have carried the command out all the same
      match left with
      | 0 => .done (.error (failure e)) s
      | left + 1 =>
        .wait (pause attempt).nanos s (tryCommand link command read left (attempt + 1) s)

def readCount : Reply → Except String Bool
  | .integer n => .ok (n ≠ 0)
  | .nothing => .ok false
  | .status text => .error ("unexpected reply " ++ Text.quote text)

def readDone : Reply → Except String Unit := fun _ => .ok ()

/-- Whether a conditional write took place. A server answers nothing at all if the key was
there. -/
def readWritten : Reply → Except String Bool
  | .nothing => .ok false
  | _ => .ok true

/-- The store of a service over a connection. Each operation is a single command, so that an
insertion is one step on the server. -/
def store {σ : Type} (link : Link σ) (service : String) : Store σ where
  contains key s :=
    tryCommand link (.contains (entryKey service key)) readCount (maxAttempts - 1) 1 s
  register key ttl s :=
    tryCommand link (.setFor (entryKey service key) (expireSeconds ttl)) readDone
      (maxAttempts - 1) 1 s
  insertIfAbsent key ttl s :=
    tryCommand link (.setNewFor (entryKey service key) (expireSeconds ttl)) readWritten
      (maxAttempts - 1) 1 s

/-! ## Servers -/

structure Server where
  keys : List (String × Nat)
deriving Repr, DecidableEq

namespace Server

def has (s : Server) (now : Nat) (key : String) : Bool :=
  s.keys.any fun (k, t) => k == key && now < t

/-- Writes a key for a number of seconds, in place of what was known of it. -/
def put (s : Server) (now : Nat) (key : String) (seconds : Nat) : Server :=
  ⟨(key, now + seconds * Duration.perSecond) :: s.keys.filter (·.1 ≠ key)⟩

/-- What a command does at an instant, in one step. -/
def execute (now : Nat) (s : Server) : Command → Reply × Server
  | .ping => (.status "PONG", s)
  | .contains key => (.integer (if s.has now key then 1 else 0), s)
  | .setFor key seconds => (.status "OK", s.put now key seconds)
  | .setNewFor key seconds =>
    if s.has now key then (.nothing, s) else (.status "OK", s.put now key seconds)

end Server

/-! ## Connecting -/

structure Endpoint where
  host : Web.Host
  port : Nat
  database : Int
deriving Repr, DecidableEq

def schemes : List String :=
  ["redis", "rediss", "valkey", "valkeys", "redis+unix", "valkey+unix", "unix"]

inductive BadAddress where
  | notUrl
  | noHost
  | encrypted
  | localSocket
  | database
  | userText
  | passwordText
  | protocol
deriving Repr, DecidableEq

def BadAddress.message (e : BadAddress) : String :=
  (match e with
  | notUrl => "Redis URL did not parse"
  | noHost => "Missing hostname"
  | encrypted => "can't connect with TLS, the feature is not enabled"
  | localSocket => "unix sockets are not available"
  | database => "Invalid database number"
  | userText => "Username is not valid UTF-8 string"
  | passwordText => "Password is not valid UTF-8 string"
  | protocol => "Invalid protocol version") ++ "- InvalidClientConfig"

def defaultPort : Nat := 6379

/-- The number of a database in a path, between slashes that do not count. Where nothing is
left it is zero. -/
def readDatabase (path : List Char) : Option Int :=
  let isSlash (c : Char) : Bool := c = '/'
  let digits (cs : List Char) : Option Int :=
    if !cs.isEmpty && cs.all Char.isDigit then some (Decimal.natOfDigits cs) else none
  let n : Option Int :=
    match ((path.dropWhile isSlash).reverse.dropWhile isSlash).reverse with
    | [] => some 0
    | '-' :: cs => (digits cs).map (-·)
    | '+' :: cs => digits cs
    | cs => digits cs
  n.filter Decimal.fitsInt64

/-- The server of an address. A URL that is well formed may still be of no use, and the
tests for that are made in a fixed order, of which the first to fail is reported. -/
def readAddress (text : String) : Except BadAddress Endpoint := do
  let url ← (Web.Url.parse Web.Idna.toAscii? text).mapError fun _ => BadAddress.notUrl
  if !schemes.contains url.scheme then throw .notUrl
  if ["redis+unix", "valkey+unix", "unix"].contains url.scheme then throw .localSocket
  let some host := url.host | throw .noHost
  if ["rediss", "valkeys"].contains url.scheme then throw .encrypted
  let some database := readDatabase url.path.toList | throw .database
  let isText (s : String) : Bool :=
    (Bytes.toString? (Web.Url.decodePercent s.toList)).isSome
  if !isText url.username then throw .userText
  if !(url.password.all isText) then throw .passwordText
  return ⟨host, url.port.getD defaultPort, database⟩

/-- Connects to a server and greets it. `dial` makes the connection, or says why it cannot.
A store is only had over a connection on which the greeting was answered. -/
def connect {σ : Type} (address : String) (dial : Endpoint → Except String (Link σ × σ)) :
    Result (Link σ × σ) := do
  let endpoint ← (readAddress address).mapError fun e =>
    .storage ("Failed to create Redis client: " ++ e.message)
  let (link, s) ← (dial endpoint).mapError fun e =>
    .storage ("Failed to connect to Redis: " ++ e)
  match link .ping s with
  | (.ok _, s) => .ok (link, s)
  | (.error e, _) => .error (.storage ("Redis ping failed: " ++ e))

end Possession.Replay.Redis
