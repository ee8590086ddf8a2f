import Possession.Config.Decode
import Possession.Token.Kind

/-!
# Settings of a token service

A secret under which tokens are sealed, and the kind of payloads that they carry.
-/

namespace Possession.Token

inductive PayloadKind where
  | random
  | timeOrdered
deriving Repr, DecidableEq, Inhabited

namespace PayloadKind

/-- The kinds by the names that settings use for them. -/
def named : List (String × PayloadKind) :=
  [("random", random), ("time_ordered", timeOrdered)]

def debug : PayloadKind → String
  | random => "Random"
  | timeOrdered => "TimeOrdered"

def source (entropy : Entropy) : PayloadKind → PayloadSource
  | random => .random (.own entropy)
  | timeOrdered => .timeOrdered (.own entropy)

end PayloadKind

structure Settings where
  secret : String
  payload : PayloadKind := .random
deriving Repr, DecidableEq

namespace Settings

open Config in
def ofConfig (root : Value) : Except Mismatch Settings := do
  let payload ← field "payload" (decodeName "PayloadKind" PayloadKind.named) root
  let secret ← field "secret" decodeString root
  return ⟨← require "secret" secret, payload.getD .random⟩

/-- The settings as a diagnostic dump shows them. The secret does not appear, and neither
does its length. -/
def debug (s : Settings) : String :=
  Error.debugRecord "OpaqueTokenConfig"
    [("secret", "Secret([REDACTED alloc::string::String])"), ("payload", s.payload.debug)]

/-- The secret under which tokens are opened. An empty one is found only here, since the
settings may hold any text. -/
def opening (s : Settings) : Result Secret := Secret.ofBytes (Bytes.ofString s.secret)

/-- A maker of tokens that draws nonces and payloads from streams of their own. -/
def mint (s : Settings) (nonces payloads : Entropy) : Result Mint :=
  s.opening.map fun secret => ⟨secret, nonces, s.payload.source payloads⟩

end Settings

def Kind.ofConfig : Config.Decoder Kind :=
  Config.decodeName "TokenKind" (Kind.all.map fun k => (k.name, k))

end Possession.Token
