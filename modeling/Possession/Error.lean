import Possession.Text.Quoted

/-!
# Errors

Every operation on tokens and proofs fails with one of eleven causes. `Error.message` is the
one place where a cause becomes text, `Error.category` its stable name. Six of the causes
are *rejections*: they blame what the caller presented, not the service.
-/

namespace Possession

/-- Which claim of a proof failed its check. -/
inductive ValidationCheck where
  | httpMethod
  | httpUrl
  | issuedAtStale
  | issuedAtFuture
deriving Repr, DecidableEq, Inhabited

namespace ValidationCheck

/-- The name of the claim, with the side on which a time is out of range: a stale proof and
one from the future are different faults of a client. -/
def name : ValidationCheck → String
  | httpMethod => "htm"
  | httpUrl => "htu"
  | issuedAtStale => "iat_stale"
  | issuedAtFuture => "iat_future"

/-- The constructor as a diagnostic dump shows it, which is not the name that messages
use. -/
def debug : ValidationCheck → String
  | httpMethod => "HttpMethod"
  | httpUrl => "HttpUrl"
  | issuedAtStale => "IssuedAtStale"
  | issuedAtFuture => "IssuedAtFuture"

def all : List ValidationCheck := [httpMethod, httpUrl, issuedAtStale, issuedAtFuture]

end ValidationCheck

/-- Why an operation failed. The reason is for people; a caller that has to act on a failure
goes by the constructor, by the failed check and by the key that was used twice. -/
inductive Error where
  | argument (reason : String)
  | format (reason : String)
  | validation (check : ValidationCheck) (reason : String)
  | replay (key : String)
  | binding (reason : String)
  | authentication (reason : String)
  | storage (reason : String)
  | entropy (reason : String)
  | source (reason : String)
  | signing (reason : String)
  | configuration (reason : String)
deriving Repr, DecidableEq, Inhabited

namespace Error

/-- The stable name of the cause, for logs and metrics. It stays the same when the wording
of a message changes. -/
def category : Error → String
  | argument _ => "argument"
  | format _ => "format"
  | validation _ _ => "validation"
  | replay _ => "replay"
  | binding _ => "binding"
  | authentication _ => "authentication"
  | storage _ => "storage"
  | entropy _ => "entropy"
  | source _ => "source"
  | signing _ => "signing"
  | configuration _ => "configuration"

def message : Error → String
  | argument r => "Invalid argument: " ++ r
  | format r => "Malformed input: " ++ r
  | validation c r => "Validation failed (" ++ c.name ++ "): " ++ r
  | replay k => "Replay detected for key " ++ k
  | binding r => "Binding mismatch: " ++ r
  | authentication r => "Authentication failed: " ++ r
  | storage r => "Storage error: " ++ r
  | entropy r => "Entropy source failure: " ++ r
  | source r => "Payload source failure: " ++ r
  | signing r => "Signing failed: " ++ r
  | configuration r => "Configuration error: " ++ r

/-- Whether the failure blames the presented request rather than the service. -/
def isRejection : Error → Bool
  | argument _ | format _ | validation _ _ | replay _ | binding _ | authentication _ => true
  | storage _ | entropy _ | source _ | signing _ | configuration _ => false

def check? : Error → Option ValidationCheck
  | validation c _ => some c
  | _ => none

/-- A constructor with its named fields, for a diagnostic dump. -/
def debugRecord (name : String) (fields : List (String × String)) : String :=
  name ++ " \x7b " ++ ", ".intercalate (fields.map fun (k, v) => k ++ ": " ++ v) ++ " \x7d"

def debug : Error → String
  | argument r => debugRecord "Argument" [("reason", Text.quote r)]
  | format r => debugRecord "Format" [("reason", Text.quote r)]
  | validation c r =>
    debugRecord "Validation" [("check", c.debug), ("reason", Text.quote r)]
  | replay k => debugRecord "Replay" [("replay_key", Text.quote k)]
  | binding r => debugRecord "Binding" [("reason", Text.quote r)]
  | authentication r => debugRecord "Authentication" [("reason", Text.quote r)]
  | storage r => debugRecord "Storage" [("reason", Text.quote r)]
  | entropy r => debugRecord "Entropy" [("reason", Text.quote r)]
  | source r => debugRecord "Source" [("reason", Text.quote r)]
  | signing r => debugRecord "Signing" [("reason", Text.quote r)]
  | configuration r => debugRecord "Configuration" [("reason", Text.quote r)]

end Error

abbrev Result (α : Type) := Except Error α

end Possession
