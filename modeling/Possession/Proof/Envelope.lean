import Possession.Error
import Possession.Proof.Claims
import Possession.Proof.Key

/-!
# Envelopes

What a prover needs of a signature format and what a verifier needs of it: a way to wrap
claims under a key, and a way to open a wrapping. Everything else about proofs is
independent of the format.
-/

namespace Possession.Proof

/-- A wrapped proof whose outside has been read. Its claims are a function of the key, so
that they cannot be had without saying under which key they are to be authentic. -/
structure Envelope where
  typ : Option String
  key : Option Key
  claims : Key → Result Claims

abbrev Parser := String → Result Envelope

/-- A writer of wrapped proofs under a key of its own. It is given the declared type and the
claim set, and may fail. -/
structure Serializer where
  key : Key
  serialize : (typ : String) → Json → Result String

def proofType : String := "dpop+jwt"

def missingKey : Error := .format "Proof header carries no public key"

namespace Envelope

/-- The thumbprint of the key that came with a proof. -/
def thumbprint (e : Envelope) : Result String :=
  match e.key with
  | some k => .ok k.thumbprint
  | none => .error missingKey

end Envelope

end Possession.Proof
