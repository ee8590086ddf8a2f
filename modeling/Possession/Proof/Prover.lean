import Possession.Clock
import Possession.Proof.Envelope
import Possession.Proof.Target

/-!
# Making proofs

A prover states the request in canonical form, draws an identifier, reads the clock, and has
the claims wrapped under its key. It stops at the first of these that fails; an identifier
that was drawn stays used.
-/

namespace Possession.Proof

/-- A maker of proofs: a key that it signs under, a stream for identifiers, and a clock. -/
structure Prover where
  serializer : Serializer
  entropy : Entropy
  clock : Clock

/-- Makes a proof for a request, bound to an access token if there is one. -/
def Prover.prove (p : Prover) (D : Web.Url.DomainReader) (method url : String)
    (token : Option String) : Result String × Prover :=
  match Target.ofRequest D method url with
  | .error e => (.error e, p)
  | .ok target =>
    let (id, entropy) := drawId p.entropy
    let proof : Result String := do
      let jti ← id
      let iat ← p.clock.now
      p.serializer.serialize proofType
        (Claims.toJson ⟨jti, target.method, target.url, iat, token.map tokenHash⟩)
    (proof, { p with entropy })

end Possession.Proof
