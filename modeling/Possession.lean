import Possession.Config.Source
import Possession.Jose.Signer
import Possession.Proof.Prover
import Possession.Proof.Verifier
import Possession.Proofs.Token.Opening
import Possession.Proofs.Verifier.AtMostOnce
import Possession.Replay.Memory
import Possession.Replay.Redis
import Possession.Replay.Script
import Possession.Token.Settings
import Possession.Proofs.Token.Acceptance
import Possession.Proofs.Verifier.Checks
import Possession.Proofs.Verifier.Interleaving
import Possession.Proofs.Jose.RoundTrip
import Possession.Proofs.Verifier.Agreement
import Possession.Proofs.Config.Environment
import Possession.Proofs.Jose.Envelope
import Possession.Proofs.Verifier.Footprint
import Possession.Proofs.Token.Splicing
import Possession.Proofs.Token.EnvironmentSecret
import Possession.Proofs.Jose.Identity
import Possession.Proofs.Replay.Lifetimes
import Possession.Proofs.Replay.LostReply
import Possession.Proofs.Replay.LastWrite
import Possession.Proofs.Verifier.Modes
import Possession.Proofs.Verifier.Age
import Possession.Proofs.Token.Alphabet
import Possession.Proofs.Token.Timestamp
import Possession.Proofs.Jose.Thumbprint
import Possession.Proofs.Text.Cut
import Possession.Proofs.Token.Grammar
import Possession.Proofs.Token.Routing
import Possession.Proofs.Jose.ClaimSet
import Possession.Proofs.Web.Canonical
import Possession.Proofs.Token.Draws
import Possession.Proofs.Categories
import Possession.Proofs.Jose.SelfSigned
import Possession.Proofs.Token.WordArithmetic
import Possession.Proofs.Entropy
