import Possession.Digest.Blake2b
import Possession.Text.Base64Url

/-!
# Replay keys

A proof's identifier is never stored: its replay key is a digest of it, so that keys have
one size and identifiers do not leak into a store.
-/

namespace Possession.Replay

/-- The key under which the use of a proof identifier is remembered. -/
def key (jti : String) : String :=
  Text.Base64Url.encode (Digest.blake2b256 (Bytes.ofString jti))

end Possession.Replay
