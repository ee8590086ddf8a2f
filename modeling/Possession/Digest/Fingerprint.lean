import Possession.Digest.Sha2
import Possession.Text.Base64Url

/-!
# Fingerprints

A fingerprint is the SHA-256 digest of an octet string in base64url: 43 digits.
-/

namespace Possession.Digest

def fingerprint (data : Bytes) : String := Text.Base64Url.encode (sha256 data)

/-- Whether two texts agree octet for octet, by a comparison that does not stop at the first
difference. Fingerprints that a client presents are compared with it. -/
def sameText (a b : String) : Bool := Bytes.sameAs (Bytes.ofString a) (Bytes.ofString b)

end Possession.Digest
