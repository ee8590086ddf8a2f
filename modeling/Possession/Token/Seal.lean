import Possession.Token.Layout
import Possession.Token.Payload
import Possession.Digest.Hmac

/-!
# Sealing and opening tokens

A token carries its payload in the clear beside a nonce and a message authentication code.
The code covers a fixed domain, the label with its separator, and the payload, under a key
derived from the secret and the nonce. A token opens under a secret exactly if the code is
the one computed again from what the token says.
-/

namespace Possession.Token

/-- The domain that every code covers, so that a code made for another purpose with the same
key is of no use here. -/
def macDomain : Bytes := Bytes.ofString "tessera/opaque-token/v1"

def keyPurpose : Bytes := Bytes.ofString "tessera opaque token mac key v1"

/-- How keys are derived and codes computed. The rest of this module is about any such pair,
so what is proved of tokens does not rest on the strength of either. -/
structure MacScheme where
  derive : (secret nonce : Bytes) → Bytes
  mac : (key message : Bytes) → Octets 32

/-- HKDF for the keys and HMAC for the codes, both with SHA-256. -/
def MacScheme.standard : MacScheme where
  derive secret nonce := Digest.hkdf .sha256 nonce secret keyPurpose 32
  mac key message := .fit 32 (Digest.hmac .sha256 key message)

/-- The message that a code covers: the domain, the label with its separator, and the
payload. The payload has a fixed width, so the message is cut in one way only. -/
def macMessage (label : Option String) (payload : Payload) : Bytes :=
  match label with
  | none => macDomain ++ payload.bytes
  | some l => macDomain ++ Bytes.ofString l ++ Bytes.ofString "_" ++ payload.bytes

/-- A secret under which tokens are sealed and opened. It is never empty. -/
structure Secret where
  bytes : Bytes
  ne_nil : bytes ≠ []

def Secret.ofBytes (bytes : Bytes) : Result Secret :=
  if h : bytes = [] then .error (.configuration "Opaque token secret must not be empty")
  else .ok ⟨bytes, h⟩

/-- The code of a token's contents, under a key that belongs to this nonce alone. -/
def MacScheme.code (M : MacScheme) (secret : Secret) (nonce : Octets 12)
    (label : Option String) (payload : Payload) : Octets 32 :=
  M.mac (M.derive secret.bytes nonce.bytes) (macMessage label payload)

def MacScheme.sealToken (M : MacScheme) (secret : Secret) (nonce : Octets 12)
    (label : Option String) (payload : Payload) : Layout where
  label := label
  payload := Base62.encode payload.bytes Layout.payloadWidth
  sealedBlock :=
    Base62.encode (nonce.append (M.code secret nonce label payload)).bytes
      Layout.sealedWidth

structure Opened where
  label : Option String
  payload : Payload
deriving Repr, DecidableEq

/-- Opens a token text. The layout is checked first, then the blocks, then the code, so a
text of the wrong shape is refused before any key is derived. -/
def MacScheme.openToken (M : MacScheme) (secret : Secret) (text : String) :
    Result Opened := do
  let t ← Layout.parse text
  let payload ← Base62.decode 16 t.payload
  let sealedData ← Base62.decode 44 t.sealedBlock
  -- a sealed block is the nonce, then the 32 octets of the code
  let nonce := Octets.fit 12 sealedData.bytes
  if Bytes.sameAs (M.code secret nonce t.label payload).bytes (sealedData.bytes.drop 12) then
    .ok ⟨t.label, payload⟩
  else .error (.authentication "Opaque token MAC mismatch")

def MacScheme.extract (M : MacScheme) (secret : Secret) (text : String) : Result Payload :=
  (M.openToken secret text).map (·.payload)

def MacScheme.verify (M : MacScheme) (secret : Secret) (text : String) : Result Unit :=
  (M.openToken secret text).map fun _ => ()

/-- A verifier as a diagnostic dump shows it. The secret does not appear. -/
def verifierDebug : String := "TokenVerifier \x7b key: MacKey \x7b .. \x7d \x7d"

/-- What makes tokens: a secret, a stream for nonces, and a source of payloads. -/
structure Mint where
  secret : Secret
  entropy : Entropy
  source : PayloadSource

/-- Failures of a payload source keep their cause if they are about payloads or entropy, and
are reported as the source's failure otherwise. -/
def sourceFailure : Error → Error
  | .source r => .source r
  | .entropy r => .entropy r
  | e => .source e.message

def Mint.nextPayload (m : Mint) (clock : Clock) : Result Payload × Mint :=
  let d := m.source.next clock m.entropy
  (d.result, { m with source := d.source, entropy := d.entropy })

/-- Makes a token. The label is checked first, then the payload is drawn, then the nonce; a
failure leaves drawn what was drawn before it. -/
def Mint.generate (M : MacScheme) (m : Mint) (clock : Clock) (label : Option String) :
    Result String × Mint :=
  match label.filter (fun l => !isLabel l) with
  | some l =>
    (.error (.argument ("Token prefix must match [a-z0-9-]+, got " ++ Text.quote l)), m)
  | none =>
    match m.nextPayload clock with
    | (.error e, m) => (.error (sourceFailure e), m)
    | (.ok payload, m) =>
      match m.entropy.draw 12 with
      | (.error e, entropy) => (.error e, { m with entropy })
      | (.ok nonce, entropy) =>
        (.ok (M.sealToken m.secret nonce label payload).render, { m with entropy })

end Possession.Token
