import Possession.Digest.Fingerprint
import Possession.Proof.Envelope
import Possession.Proof.Settings
import Possession.Proof.Target
import Possession.Replay.Key

/-!
# Verifying proofs

A proof passes three gates. `Verifier.examine` looks at the proof alone: it is for this
request, fresh, and authentic under the key that it carries. `Verifier.consume` uses up its
replay key, so that it counts as used whatever follows. `confirm` compares it with what the
caller already knows, the access token and the key. The first failure ends the verification.

A proof's age is a 64-bit number. A proof from so far in the future that its age is the
least such number is refused with a text that needs the negation of the age, which does not
exist; this is kept apart as `Failure.overflow`.
-/

namespace Possession.Proof

/-- Why a proof is not accepted. An age that cannot be negated is no refusal with a message,
as the message cannot be formed. -/
inductive Failure where
  | refused (cause : Error)
  | overflow
deriving Repr, DecidableEq

abbrev Checked (α : Type) := Except Failure α

def Checked.ofResult {α : Type} (r : Result α) : Checked α := r.mapError .refused

/-- What the caller of a verification knows already. What is left open is not compared. -/
structure Expectation where
  /-- The access token that came with the proof. -/
  token : Option String := none
  /-- The thumbprint of the key that the proof has to be made with. -/
  jkt : Option String := none
deriving Repr, DecidableEq

def stale (age window : Int64) : Error :=
  .validation .issuedAtStale
    ("Proof issued " ++ toString age.toInt ++ "s ago, window is " ++
    toString window.toInt ++ "s")

def early (lead window : Int64) : Error :=
  .validation .issuedAtFuture ("Proof issued " ++ toString lead.toInt ++
    "s in the future, window is " ++ toString window.toInt ++ "s")

/-- Whether a proof made at `iat` is fresh at `now`: its age is at most the window on either
side, and both ends are still fresh. -/
def checkFresh (window now iat : Int64) : Checked Unit :=
  let age := Int64.subClamped now iat
  if window < age then .error (.refused (stale age window))
  else if age < -window then
    -- the message shows how far ahead the proof is, and the least word has no opposite
    if age = Int64.minValue then .error .overflow
    else .error (.refused (early (-age) window))
  else .ok ()

/-- Whether a proof's claims are about a request. The comparison is of texts, as both sides
are in canonical form. -/
def checkTarget (claims : Claims) (target : Target) : Result Unit :=
  if claims.htm ≠ target.method then
    .error (.validation .httpMethod
      ("HTTP method mismatch: expected " ++ target.method ++ ", got " ++ claims.htm))
  else if claims.htu ≠ target.url then
    .error (.validation .httpUrl
      ("HTTP URI mismatch: expected " ++ target.url ++ ", got " ++ claims.htu))
  else .ok ()

/-- What a failure to read a proof becomes: malformed input, whatever it was. -/
def unreadable : Error → Error
  | .format reason => .format reason
  | e => .format e.message

/-- The claims of an envelope that is a proof, with the key under which they are authentic.
The declared type and the key are looked at before the signature is. -/
def Envelope.authenticate (e : Envelope) : Result (Key × Claims) :=
  if e.typ = some proofType then
    match e.key with
    | none => .error missingKey
    | some key => (e.claims key).map (key, ·)
  else
    .error (.format ("Invalid proof type: expected " ++ proofType ++ ", got " ++
      Text.quoteOption e.typ))

/-- Compares a proof with what the caller knows, the token before the key. A proof that
names no access token is not compared with one, even if the caller has it. -/
def confirm (x : Expectation) (key : Key) (claims : Claims) : Result Confirmation :=
  let differs (token ath : String) : Bool := !Digest.sameText ath (tokenHash token)
  let jkt := key.thumbprint
  if (x.token.any fun token => claims.ath.any (differs token)) then
    .error (.binding "Access token hash mismatch")
  else if (x.jkt.any fun expected => !Digest.sameText expected jkt) then
    .error (.binding "JWK thumbprint mismatch")
  else .ok ⟨jkt⟩

/-- A verifier over a replay store with states `σ`. -/
structure Verifier (σ : Type) where
  parser : Parser
  store : Replay.Store σ
  clock : Clock
  settings : Settings := {}

namespace Verifier

variable {σ : Type}

def withSettings (v : Verifier σ) (s : Settings) : Result (Verifier σ) :=
  s.validate.map fun _ => { v with settings := s }

/-- Checks a proof by itself: the key it carries and its claims, if it is a fresh authentic
proof for this request. The store has no part in this, so a proof that fails here leaves no
trace. -/
def examine (v : Verifier σ) (D : Web.Url.DomainReader) (method url proof : String) :
    Checked (Key × Claims) := do
  let target ← Checked.ofResult (Target.ofRequest D method url)
  if Text.isBlank proof then throw (.refused (.argument "DPoP proof must not be blank"))
  let envelope ← Checked.ofResult ((v.parser proof).mapError unreadable)
  let (key, claims) ← Checked.ofResult envelope.authenticate
  Checked.ofResult (checkTarget claims target)
  let now ← Checked.ofResult v.clock.now
  checkFresh v.settings.window now claims.iat
  return (key, claims)

/-- What a failure of the store becomes: a failure of storage with its reason, and any other
with its message. -/
def storeFailure : Error → Error
  | .storage reason => .storage reason
  | e => .storage e.message

/-- The outcome of a call on the store in the time that it may take. A call that is left at
its deadline may have changed the store all the same. -/
def call {α : Type} (v : Verifier σ) (c : Replay.Call σ α) : Result α × σ :=
  let (r, s) := match v.settings.timeout with
    | none => c.run
    | some limit =>
      let (r, s) := c.runWithin limit.nanos
      (r.getD (.error (.storage ("Replay store timed out after " ++ limit.text))), s)
  (r.mapError storeFailure, s)

/-- Uses up a replay key, and tells whether it was unused. Looking and then registering are
two calls, each with a deadline of its own, and another verifier may come between them. -/
def useKey (v : Verifier σ) (key : String) (s : σ) : Result Bool × σ :=
  match v.settings.mode with
  | .lookThenRegister =>
    match v.call (v.store.contains key s) with
    | (.ok true, s) => (.ok false, s)
    | (.ok false, s) =>
      -- others may have found the key unused by now as well
      let (r, s) := v.call (v.store.register key v.settings.ttl s)
      (r.map fun _ => true, s)
    | (.error e, s) => (.error e, s)
  | .insertIfAbsent => v.call (v.store.insertIfAbsent key v.settings.ttl s)

/-- Uses up the replay key of an identifier, which has to be unused. -/
def consume (v : Verifier σ) (jti : String) (s : σ) : Result Unit × σ :=
  let key := Replay.key jti
  match v.useKey key s with
  | (.ok true, s) => (.ok (), s)
  | (.ok false, s) => (.error (.replay key), s)
  | (.error e, s) => (.error e, s)

/-- Verifies a proof for a request. The key is used up before the proof is compared with
what the caller knows, so a proof that is then refused is used up as well. -/
def verify (v : Verifier σ) (D : Web.Url.DomainReader) (method url proof : String)
    (x : Expectation) (s : σ) : Checked Confirmation × σ :=
  match v.examine D method url proof with
  | .error e => (.error e, s)
  | .ok (key, claims) =>
    match v.consume claims.jti s with
    | (.error e, s) => (.error (.refused e), s)
    | (.ok (), s) => (Checked.ofResult (confirm x key claims), s)

end Verifier

end Possession.Proof
