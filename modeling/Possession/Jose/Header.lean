import Possession.Jose.Algorithm

/-!
# Headers of signed tokens

A header is a JSON object. Its registered members have fixed types and occur at most once,
every other member is a text, and the algorithm is one that is known by name. Of all this
only the type, the algorithm and the embedded key are kept.
-/

namespace Possession.Jose

open Json

/-- A key embedded in a header, with the members that its type requires. Its other members
are checked and dropped. -/
inductive EmbeddedKey where
  | ec (crv x y : String)
  | rsa (n e : String)
  | oct (k : String)
  | okp (crv x : String)
deriving Repr, DecidableEq

namespace EmbeddedKey

/-- The curve names that an embedded key may use. They are those of all the key types
together, since the name is read without regard to the type. -/
def curves : List String := ["P-256", "P-384", "P-521", "Ed25519"]

def decodeCurve : Json → Decoded String := decodeName (curves.map fun c => (c, c))

/-- A member that has to occur exactly once. -/
def once {α : Type} (name : String) (decode : Json → Decoded α)
    (members : List (String × Json)) : Decoded α := do
  require name (← fieldOnce name decode members)

def decodeType (name : String) : Json → Decoded Unit := decodeName [(name, ())]

/-- The required members of the types of keys, in the order in which the types are tried. -/
def shapes (members : List (String × Json)) : List (Decoded EmbeddedKey) := [
  do
    once "kty" (decodeType "EC") members
    return ec (← once "crv" decodeCurve members) (← once "x" decodeString members)
      (← once "y" decodeString members),
  do
    once "kty" (decodeType "RSA") members
    return rsa (← once "n" decodeString members) (← once "e" decodeString members),
  do
    once "kty" (decodeType "oct") members
    return oct (← once "k" decodeString members),
  do
    once "kty" (decodeType "OKP") members
    return okp (← once "crv" decodeCurve members) (← once "x" decodeString members)]

/-- The algorithm that a key says it is for, which nothing depends on. It is named as in a
header, by a text or an object with one member, but here a name that is not registered
stands for some other algorithm, so any will do. And as a key is read from a buffer, where
null and an empty object are the same to a name without contents, the member may also be an
empty object. -/
def checkAlgorithm : Json → Decoded Unit
  | .str _ | .obj [(_, .null)] | .obj [(_, .obj [])] => .ok ()
  | .obj [(_, v)] => mismatch "unit" v
  | .obj _ => .error (.range "map" "map with a single key")
  | v => mismatch "string or map" v

/-- Checks the members that keys of all types may have. None of them is kept, but one that
is repeated or of the wrong type makes the whole header unreadable. -/
def checkCommon (members : List (String × Json)) : Decoded Unit := do
  for name in ["use", "kid", "x5u", "x5t", "x5t#S256"] do
    let _ ← fieldOnce name (decodeOption decodeString) members
  for name in ["key_ops", "x5c"] do
    let _ ← fieldOnce name (decodeOption (decodeList decodeString)) members
  let _ ← fieldOnce "alg" (decodeOption checkAlgorithm) members

/-- The key in a JSON object: the first type in whose shape the members fit. A key that fits
none is refused without saying which of its members was wrong. -/
def ofJson : Json → Decoded EmbeddedKey
  | .obj members => do
    checkCommon members
    match (shapes members).findSome? Except.toOption with
    | some k => .ok k
    | none => .error (.missing "kty")
  | v => mismatch "struct Jwk" v

/-- The public key for verifying. A symmetric key has none, and a header that embeds one is
refused. -/
def publicKey : EmbeddedKey → Decoded Proof.Key
  | ec crv x y => .ok (.ec crv x y)
  | rsa n e => .ok (.rsa n e)
  | okp crv x => .ok (.okp crv x)
  | oct _ => .error (.unknownName "oct" ["EC", "RSA", "OKP"])

end EmbeddedKey

/-- What is kept of a header. Everything else in it is checked for its type only. -/
structure Header where
  typ : Option String
  alg : Algorithm
  jwk : Option EmbeddedKey
deriving Repr, DecidableEq

namespace Header

def textNames : List String :=
  ["cty", "jku", "kid", "x5u", "x5t", "x5t#S256", "enc", "zip", "url", "nonce"]

def listNames : List String := ["x5c", "crit"]

def registered : List String := ["typ", "alg", "jwk"] ++ textNames ++ listNames

/-- The header in a JSON object. The type and the key may be absent or null, the algorithm
has to be there; a member that is not registered has to be a text. -/
def ofJson : Json → Decoded Header
  | .obj members => do
    let typ ← fieldOnce "typ" (decodeOption decodeString) members
    let alg ← fieldOnce "alg" Algorithm.ofJson members
    let jwk ← fieldOnce "jwk" (decodeOption EmbeddedKey.ofJson) members
    for name in textNames do
      let _ ← fieldOnce name (decodeOption decodeString) members
    for name in listNames do
      let _ ← fieldOnce name (decodeOption (decodeList decodeString)) members
    for (name, v) in members do
      if !registered.contains name then
        let _ ← decodeString v
    return ⟨typ.getD none, ← require "alg" alg, jwk.getD none⟩
  | v => mismatch "struct Header" v

end Header

end Possession.Jose
