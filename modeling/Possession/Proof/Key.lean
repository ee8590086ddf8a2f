import Possession.Json.Decode
import Possession.Json.Printer
import Possession.Digest.Fingerprint

/-!
# Public keys and their thumbprints

A proof carries the public key that verifies it. A key is known by its thumbprint: the
fingerprint of the JSON object of exactly its required members, in the order of their names.
-/

namespace Possession.Proof

/-- A public key as a proof writes it, its numbers in base64url. Only the members that the
thumbprint covers are kept. -/
inductive Key where
  | ec (crv x y : String)
  | rsa (n e : String)
  | okp (crv x : String)
deriving Repr, DecidableEq

namespace Key

def kty : Key → String
  | ec .. => "EC"
  | rsa .. => "RSA"
  | okp .. => "OKP"

def toJson : Key → Json
  | ec crv x y => .obj [("kty", .str "EC"), ("crv", .str crv), ("x", .str x), ("y", .str y)]
  | rsa n e => .obj [("kty", .str "RSA"), ("n", .str n), ("e", .str e)]
  | okp crv x => .obj [("kty", .str "OKP"), ("crv", .str crv), ("x", .str x)]

/-- The required members in the order of their names. This and no other text of the key is
hashed, so that every party computes the same thumbprint. -/
def canonical : Key → Json
  | ec crv x y => .obj [("crv", .str crv), ("kty", .str "EC"), ("x", .str x), ("y", .str y)]
  | rsa n e => .obj [("e", .str e), ("kty", .str "RSA"), ("n", .str n)]
  | okp crv x => .obj [("crv", .str crv), ("kty", .str "OKP"), ("x", .str x)]

def thumbprint (k : Key) : String := Digest.fingerprint (Bytes.ofString k.canonical.render)

open Json in
def texts (name : String) (count : Nat) (items : List Json) : Decoded (List String) := do
  let expected := "struct variant ProofJwk::" ++ name ++ " with " ++ elements count
  let found ← (List.range count).mapM fun i => item expected i decodeString items
  if items.length ≤ count then .ok found
  else .error (.length items.length (elements count ++ " in sequence"))

open Json in
def ofMembers (members : List (String × Json)) : Decoded Key := do
  let text (name : String) := field name decodeString members
  match ← require "kty" (lookup "kty" members) with
  | .str "EC" => do
    let crv ← text "crv"; let x ← text "x"; let y ← text "y"
    return ec (← require "crv" crv) (← require "x" x) (← require "y" y)
  | .str "RSA" => do
    let e ← text "e"; let n ← text "n"
    let n ← require "n" n
    return rsa n (← require "e" e)
  | .str "OKP" => do
    let crv ← text "crv"; let x ← text "x"
    return okp (← require "crv" crv) (← require "x" x)
  | .str kty => .error (.unknownName kty ["EC", "RSA", "OKP"])
  | v => mismatch "variant identifier" v

open Json in
/-- The key in a list that begins with its type, its members in the order in which the key
has them. -/
def ofItems : List Json → Decoded Key
  | [] => .error (.missing "kty")
  | .str "EC" :: items => do
    match ← texts "Ec" 3 items with
    | [crv, x, y] => return ec crv x y
    | _ => .error (.missing "kty")
  | .str "RSA" :: items => do
    match ← texts "Rsa" 2 items with
    | [n, e] => return rsa n e
    | _ => .error (.missing "kty")
  | .str "OKP" :: items => do
    match ← texts "Okp" 2 items with
    | [crv, x] => return okp crv x
    | _ => .error (.missing "kty")
  | .str kty :: _ => .error (.unknownName kty ["EC", "RSA", "OKP"])
  | v :: _ => mismatch "variant identifier" v

/-- The key in a JSON value; members that the key's type does not require are ignored. -/
def ofJson : Json → Json.Decoded Key
  | .obj members => ofMembers members
  | .arr items => ofItems items
  | v => Json.mismatch "internally tagged enum ProofJwk" v

end Key

end Possession.Proof
