import Possession.Bytes
import Possession.Text.Base64Url
import Possession.Text.CodePoints
import Possession.Json.Parser
import Possession.Json.Printer

/-!
# The compact form of signed tokens

A signed token is three parts joined by points. It is cut at its last two points, so a first
part that contains points is not refused here but as ill-formed base64url. What is signed is
the text before the last point.
-/

namespace Possession.Jose

structure Compact where
  header : String
  payload : String
  signature : String
deriving Repr, DecidableEq

namespace Compact

open Text.CodePoints (cutLast)

/-- The parts of a text with at least two points. The signature stands behind the last one
and the payload behind the one before, whatever the header is. -/
def parse? (text : String) : Option Compact := do
  let (message, signature) ← cutLast '.' text.toList
  let (header, payload) ← cutLast '.' message
  return ⟨String.ofList header, String.ofList payload, String.ofList signature⟩

def message (t : Compact) : String := t.header ++ "." ++ t.payload

def render (t : Compact) : String := t.message ++ "." ++ t.signature

end Compact

/-- Why a part of a signed token cannot be read. -/
inductive PartFailure where
  | encoding
  | json
deriving Repr, DecidableEq

def PartFailure.message : PartFailure → String
  | encoding => "Base64 error"
  | json => "JSON error"

/-- The JSON value in a part, with its members as they are written: a member that is
repeated is still there twice, for the reader of a header to refuse. -/
def readPart (part : String) : Except PartFailure Json :=
  match Text.Base64Url.decode? part with
  | none => .error .encoding
  | some bytes =>
    match (Bytes.toString? bytes).bind Json.parse? with
    | none => .error .json
    | some v => .ok v

def writePart (v : Json) : String := Text.Base64Url.encode (Bytes.ofString v.render)

end Possession.Jose
