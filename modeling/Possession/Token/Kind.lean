import Possession.Token.Seal
import Possession.Json.Decode

/-!
# Token kinds

Five kinds of token have a label of two letters; a token of the sixth has none. A router
mints by kind and opens by kind, refusing a token whose label belongs to another.
-/

namespace Possession.Token

/-- What a token is for. The payload does not tell; only the label does. -/
inductive Kind where
  | accessToken
  | refreshToken
  | authorizeCode
  | phantomToken
  | deviceCode
  | unspecified
deriving Repr, DecidableEq, Inhabited

namespace Kind

def all : List Kind :=
  [accessToken, refreshToken, authorizeCode, phantomToken, deviceCode, unspecified]

/-- The name of a kind, in messages and in documents. -/
def name : Kind → String
  | accessToken => "access_token"
  | refreshToken => "refresh_token"
  | authorizeCode => "authorize_code"
  | phantomToken => "phantom_token"
  | deviceCode => "device_code"
  | unspecified => "unspecified"

def debug : Kind → String
  | accessToken => "AccessToken"
  | refreshToken => "RefreshToken"
  | authorizeCode => "AuthorizeCode"
  | phantomToken => "PhantomToken"
  | deviceCode => "DeviceCode"
  | unspecified => "Unspecified"

/-- The label of a kind's tokens. No two kinds have one label, and the one without a label
is a kind like the others. -/
def label : Kind → Option String
  | accessToken => some "at"
  | refreshToken => some "rt"
  | authorizeCode => some "ac"
  | phantomToken => some "pt"
  | deviceCode => some "dc"
  | unspecified => none

def ofLabel? (label : Option String) : Option Kind := all.find? fun k => k.label == label

def ofName? (name : String) : Option Kind := all.find? fun k => k.name == name

def ofJson (v : Json) : Json.Decoded Kind :=
  Json.decodeName (all.map fun k => (k.name, k)) v

/-- The kind that a token text claims to be, without opening it. Nothing is authenticated by
this, and a label that belongs to no kind gives none. -/
def ofToken? (text : String) : Option Kind :=
  (Layout.parse? text).bind fun t => ofLabel? t.label

end Kind

def Mint.route (M : MacScheme) (m : Mint) (clock : Clock) (kind : Kind) :
    Result String × Mint :=
  m.generate M clock kind.label

/-- The payload of a token of a kind. The token is opened first, so that a forged one is
reported as forged, and only then is its label compared. -/
def MacScheme.openKind (M : MacScheme) (secret : Secret) (kind : Kind) (text : String) :
    Result Payload := do
  let opened ← M.openToken secret text
  if opened.label == kind.label then .ok opened.payload
  else .error (.authentication ("Token is not a " ++ kind.name))

end Possession.Token
