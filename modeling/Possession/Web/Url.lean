import Possession.Bytes
import Possession.Web.Address
import Possession.Web.Idna

/-!
# URLs

A URL is read into its parts. Schemes of the web family are *special*: they have a host, a
default port, and take a backslash for a slash. Hosts of special URLs are domain names or
addresses; those of other URLs are any text without structuring characters. Paths are
resolved: dots and double dots disappear. The reading of domain names is a parameter.
-/

namespace Possession.Web

open Text.CodePoints (cut cutLast)

/-- Why a text is not a URL. -/
inductive UrlError where
  | emptyHost
  | domainName
  | port
  | ipv4
  | ipv6
  | hostCharacter
  | relative
deriving Repr, DecidableEq

def UrlError.message : UrlError → String
  | emptyHost => "empty host"
  | domainName => "invalid international domain name"
  | port => "invalid port number"
  | ipv4 => "invalid IPv4 address"
  | ipv6 => "invalid IPv6 address"
  | hostCharacter => "invalid domain character"
  | relative => "relative URL without a base"

inductive Host where
  | domain (name : String)
  | ipv4 (address : Nat)
  | ipv6 (pieces : List Nat)
deriving Repr, DecidableEq

def Host.render : Host → String
  | domain name => name
  | ipv4 a => Address.printIpv4 a
  | ipv6 ps => "[" ++ Address.printIpv6 ps ++ "]"

/-- The parts of a URL. The texts before an at sign are kept as written. -/
structure Url where
  scheme : String
  username : String
  password : Option String
  host : Option Host
  port : Option Nat
  path : String
  query : Option String
deriving Repr, DecidableEq

namespace Url

/-- What a scheme means for the rest of a URL. -/
inductive Family where
  /-- A scheme with a host and a default port. -/
  | web (port : Nat)
  | file
  | other
deriving Repr, DecidableEq

namespace Family

def ofScheme : String → Family
  | "http" | "ws" => web 80
  | "https" | "wss" => web 443
  | "ftp" => web 21
  | "file" => file
  | _ => other

/-- Whether a backslash is taken for a slash. -/
def isSpecial : Family → Bool
  | other => false
  | _ => true

def isSlash (f : Family) (c : Char) : Bool := c = '/' || (f.isSpecial && c = '\\')

/-- Whether a character ends the part between the slashes and the path. -/
def endsAuthority (f : Family) (c : Char) : Bool := f.isSlash c || c = '?' || c = '#'

end Family

/-! ## Octets in percent form -/

def percent (b : UInt8) : List Char :=
  ['%', (Nat.digitChar (b.toNat / 16)).toUpper, (Nat.digitChar (b.toNat % 16)).toUpper]

/-- Puts the characters of a set, and all beyond ASCII, into percent form. A percent sign
itself is in no such set, so what is in that form already stays as it is. -/
def encodeChars (isReserved : Char → Bool) (cs : List Char) : List Char :=
  cs.flatMap fun c =>
    if isReserved c || c.toNat > 126 then
      (Bytes.ofString (String.singleton c)).flatMap percent
    else [c]

/-- The octets of a text, those in percent form read. -/
def decodePercent : List Char → Bytes
  | '%' :: a :: b :: rest =>
    match Json.hexValue? a, Json.hexValue? b with
    | some x, some y => UInt8.ofNat (x * 16 + y) :: decodePercent rest
    | _, _ => Bytes.ofString "%" ++ decodePercent (a :: b :: rest)
  | c :: rest => Bytes.ofString (String.singleton c) ++ decodePercent rest
  | [] => []

def isControl (c : Char) : Bool := c.toNat < 32

/-- Characters that a path shows in percent form. -/
def isPathReserved (c : Char) : Bool := isControl c || " \"<>`#?\x7b\x7d".toList.contains c

/-! ## Hosts -/

/-- The reading of a domain name: its ASCII form, or nothing. What is proved of URLs is
proved for readers of which only a few facts are asked, the one with the tables among
them. -/
abbrev DomainReader := List Char → Option (List Char)

def bracketed (cs : List Char) : Except UrlError Host :=
  if cs.getLast? == some ']' then
    match Address.ofIpv6? (cs.drop 1).dropLast with
    | some ps => .ok (.ipv6 ps)
    | none => .error .ipv6
  else .error .ipv6

/-- The host of a special URL. Percent forms are read first, and what the domain reader
makes of the result may still turn out to be an IPv4 address. -/
def specialHost (D : DomainReader) (cs : List Char) : Except UrlError Host :=
  if cs.head? == some '[' then bracketed cs
  else
    match (Bytes.toString? (decodePercent cs)).bind fun s => D s.toList with
    | none => .error .domainName
    | some [] => .error .emptyHost
    | some name =>
      if Address.endsInNumber name then
        match Address.ofIpv4? name with
        | some a => .ok (.ipv4 a)
        | none => .error .ipv4
      else .ok (.domain (String.ofList name))

def isHostForbidden (c : Char) : Bool := "\x00\t\n\r #/:<>?@[\\]^|".toList.contains c

def opaqueHost (cs : List Char) : Except UrlError Host :=
  if cs.head? == some '[' then bracketed cs
  else if cs.any isHostForbidden then .error .hostCharacter
  else .ok (.domain (String.ofList (encodeChars isControl cs)))

/-- The host of a URL of a family that has one; other URLs may have an empty one. -/
def readHost (D : DomainReader) (f : Family) (cs : List Char) :
    Except UrlError (Option Host) :=
  if f.isSpecial then
    if cs.isEmpty then .error .emptyHost else (specialHost D cs).map some
  else if cs.isEmpty then .ok none
  else (opaqueHost cs).map some

/-- Cuts off a port: at the first colon that is not in brackets. -/
def cutPort : (inside : Bool) → List Char → List Char × Option (List Char)
  | _, [] => ([], none)
  | inside, c :: cs =>
    if c = ':' ∧ !inside then ([], some cs)
    else
      let inside := if c = '[' then true else if c = ']' then false else inside
      let (host, port) := cutPort inside cs
      (c :: host, port)

/-- The number of a port, and what is left behind its digits. A backslash ends a port. -/
def readPort (cs : List Char) : Except UrlError (Option Nat × List Char) :=
  let (ds, rest) := cs.span Char.isDigit
  match rest with
  | [] | '\\' :: _ =>
    let n := ds.foldl (fun n c => n * 10 + (c.toNat - 48)) 0
    if n > 65535 then .error .port else .ok (if ds.isEmpty then none else some n, rest)
  | _ => .error .port

/-! ## Paths -/

/-- A segment that stays in place, with its dot as it is or in percent form. -/
def isDot (cs : List Char) : Bool :=
  match cs with
  | ['.'] => true
  | ['%', '2', c] => c = 'e' || c = 'E'
  | _ => false

def isDoubleDot (cs : List Char) : Bool :=
  match cs with
  | '.' :: rest => isDot rest
  | '%' :: '2' :: c :: rest => (c = 'e' || c = 'E') && isDot rest
  | _ => false

/-- A segment that names a drive, which going up does not leave. -/
def isDrive (cs : List Char) : Bool :=
  match cs with
  | [a, b] => a.isAlpha && (b = ':' || b = '|')
  | _ => false

/-- Takes back the last segment, if there is one. Segments are given last one first. -/
def goUp : List (List Char) → List (List Char)
  | [] => []
  | s :: rest => if isDrive s then s :: rest else rest

/-- Resolves the segments that are left against those before, which are given last one
first. The result ends with the last segment, empty if the path ends with a slash. -/
def resolve (before : List (List Char)) : List (List Char) → List (List Char)
  | [] => before.reverse
  | [s] =>
    if isDoubleDot s then (goUp before).reverse ++ [[]]
    else if isDot s then before.reverse ++ [[]]
    else before.reverse ++ [s]
  | s :: rest =>
    if isDoubleDot s then resolve (goUp before) rest
    else if isDot s then resolve before rest
    else resolve (s :: before) rest

def segments (f : Family) (cs : List Char) : List (List Char) :=
  cut '/' (cs.map fun c => if f.isSlash c then '/' else c)

def resolvedPath (f : Family) (cs : List Char) : List Char :=
  (resolve [] ((segments f cs).map (encodeChars isPathReserved))).flatMap ('/' :: ·)

/-- The path of a text that follows a host. -/
def pathBehindHost (f : Family) (cs : List Char) : List Char :=
  match cs with
  | c :: rest => if f.isSlash c then resolvedPath f rest else resolvedPath f cs
  | [] => if f.isSpecial then ['/'] else []

/-! ## The whole -/

/-- Drops blanks and controls at both ends, and tabs and line ends everywhere, before
anything else is read. -/
def clean (cs : List Char) : List Char :=
  let isOuter (c : Char) : Bool := c.toNat ≤ 32
  let trimmed := ((cs.dropWhile isOuter).reverse.dropWhile isOuter).reverse
  trimmed.filter fun c => !(c = '\t' || c = '\n' || c = '\r')

def isSchemeChar (c : Char) : Bool := c.isAlphanum || c = '+' || c = '-' || c = '.'

/-- The scheme of a text, and what follows its colon. -/
def cutScheme (cs : List Char) : Option (String × List Char) :=
  let scheme := cs.takeWhile isSchemeChar
  match scheme.head?, cs.dropWhile isSchemeChar with
  | some c, ':' :: rest =>
    if c.isAlpha then some (String.ofList (scheme.map Char.toLower), rest) else none
  | _, _ => none

/-- The text before a fragment and before a query, and the query. -/
def cutQuery (cs : List Char) : List Char × Option (List Char) :=
  let cs := cs.takeWhile (· ≠ '#')
  match cs.dropWhile (· ≠ '?') with
  | [] => (cs, none)
  | _ :: q => (cs.takeWhile (· ≠ '?'), some q)

/-- The user before the last at sign, if there is one, and the address. -/
def cutUser (cs : List Char) : Option (List Char) × List Char :=
  match cutLast '@' cs with
  | none => (none, cs)
  | some (user, address) => (some user, address)

/-- A user with a password behind the first colon; an empty password is none. -/
def splitUser (cs : List Char) : String × Option String :=
  let name := String.ofList (cs.takeWhile (· ≠ ':'))
  match cs.dropWhile (· ≠ ':') with
  | _ :: c :: rest => (name, some (String.ofList (c :: rest)))
  | _ => (name, none)

/-- Reads what follows the double slash: user, host, port, path and query. A port that is
the default of the scheme is not kept. -/
def readAuthority (D : DomainReader) (scheme : String) (f : Family) (cs : List Char) :
    Except UrlError Url := do
  let authority := cs.takeWhile (!f.endsAuthority ·)
  let rest := cs.dropWhile (!f.endsAuthority ·)
  let (user, address) := cutUser authority
  let (name, password) := splitUser (user.getD [])
  -- an at sign with nothing on either side
  if user == some [] && address.isEmpty && !rest.isEmpty then throw .emptyHost
  let (hostText, portText) := cutPort false address
  let host ← readHost D f hostText
  if host.isNone && (portText.isSome || !name.isEmpty || password.isSome) then
    throw .emptyHost
  let (port, left) ← match portText with
    | some p => readPort p
    | none => .ok (none, [])
  let (pathText, query) := cutQuery (left ++ rest)
  let default := match f with
    | .web n => some n
    | _ => none
  return ⟨scheme, name, password, host, if port == default then none else port,
    String.ofList (pathBehindHost f pathText), query.map String.ofList⟩

/-- Reads a `file` URL, whose host is what stands between a double slash and the next slash.
The local host and a drive are no host. -/
def readFile (D : DomainReader) (cs : List Char) : Except UrlError Url := do
  let isSlash := Family.file.isSlash
  match cs with
  | a :: b :: rest =>
    if isSlash a && isSlash b then
      let hostText := rest.takeWhile (!Family.file.endsAuthority ·)
      let behind := rest.dropWhile (!Family.file.endsAuthority ·)
      let isLocal := hostText.isEmpty || isDrive hostText
      let host ← if isLocal then pure none else (specialHost D hostText).map some
      let host := if host == some (.domain "localhost") then none else host
      let (pathText, query) := cutQuery (if isLocal then rest else behind)
      return ⟨"file", "", none, host, none, String.ofList (pathBehindHost .file pathText),
        query.map String.ofList⟩
    else plain cs
  | _ => plain cs
where
  plain (cs : List Char) : Except UrlError Url :=
    let (pathText, query) := cutQuery cs
    .ok ⟨"file", "", none, none, none, String.ofList (pathBehindHost .file pathText),
      query.map String.ofList⟩

/-- Reads a URL of another scheme that has no double slash. -/
def readBare (scheme : String) (cs : List Char) : Url :=
  let (pathText, query) := cutQuery cs
  let path := match pathText with
    | '/' :: rest => resolvedPath .other rest
    | cs => encodeChars isControl cs
  ⟨scheme, "", none, none, none, String.ofList path, query.map String.ofList⟩

/-- Reads a URL. Only URLs that stand by themselves are read; one that leaves out its scheme
is refused. -/
def parse (D : DomainReader) (text : String) : Except UrlError Url :=
  match cutScheme (clean text.toList) with
  | none => .error .relative
  | some (scheme, rest) =>
    match Family.ofScheme scheme with
    | .web n =>
      let slashes (c : Char) : Bool := c = '/' || c = '\\'
      readAuthority D scheme (.web n) (rest.dropWhile slashes)
    | .file => readFile D rest
    | .other =>
      match rest with
      | '/' :: '/' :: rest => readAuthority D scheme .other rest
      | rest => .ok (readBare scheme rest)

end Url

end Possession.Web
