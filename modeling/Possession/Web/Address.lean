import Possession.Json.Parser
import Possession.Text.CodePoints

/-!
# Numeric addresses

An IPv4 address is written with one to four numbers in decimal, octal or hexadecimal, of
which the last fills what is left; it is printed with four. An IPv6 address is eight pieces
of 16 bits; one run of zero pieces may be left out, and the last two may be written as an
IPv4 address. It is printed with its first longest run of at least two zero pieces left out.
-/

namespace Possession.Web.Address

open Text.CodePoints (cut)

def digit? (base : Nat) (c : Char) : Option Nat := (Json.hexValue? c).filter (· < base)

def number? (base : Nat) (cs : List Char) : Option Nat :=
  (cs.mapM (digit? base)).map fun ds => ds.foldl (fun n d => n * base + d) 0

/-- A part of an IPv4 address. A prefix chooses the base; nothing behind it is zero. -/
def part? : List Char → Option Nat
  | [] => none
  | '0' :: 'x' :: cs | '0' :: 'X' :: cs => number? 16 cs
  | '0' :: c :: cs => number? 8 (c :: cs)
  | cs => number? 10 cs

/-- The parts of a host, without an empty one at the end. -/
def parts (host : List Char) : List (List Char) :=
  let ps := cut '.' host
  if ps.length > 1 && ps.getLast? == some [] then ps.dropLast else ps

/-- Whether the last part of a host is a number, which makes the host an IPv4 address. -/
def endsInNumber (host : List Char) : Bool :=
  match (parts host).getLast? with
  | none => false
  | some last => (!last.isEmpty && last.all Char.isDigit) || (part? last).isSome

/-- The address of four octets given by its parts: all but the last are one octet each, and
the last fills what is left. -/
def combine? : List Nat → Option Nat
  | ns =>
    match ns.reverse with
    | [] => none
    | last :: front =>
      if front.length > 3 || front.any (· > 255) ||
          last ≥ Nat.pow 256 (4 - front.length) then
        none
      else some
        (front.reverse.foldl (fun n p => n * 256 + p) 0 *
          Nat.pow 256 (4 - front.length) + last)

def ofIpv4? (host : List Char) : Option Nat := ((parts host).mapM part?).bind combine?

def printIpv4 (n : Nat) : String :=
  ".".intercalate
    ([n / 16777216 % 256, n / 65536 % 256, n / 256 % 256, n % 256].map toString)

/-- A number of an IPv4 address inside an IPv6 address: decimal, without a zero in front. -/
def strictOctet? (cs : List Char) : Option Nat :=
  match cs with
  | [] => none
  | ['0'] => some 0
  | '0' :: _ => none
  | cs => if cs.length > 3 then none else (number? 10 cs).filter (· < 256)

/-- The two pieces of an IPv4 address inside an IPv6 address. -/
def embedded? (cs : List Char) : Option (List Nat) :=
  match (cut '.' cs).mapM strictOctet? with
  | some [a, b, c, d] => some [a * 256 + b, c * 256 + d]
  | _ => none

def piece? (cs : List Char) : Option Nat :=
  if cs.isEmpty || cs.length > 4 then none else number? 16 cs

/-- The pieces of a list of texts, of which only the last may be an IPv4 address. -/
def pieces? : List (List Char) → Option (List Nat)
  | [] => some []
  | [last] => if last.contains '.' then embedded? last else (piece? last).map ([·])
  | cs :: rest => do return (← piece? cs) :: (← pieces? rest)

/-- The pieces of a text between colons; none for the empty text. -/
def side? (cs : List Char) : Option (List Nat) :=
  if cs.isEmpty then some [] else pieces? (cut ':' cs)

/-- The texts before and behind the first double colon. -/
def cutDouble : List Char → Option (List Char × List Char)
  | ':' :: ':' :: rest => some ([], rest)
  | c :: rest => (cutDouble rest).map fun (a, b) => (c :: a, b)
  | [] => none

/-- The eight pieces of an IPv6 address. A double colon stands for at least one of them. -/
def ofIpv6? (cs : List Char) : Option (List Nat) :=
  match cutDouble cs with
  | none => (side? cs).filter (·.length == 8)
  | some (front, back) =>
    if front.contains '.' then none
    else
      match side? front, side? back with
      | some a, some b =>
        if a.length + b.length ≤ 7 then
          some (a ++ List.replicate (8 - a.length - b.length) 0 ++ b)
        else none
      | _, _ => none

/-- Lengths of the runs of zeros that start at each piece. -/
def zeroRuns : List Nat → List Nat
  | [] => []
  | p :: ps =>
    match zeroRuns ps with
    | r :: rs => (if p = 0 then r + 1 else 0) :: r :: rs
    | [] => [if p = 0 then 1 else 0]

def joinPieces (ps : List Nat) : String :=
  ":".intercalate (ps.map fun p => String.ofList (Nat.toDigits 16 p))

/-- The printed form of an IPv6 address. The first of the longest runs of zeros is left out,
if it is at least two pieces long, so that every address has one printed form. -/
def printIpv6 (ps : List Nat) : String :=
  let runs := zeroRuns ps
  let longest := runs.foldl max 0
  if longest < 2 then joinPieces ps
  else
    let start := runs.findIdx (· == longest)
    joinPieces (ps.take start) ++ "::" ++ joinPieces (ps.drop (start + longest))

end Possession.Web.Address
